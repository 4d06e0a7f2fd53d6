import Cachersize.Concurrent.Restriction
import Cachersize.Provider.Mutex
import Cachersize.Provider.Responses

/-! Admin requests with a wrong token have no influence on the rest of a run, and
learn nothing from it. -/
namespace Cachersize

open Concurrent

def Request.token : Request → Option StdString
  | createCache _ token _ _ | openCache _ token _ _ => some token
  | closeCache token _ | destroyCache token _ => some token
  | checkCache _ | sayHello _ | computeSum .. => none

def Request.intrudes (m_token : StdString) (request : Request) : Bool :=
  match request.token with
  | some token => token ≠ m_token
  | none => false

namespace ProviderImpl

variable {J β : Type}

/-- The one answer to a wrong token. Nothing in it comes from the provider or from the
other arguments of the request. -/
def rejection : Request → Response
  | .createCache .. | .openCache .. => failedUuid (lit "Invalid security token")
  | _ => failedBool (lit "Invalid security token")

/-- The handler of an intruding request, and its events, at each of its three stages. -/
inductive Rejects (runtime : Runtime J β) (m_token : StdString) (request : Request) :
    Handler J β Unit → List (Event J β) → Prop where
  | arrived (intrudes : request.intrudes m_token = true) :
      Rejects runtime m_token request (handler runtime request) [.received request]
  | refused : Rejects runtime m_token request (.perform (.respond (rejection request)) .done)
      [.received request, .readToken m_token]
  | answered : Rejects runtime m_token request (.done ())
      [.received request, .readToken m_token, .responded (rejection request)]

variable {runtime : Runtime J β} {m_token : StdString} {request : Request}

private theorem handler_rejects (nonempty : m_token ≠ []) (intrudes : request.intrudes m_token = true) :
    ∃ next : StdString → Handler J β Unit, handler runtime request = .perform .m_token next ∧
      next m_token = .perform (.respond (rejection request)) .done := by
  have positive : m_token.length > 0 := List.length_pos_iff.mpr nonempty
  cases request with
  | createCache | openCache =>
    have invalid : m_token ≠ _ := fun same => of_decide_eq_true intrudes same.symm
    exact ⟨_, addCache_eq .., if_pos ⟨positive, invalid⟩⟩
  | closeCache =>
    have invalid : m_token ≠ _ := fun same => of_decide_eq_true intrudes same.symm
    exact ⟨_, closeCache_eq .., if_pos ⟨positive, invalid⟩⟩
  | destroyCache =>
    have invalid : m_token ≠ _ := fun same => of_decide_eq_true intrudes same.symm
    exact ⟨_, destroyCache_eq .., if_pos ⟨positive, invalid⟩⟩
  | checkCache | sayHello | computeSum => cases intrudes

/-- What an operation does depends on the provider and on the calls made so far. -/
theorem exec_congr {thread : Nat} {op : Op J β} {s s' : State J β} (shared : s.shared = s'.shared)
    (calls : Event.calls s.log = Event.calls s'.log) :
    exec runtime thread op s = exec runtime thread op s' := by
  cases op <;> simp only [exec, shared, calls]

theorem Rejects.step {thread : Nat} {op : Op J β} {next : op.Answer → Handler J β Unit}
    {past events : List (Event J β)} {s : State J β} {answer : op.Answer} {shared : ProviderImpl β}
    (nonempty : m_token ≠ []) (rejects : Rejects runtime m_token request (.perform op next) past)
    (token : s.shared.m_token = m_token)
    (answered : exec runtime thread op s = some (answer, shared, events)) :
    shared = s.shared ∧ (∀ event ∈ events, event.isCall = false) ∧
      Rejects runtime m_token request (next answer) (past ++ events) := by
  generalize current : Program.perform op next = program at rejects
  cases rejects with
  | arrived intrudes =>
    obtain ⟨rest, reads, refuses⟩ := handler_rejects nonempty intrudes
    rw [reads] at current
    cases current
    cases answered
    refine ⟨rfl, by simp [Event.isCall], ?_⟩
    rw [token, refuses]
    exact .refused
  | refused =>
    cases current
    cases answered
    exact ⟨rfl, by simp [Event.isCall], .answered⟩
  | answered => cases current

def intruders (runtime : Runtime J β) {m_token : StdString} (nonempty : m_token ≠ []) :
    Idling (system runtime) (Request.intrudes m_token) where
  inv provider := provider.m_token = m_token
  visible := Event.isCall
  Idle := Rejects runtime m_token
  arrives := fun _ intrudes => ⟨.arrived intrudes, rfl⟩
  idles := fun _ _ _ _ _ _ _ _ _ rejects valid answered => rejects.step nonempty valid answered
  keeps := fun _ _ _ _ _ _ valid answered => (exec_token answered).trans valid
  congr := fun _ _ _ _ shared calls => exec_congr shared calls

theorem Rejects.finished {outcome : Except StdString Unit} {events : List (Event J β)}
    (nonempty : m_token ≠ [])
    (rejects : Rejects runtime m_token request (Program.ofExcept outcome) events) :
    outcome = .ok () ∧ ProviderImpl.responses events = [rejection request] := by
  generalize current : (Program.ofExcept outcome : Handler J β Unit) = program at rejects
  cases rejects with
  | arrived intrudes =>
    obtain ⟨next, reads, -⟩ := handler_rejects nonempty intrudes
    rw [reads] at current
    cases outcome <;> cases current
  | refused => cases outcome <;> cases current
  | answered =>
    cases outcome with
    | ok result => exact ⟨rfl, rfl⟩
    | error what => cases current

/-- Two runs, one with and one without the requests of a wrong token: the provider,
the calls of the factory and of the backends, and everything that the other requests
see are the same. The removed requests are all answered alike. -/
theorem intruders_without_influence (nonempty : m_token ≠ [])
    {actions : List (Action Request StdString)} {pool : Provider J β}
    (constant : ∀ token, .external token ∈ actions → token = m_token)
    (served : serve runtime m_token actions = some pool) :
    ∃ (removed : List Nat) (rest : Provider J β),
      serve runtime m_token (without (Request.intrudes m_token) [] actions) = some rest ∧
      (∀ thread request program, pool.threads thread = some ⟨request, program⟩ →
        (thread ∈ removed ↔ request.intrudes m_token = true)) ∧
      rest.global.shared.m_backends = pool.global.shared.m_backends ∧
      Event.calls rest.global.log = Event.calls pool.global.log ∧
      rest.global.log = (pool.global.log.filter fun entry => entry.1 ∉ removed) ∧
      (∀ thread, thread ∉ removed → rest.threads thread = pool.threads thread ∧
        Global.own thread rest.global.log = Global.own thread pool.global.log) ∧
      ∀ thread request outcome, thread ∈ removed → Finished pool thread request outcome →
        outcome = .ok () ∧ responses (Global.own thread pool.global.log) = [rejection request] := by
  have initially : (intruders runtime nonempty).inv (empty m_token) := rfl
  obtain ⟨removed, rest, servedRest, restricts⟩ :=
    Idling.run_without initially (fun token member _ _ => constant token member) served
  refine ⟨removed, rest, servedRest, ?_, congrArg m_backends restricts.shared, restricts.seen,
    restricts.log, fun thread kept => ⟨restricts.threads thread kept, ?_⟩, ?_⟩
  · intro thread request program present
    refine ⟨fun member => ?_, restricts.removed thread request program present⟩
    obtain ⟨_, _, found, intrudes, -⟩ := restricts.present thread member
    cases present.symm.trans found
    exact intrudes
  · rw [restricts.log, Idling.own_kept kept]
  · intro thread request outcome member finished
    obtain ⟨_, _, found, -, rejects⟩ := restricts.present thread member
    cases Eq.trans (Eq.symm finished) found
    exact rejects.finished nonempty

/-- A request with a wrong token tries to destroy a cache between its creation and its
first use. -/
def intrusion : List (Action Request StdString) :=
  [.spawn 0 (.createCache UUID.clear (lit "secret") (lit "dummy") (lit "{}")), .step 0,
    .spawn 1 (.destroyCache (lit "guess") UUID.clear), .step 1] ++ List.replicate 5 (.step 0) ++
    [.step 1, .spawn 2 (.checkCache UUID.clear)] ++ List.replicate 4 (.step 2)

theorem intrusion_without_influence : ∃ (pool rest : Provider Unit (DummyCache Unit)),
    serve DummyCache.sample (lit "secret") intrusion = some pool ∧
    serve DummyCache.sample (lit "secret") (without (Request.intrudes (lit "secret")) [] intrusion) =
      some rest ∧
    rest.global.shared.m_backends = pool.global.shared.m_backends ∧
    responses (Global.own 1 pool.global.log) = [failedBool (lit "Invalid security token")] := by
  obtain ⟨pool, served, finished⟩ : ∃ pool,
      serve DummyCache.sample (lit "secret") intrusion = some pool ∧
      Finished pool 1 (.destroyCache (lit "guess") UUID.clear) (.ok ()) := ⟨_, rfl, rfl⟩
  have nonempty : lit "secret" ≠ [] := by decide
  have constant : ∀ token, .external token ∈ intrusion → token = lit "secret" := by
    simp [intrusion]
  obtain ⟨removed, rest, servedRest, intruding, registry, -, -, -, rejected⟩ :=
    intruders_without_influence nonempty constant served
  have gone : 1 ∈ removed := (intruding 1 _ _ finished).mpr (by decide)
  exact ⟨pool, rest, served, servedRest, registry, (rejected 1 _ _ gone finished).2⟩

end ProviderImpl

end Cachersize
