import Cachersize.Client.Procedures
import Cachersize.Provider.Replay
import Cachersize.Provider.Progress
import Cachersize.Dummy

/-! Which requests are answered, how often, and what becomes of exceptions. -/
namespace Cachersize.ProviderImpl

open Concurrent

variable {J β : Type}

/-- The arguments of the `req.respond` calls among some events. -/
def responses (events : List (Event J β)) : List Response :=
  events.filterMap fun event => match event with
    | .responded response => some response
    | _ => none

@[simp] theorem responses_append (first second : List (Event J β)) :
    responses (first ++ second) = responses first ++ responses second :=
  List.filterMap_append

/-- The handler answered once if the caller waits for an answer, and not at all if
the caller disabled it. -/
def AnsweredAsRegistered (request : Request) (events : List (Event J β)) : Prop :=
  (responses events).length = if request.procedure.response_disabled then 0 else 1

/-- A `sayHello` whose id was not bound when `FIND_CACHE` looked it up. -/
def HelloMissed (request : Request) (thread : Nat) (log : Log J β) : Prop :=
  match request with
  | .sayHello cache_id => LookupMissed thread cache_id log
  | _ => False

/-- A `createCache` or `openCache` that passed the token test with a configuration
on which `json::parse` throws something else than a `json::parse_error`. -/
def ParseEscaped (runtime : Runtime J β) (request : Request) (events : List (Event J β)) : Prop :=
  match request with
  | .createCache _ token _ cache_config | .openCache _ token _ cache_config =>
      (∃ secret, .readToken secret ∈ events ∧ ¬ InvalidToken secret token) ∧
        ∃ what, runtime.parse cache_config = .error (.other what)
  | _ => False

/-- The backend call that the handler makes outside any `try` block threw. -/
def CallThrew (events : List (Event J β)) : Prop :=
  ∃ what, (∃ cache, .saidHello cache (.error what) ∈ events) ∨
    (∃ cache x y, .computedSum cache x y (.error what) ∈ events) ∨
    (∃ cache, .destroyed cache (.error what) ∈ events)

variable {runtime : Runtime J β} {request : Request} {outcome : Except StdString Unit}
variable {events : List (Event J β)}

@[simp] theorem addRequest_response (operation : FactoryCall) (generated : UUID)
    (token cache_type cache_config : StdString) :
    (addRequest operation generated token cache_type cache_config).procedure.response_disabled =
      false := by
  cases operation <;> rfl

private theorem parseEscaped_add (operation : FactoryCall) (generated : UUID)
    (token cache_type cache_config : StdString) :
    ParseEscaped runtime (addRequest operation generated token cache_type cache_config) events ↔
      (∃ secret, .readToken secret ∈ events ∧ ¬ InvalidToken secret token) ∧
        ∃ what, runtime.parse cache_config = .error (.other what) := by
  cases operation <;> rfl

/-- A backend never throws from a call that a handler makes outside `try`. -/
def Returns (runtime : Runtime J β) : Prop :=
  ∀ history call, ∃ result, runtime.perform history call = .ok result

/-- Exits of `FIND_CACHE` in `sayHello` after a miss, from the events of the request. -/
def SilentMiss (request : Request) (events : List (Event J β)) : Prop :=
  match request with
  | .sayHello cache_id => .lookedUp cache_id none ∈ events
  | _ => False

private theorem helloMissed_iff {log : Log J β} (accurate : Justified Accurate log) (thread : Nat) :
    HelloMissed request thread log ↔ SilentMiss request (Global.own thread log) := by
  cases request with
  | sayHello cache_id => exact lookupMissed_iff accurate thread cache_id
  | _ => exact Iff.rfl

private theorem not_silentMiss_add (operation : FactoryCall) (generated : UUID)
    (token cache_type cache_config : StdString) :
    ¬ SilentMiss (addRequest operation generated token cache_type cache_config) events := by
  cases operation <;> exact id

/-- At each exit: the answer is the registered one unless `sayHello` missed or the
parser threw past the handler. -/
theorem Exit.answered (exit : Exit runtime request outcome events) (returns : Returns runtime) :
    AnsweredAsRegistered request events ↔
      ¬ SilentMiss request events ∧ ¬ ParseEscaped runtime request events := by
  have silent (call : BackendCall β) (what : StdString) :
      ¬ ∃ history, runtime.perform history call = .error what := by
    intro thrown
    obtain ⟨history, threw⟩ := thrown
    obtain ⟨result, returned⟩ := returns history call
    cases threw.symm.trans returned
  cases exit with
  | addRejected invalid =>
    simp [AnsweredAsRegistered, responses, parseEscaped_add, not_silentMiss_add, invalid]
  | addUnparsable valid parsed | addThrew valid parsed | addUnknown valid parsed | added valid parsed =>
    simp [AnsweredAsRegistered, responses, parseEscaped_add, not_silentMiss_add, parsed]
  | addEscaped valid parsed =>
    simp [AnsweredAsRegistered, responses, parseEscaped_add, parsed, valid]
  | removeRejected removes | removeMissed removes =>
    cases removes <;>
      simp [AnsweredAsRegistered, responses, SilentMiss, ParseEscaped, Request.response_disabled_eq]
  | missed finds =>
    cases finds <;>
      simp [AnsweredAsRegistered, responses, SilentMiss, ParseEscaped, Request.response_disabled_eq]
  | closed | destroyed | checked | saidHello | computed =>
    simp [AnsweredAsRegistered, responses, SilentMiss, ParseEscaped, Request.response_disabled_eq]
  | destroyThrew valid threw => exact absurd threw (silent (.destroy _) _)
  | helloThrew threw => exact absurd threw (silent (.sayHello _) _)
  | computeThrew threw => exact absurd threw (silent (.computeSum _ _ _) _)

/-- Client and provider agree on the answered RPCs exactly where `sayHello` finds its
cache and the parser throws nothing but parse errors past an accepted token. Every
request in flight can still be brought to its end. -/
theorem answered_as_registered (returns : Returns runtime) {m_token : StdString}
    {actions : List (Action Request StdString)} {pool : Provider J β} {thread : Nat}
    {program : Handler J β Unit} (served : serve runtime m_token actions = some pool)
    (present : pool.threads thread = some ⟨request, program⟩) :
    (∃ more after outcome, (system runtime).run more pool = some after ∧
      Finished after thread request outcome) ∧
    ∀ outcome, program = Program.ofExcept outcome →
      (AnsweredAsRegistered request (Global.own thread pool.global.log) ↔
        ¬ HelloMissed request thread pool.global.log ∧
        ¬ ParseEscaped runtime request (Global.own thread pool.global.log)) := by
  refine ⟨finishes served present, fun outcome finished => ?_⟩
  subst finished
  rw [helloMissed_iff (serve_replays served).accurate]
  exact (finished_exit served present).answered returns

/-- A greeting for a cache that does not exist is answered, though its sender disabled
the response. -/
theorem hello_answered_on_miss : Returns DummyCache.sample ∧ ∃ pool,
    serve DummyCache.sample [] (.spawn 0 (.sayHello UUID.clear) :: List.replicate 4 (.step 0)) =
      some pool ∧
    Finished pool 0 (.sayHello UUID.clear) (.ok ()) ∧
    ¬ AnsweredAsRegistered (.sayHello UUID.clear) (Global.own 0 pool.global.log) := by
  refine ⟨DummyCache.runtime_returns, _, rfl, rfl, ?_⟩
  unfold AnsweredAsRegistered
  decide

theorem check_answered_on_miss : ∃ pool,
    serve DummyCache.sample [] (.spawn 0 (.checkCache UUID.clear) :: List.replicate 4 (.step 0)) =
      some pool ∧
    AnsweredAsRegistered (.checkCache UUID.clear) (Global.own 0 pool.global.log) := by
  obtain ⟨pool, served, finished⟩ : ∃ pool,
      serve DummyCache.sample [] (.spawn 0 (.checkCache UUID.clear) :: List.replicate 4 (.step 0)) =
        some pool ∧ Finished pool 0 (.checkCache UUID.clear) (.ok ()) := ⟨_, rfl, rfl⟩
  have answered := answered_as_registered DummyCache.runtime_returns served finished
  exact ⟨pool, served, (answered.2 (.ok ()) rfl).mpr ⟨id, id⟩⟩

/-- The message of an exception that some backend call of the request threw, a
factory call included. -/
def Threw (what : StdString) (events : List (Event J β)) : Prop :=
  (∃ operation backend_name config, .built operation backend_name config (.error what) ∈ events) ∨
    (∃ cache, .saidHello cache (.error what) ∈ events) ∨
    (∃ cache x y, .computedSum cache x y (.error what) ∈ events) ∨
    (∃ cache, .destroyed cache (.error what) ∈ events)

/-- No exception leaves the handler, and a waiting caller gets one response, which
reports the exception if there was one. -/
def Contained (request : Request) (outcome : Except StdString Unit)
    (events : List (Event J β)) : Prop :=
  outcome = .ok () ∧ (request.procedure.response_disabled = false →
    ∃ response, responses events = [response] ∧
      ∀ what, Threw what events → response.success = false ∧ response.error = what)

private theorem Exit.contained (exit : Exit runtime request outcome events) :
    Contained request outcome events ↔ ¬ CallThrew events ∧ ¬ ParseEscaped runtime request events := by
  cases exit with
  | addRejected invalid =>
    simp [Contained, responses, CallThrew, Threw, parseEscaped_add, invalid]
  | addUnparsable valid parsed | addUnknown valid parsed | added valid parsed =>
    simp [Contained, responses, CallThrew, Threw, parseEscaped_add, parsed]
  | addThrew valid parsed =>
    simp [Contained, responses, CallThrew, Threw, parseEscaped_add, parsed, failedUuid,
      Response.success, Response.error]
  | addEscaped valid parsed => simp [Contained, parseEscaped_add, parsed, valid]
  | removeRejected removes | removeMissed removes =>
    cases removes <;> simp [Contained, responses, CallThrew, Threw, ParseEscaped]
  | missed finds => cases finds <;> simp [Contained, responses, CallThrew, Threw, ParseEscaped]
  | closed | destroyed | checked | saidHello | computed =>
    simp [Contained, responses, CallThrew, Threw, ParseEscaped, Request.response_disabled_eq]
  | destroyThrew | helloThrew | computeThrew => simp [Contained, CallThrew]

/-- Exceptions are contained exactly where no call outside a `try` block throws: not
`destroy`, `computeSum` or `sayHello`, and not the parser with another exception than
the one that is caught. -/
theorem exceptions_contained {m_token : StdString} {actions : List (Action Request StdString)}
    {pool : Provider J β} {thread : Nat} {program : Handler J β Unit}
    (served : serve runtime m_token actions = some pool)
    (present : pool.threads thread = some ⟨request, program⟩) :
    (∃ more after outcome, (system runtime).run more pool = some after ∧
      Finished after thread request outcome) ∧
    ∀ outcome, program = Program.ofExcept outcome →
      (Contained request outcome (Global.own thread pool.global.log) ↔
        ¬ CallThrew (Global.own thread pool.global.log) ∧
        ¬ ParseEscaped runtime request (Global.own thread pool.global.log)) := by
  refine ⟨finishes served present, fun outcome finished => ?_⟩
  subst finished
  exact (finished_exit served present).contained

/-- A provider with one cache, whose `destroy` throws. -/
def faulty : Runtime Unit (DummyCache Unit) :=
  { DummyCache.sample with destroy := fun _ _ => .error (lit "busy") }

def destroyFaulty : List (Action Request StdString) :=
  .spawn 0 (.createCache UUID.clear [] (lit "dummy") (lit "{}")) :: List.replicate 6 (.step 0) ++
    .spawn 1 (.destroyCache [] UUID.clear) :: List.replicate 7 (.step 1)

/-- The exception leaves the handler, and the caller never gets a response. -/
theorem destroy_exception_escapes : ∃ pool, serve faulty [] destroyFaulty = some pool ∧
    Finished pool 1 (.destroyCache [] UUID.clear) (.error (lit "busy")) ∧
    ¬ Contained (.destroyCache [] UUID.clear) (.error (lit "busy"))
      (Global.own 1 pool.global.log) := by
  refine ⟨_, rfl, rfl, ?_⟩
  rintro ⟨returned, -⟩
  cases returned

/-- A provider whose factory throws. -/
def exhausted : Runtime Unit (DummyCache Unit) :=
  { DummyCache.sample with factory := { DummyCache.factory with
      create_fn := Finmap.singleton (lit "dummy") fun _ _ => .error (lit "no space") } }

def createRefused : List (Action Request StdString) :=
  .spawn 0 (.createCache UUID.clear [] (lit "dummy") (lit "{}")) :: List.replicate 3 (.step 0)

theorem create_contained : ∃ pool, serve exhausted [] createRefused = some pool ∧
    Threw (lit "no space") (Global.own 0 pool.global.log) ∧
    Contained (.createCache UUID.clear [] (lit "dummy") (lit "{}")) (.ok ())
      (Global.own 0 pool.global.log) := by
  obtain ⟨pool, served, finished, events⟩ : ∃ pool, serve exhausted [] createRefused = some pool ∧
      Finished pool 0 (.createCache UUID.clear [] (lit "dummy") (lit "{}")) (.ok ()) ∧
      Global.own 0 pool.global.log =
        [.received (.createCache UUID.clear [] (lit "dummy") (lit "{}")), .readToken [],
          .built .createCache (lit "dummy") () (.error (lit "no space")),
          .responded (failedUuid (lit "no space"))] :=
    ⟨_, rfl, rfl, rfl⟩
  have contained := exceptions_contained served finished
  refine ⟨pool, served, .inl ⟨.createCache, lit "dummy", (), by simp [events]⟩,
    (contained.2 (.ok ()) rfl).mpr ⟨by simp [CallThrew, events], ?_⟩⟩
  rintro ⟨-, what, escaped⟩
  cases escaped

end Cachersize.ProviderImpl
