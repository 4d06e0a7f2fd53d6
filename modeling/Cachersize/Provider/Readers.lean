import Cachersize.Concurrent.Restriction
import Cachersize.Provider.Progress
import Cachersize.Dummy

/-! Requests that only read. They hold the mutex for a while, and may call backends that
forget such calls. Nothing else tells a run with them from one without. -/
namespace Cachersize

open Concurrent

variable {J β : Type}

def Event.call : Event J β → Option (BackendCall β)
  | started call => some call
  | saidHello cache _ => some (.sayHello cache)
  | computedSum cache x y _ => some (.computeSum cache x y)
  | destroyed cache _ => some (.destroy cache)
  | _ => none

/-- The calls that factories and backends may react to when they forget some. -/
def Event.remembered (forgotten : BackendCall β → Bool) (event : Event J β) : Bool :=
  event.isCall && !event.call.any forgotten

/-- Nothing depends on forgotten calls made before. -/
structure Runtime.Forgets (runtime : Runtime J β) (forgotten : BackendCall β → Bool) : Prop where
  factory : ∀ operation backend_name config (log other : List (Nat × Event J β)),
    seen (Event.remembered forgotten) log = seen (Event.remembered forgotten) other →
    runtime.factory.perform operation backend_name (Event.calls log) config =
      runtime.factory.perform operation backend_name (Event.calls other) config
  perform : ∀ call (log other : List (Nat × Event J β)),
    seen (Event.remembered forgotten) log = seen (Event.remembered forgotten) other →
    runtime.perform (Event.calls log) call = runtime.perform (Event.calls other) call

/-- A request that looks a cache up, and at most makes a forgotten call on it. -/
def Request.Reads (forgotten : BackendCall β → Bool) : Request → Prop
  | checkCache _ => True
  | sayHello _ => ∀ cache, forgotten (.sayHello cache) = true
  | computeSum _ _ x y => ∀ cache, forgotten (.computeSum cache x y) = true
  | createCache .. | openCache .. | closeCache .. | destroyCache .. => False

namespace ProviderImpl

variable {runtime : Runtime J β} {forgotten : BackendCall β → Bool} {thread : Nat} {s state : State J β}

def Passive (forgotten : BackendCall β → Bool) : Op J β → Prop
  | .lock | .unlock | .find _ | .respond _ => True
  | .start call | .finish call => forgotten call = true
  | .m_token | .factory .. | .count _ | .assign .. | .index _ | .erase _ => False

def Passes (forgotten : BackendCall β → Bool) : Handler J β Unit → Prop
  | .done _ | .raise _ => True
  | .perform op next => Passive forgotten op ∧ ∀ answer, Passes forgotten (next answer)

private theorem FIND_CACHE_passes (runtime : Runtime J β) (cache_id : UUID) (failed : StdString → Response)
    {body : Backend β → Handler J β Unit} (found : ∀ cache, Passes forgotten (body cache)) :
    Passes forgotten (FIND_CACHE runtime cache_id failed body) := by
  rw [FIND_CACHE_eq]
  refine ⟨trivial, fun _ => ⟨trivial, fun lookedUp => ?_⟩⟩
  cases lookedUp with
  | none => exact ⟨trivial, fun _ => ⟨trivial, fun _ => trivial⟩⟩
  | some cache => exact ⟨trivial, fun _ => found cache⟩

private theorem handler_passes {request : Request} (reads : request.Reads forgotten) :
    Passes forgotten (handler runtime request) := by
  cases request with
  | checkCache => exact FIND_CACHE_passes runtime _ _ fun _ => ⟨trivial, fun _ => trivial⟩
  | sayHello =>
    refine FIND_CACHE_passes runtime _ _ fun cache => ⟨reads cache, fun _ => ⟨reads cache, fun outcome => ?_⟩⟩
    cases outcome <;> trivial
  | computeSum =>
    rw [handler, computeSum_eq]
    refine FIND_CACHE_passes runtime _ _ fun cache => ⟨reads cache, fun _ => ⟨reads cache, fun outcome => ?_⟩⟩
    cases outcome with
    | ok result => exact ⟨trivial, fun _ => trivial⟩
    | error what => trivial
  | createCache | openCache | closeCache | destroyCache => exact reads.elim

/-- The provider as if the removed threads did not hold the mutex. -/
def unlocked (removed : List Nat) (provider : ProviderImpl β) : ProviderImpl β :=
  { provider with m_backends_mtx := provider.m_backends_mtx.filter (· ∉ removed) }

private theorem exec_passive {request : Request} {op : Op J β} {answer : op.Answer} {shared : ProviderImpl β}
    {events : List (Event J β)} {removed : List Nat} {scope : Scope} (passive : Passive forgotten op)
    (permitted : scope.Permits request op) (accurate : scope.Matches thread s.shared)
    (gone : thread ∈ removed)
    (answered : exec runtime thread op s = some (answer, shared, events)) :
    unlocked removed shared = unlocked removed s.shared ∧
      ∀ event ∈ events, event.remembered forgotten = false := by
  cases op with
  | lock =>
    obtain ⟨free, rfl, rfl⟩ := exec_lock answered
    exact ⟨by simp [unlocked, free, gone], nofun⟩
  | unlock =>
    cases scope with
    | outside => exact permitted.elim
    | inside present =>
      have held : s.shared.m_backends_mtx = some thread := accurate.1
      cases answered
      exact ⟨by simp [unlocked, held, gone, Option.filter_some], nofun⟩
  | find cache_id | respond response =>
    cases answered
    exact ⟨rfl, by simp [Event.remembered, Event.isCall]⟩
  | start call =>
    have forgets : forgotten call = true := passive
    cases answered
    exact ⟨rfl, by simp [Event.remembered, Event.call, forgets]⟩
  | finish call =>
    have forgets : forgotten call = true := passive
    cases answered
    refine ⟨rfl, ?_⟩
    cases call <;> simp [Event.ended, Event.remembered, Event.call, forgets]
  | m_token | factory | count | assign | index | erase => exact passive.elim

/-- A thread that stays does the same where the mutex is not held by removed ones. -/
theorem exec_unlocked {op : Op J β} {answer : op.Answer} {shared : ProviderImpl β}
    {events : List (Event J β)} {removed : List Nat} (forgets : runtime.Forgets forgotten)
    (kept : thread ∉ removed) (alike : state.shared = unlocked removed s.shared)
    (logs : seen (Event.remembered forgotten) state.log = seen (Event.remembered forgotten) s.log)
    (answered : exec runtime thread op s = some (answer, shared, events)) :
    ∃ mimicked, exec runtime thread op state = some (answer, mimicked, events) ∧
      mimicked = unlocked removed shared := by
  cases op with
  | lock =>
    obtain ⟨free, rfl, rfl⟩ := exec_lock answered
    have acquired : exec runtime thread .lock state =
        some ((), { state.shared with m_backends_mtx := some thread }, []) := by
      simp [exec, alike, unlocked, free]
    exact ⟨_, acquired, by simp [alike, unlocked, kept, Option.filter_some]⟩
  | index cache_id =>
    obtain ⟨found, rfl, rfl⟩ := exec_index answered
    exact ⟨_, by simp [exec, alike, unlocked, found], rfl⟩
  | factory operation backend_name config =>
    cases answered
    have same := forgets.factory operation backend_name config _ _ logs
    exact ⟨_, by simp only [exec, alike, same]; rfl, rfl⟩
  | finish call =>
    cases answered
    have same := forgets.perform call _ _ logs
    exact ⟨_, by simp only [exec, alike, same], rfl⟩
  | unlock | m_token | find | count | assign | erase | start | respond =>
    cases answered
    exact ⟨unlocked removed _, by simp [exec, alike, unlocked], rfl⟩

private theorem unlocked_vacant {removed : List Nat} {pool : Provider J β} (disciplined : Disciplined pool)
    (vacant : pool.threads thread = none) :
    unlocked (thread :: removed) pool.global.shared = unlocked removed pool.global.shared := by
  have free : pool.global.shared.m_backends_mtx ≠ some thread := by
    intro held
    simpa [vacant] using disciplined.holder thread held
  cases held : pool.global.shared.m_backends_mtx with
  | none => simp [unlocked, held]
  | some holder =>
    have different : holder ≠ thread := fun same => free (held.trans (congrArg some same))
    simp [unlocked, held, Option.filter_some, different]

/-- Requests that read pass, where the calls that they make are forgotten. -/
def readers {ignored : Request → Bool} (forgets : runtime.Forgets forgotten)
    (reads : ∀ request, ignored request = true → request.Reads forgotten) :
    Passing (system runtime) ignored where
  inv := Disciplined
  visible := Event.remembered forgotten
  Passes := fun _ program _ => Passes forgotten program
  Alike := fun removed shared other => other = unlocked removed shared
  arrives := fun request ignores => ⟨handler_passes (reads request ignores), rfl⟩
  joins := by
    intro removed pool thread other disciplined vacant alike
    rw [alike, unlocked_vacant disciplined vacant]
  passes := by
    intro removed pool thread request op next past answer shared events other disciplined running gone
      reading alike answered
    obtain ⟨passive, later⟩ := reading
    obtain ⟨scope, ⟨permitted, -⟩, accurate⟩ := disciplined.follows thread request _ running
    obtain ⟨same, silent⟩ := exec_passive passive permitted accurate gone answered
    exact ⟨alike.trans same.symm, silent, later answer⟩
  mimics := by
    intro removed pool thread request op next answer shared events state _ _ kept alike logs answered
    exact exec_unlocked forgets kept alike logs answered
  changes := by
    intro removed token shared other alike
    rw [alike]
    rfl

/-- Two runs, one with and one without the requests that read: the provider, and everything
that the other requests do and see, are the same. The mutex, which readers hold for a
while, never makes a difference. -/
theorem reads_without_influence {ignored : Request → Bool} (forgets : runtime.Forgets forgotten)
    (reads : ∀ request, ignored request = true → request.Reads forgotten)
    {m_token : StdString} {actions : List (Action Request StdString)} {pool : Provider J β}
    (served : serve runtime m_token actions = some pool) :
    ∃ (removed : List Nat) (rest : Provider J β),
      serve runtime m_token (without ignored [] actions) = some rest ∧
      (∀ thread request program, pool.threads thread = some ⟨request, program⟩ →
        (thread ∈ removed ↔ ignored request = true)) ∧
      rest.global.shared = unlocked removed pool.global.shared ∧
      rest.global.log = (pool.global.log.filter fun entry => entry.1 ∉ removed) ∧
      ∀ thread, thread ∉ removed → rest.threads thread = pool.threads thread ∧
        Global.own thread rest.global.log = Global.own thread pool.global.log := by
  have start := initial_disciplined runtime m_token
  have initially : (readers forgets reads).Lacks [] _ _ := Passing.lacks_initial start (by rfl)
  obtain ⟨removed, rest, servedRest, lacks⟩ :=
    initially.run (fun _ _ _ _ disciplined stepped => disciplined.step stepped) served
  exact ⟨removed, rest, servedRest, fun _ _ _ present => lacks.mem_removed present, lacks.alike, lacks.log,
    fun thread kept => ⟨lacks.threads thread kept, lacks.own kept⟩⟩

theorem sample_forgets (forgotten : BackendCall (DummyCache Unit) → Bool) :
    DummyCache.sample.Forgets forgotten where
  factory := by
    intro operation backend_name config log other _
    by_cases known : backend_name = lit "dummy"
    · subst known
      cases operation <;> rfl
    · cases operation <;>
        simp [CacheFactory.perform, CacheFactory.createCache, CacheFactory.openCache, DummyCache.sample,
          DummyCache.runtime, DummyCache.factory, Finmap.lookup_eq_none.mpr, known]
  perform := fun _ _ _ _ => rfl

/-- A greeting holds the mutex while a client asks for a sum, and is served after the
cache is gone. -/
def greeting : List (Action Request StdString) :=
  List.flatten [.spawn 0 (.createCache UUID.clear [] (lit "dummy") (lit "{}")) :: List.replicate 6 (.step 0),
    [.spawn 1 (.sayHello UUID.clear), .step 1, .spawn 2 (.computeSum 0 UUID.clear 2 3), .step 1, .step 1],
    List.replicate 6 (.step 2),
    .spawn 3 (.destroyCache [] UUID.clear) :: List.replicate 9 (.step 3), [.step 1, .step 1]]

theorem greeting_without_influence : ∃ (pool rest : Provider Unit (DummyCache Unit)),
    serve DummyCache.sample [] greeting = some pool ∧
    serve DummyCache.sample [] (without (fun request => request = .sayHello UUID.clear) [] greeting) =
      some rest ∧
    Finished rest 2 (.computeSum 0 UUID.clear 2 3) (.ok ()) ∧
    rest.global.shared.m_backends = pool.global.shared.m_backends := by
  obtain ⟨pool, served, greeted, summed⟩ : ∃ pool, serve DummyCache.sample [] greeting = some pool ∧
      Finished pool 1 (.sayHello UUID.clear) (.ok ()) ∧
      Finished pool 2 (.computeSum 0 UUID.clear 2 3) (.ok ()) := ⟨_, rfl, rfl, rfl⟩
  have reads : ∀ request, decide (request = Request.sayHello UUID.clear) = true →
      request.Reads fun (_ : BackendCall (DummyCache Unit)) => true := by
    intro request ignores
    cases of_decide_eq_true ignores
    exact fun _ => rfl
  obtain ⟨removed, rest, servedRest, reading, same, -, others⟩ :=
    reads_without_influence (sample_forgets fun _ => true) reads served
  have kept : 2 ∉ removed := by
    rw [reading 2 _ _ summed]
    decide
  exact ⟨pool, rest, served, servedRest, (others 2 kept).1.trans summed, by rw [same]; rfl⟩

end ProviderImpl

end Cachersize
