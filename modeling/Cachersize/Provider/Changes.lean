import Cachersize.Provider.Responses

/-! What a request does to `m_backends`, compared with what its response says. -/
namespace Cachersize

/-- The requests that `Admin` sends. -/
def Request.isAdmin : Request → Bool
  | createCache .. | openCache .. | closeCache .. | destroyCache .. => true
  | checkCache _ | sayHello _ | computeSum .. => false

namespace ProviderImpl

open Concurrent

variable {J β : Type}

def ErasesBound (log : Log J β) : Prop :=
  Justified (fun before entry => ∀ cache_id, entry.2 = .erased cache_id → cache_id ∈ bindings before) log

/-- Whatever a request destroys is bound to the id of the request until then. -/
def DestroysNamed (pool : Provider J β) (before : Log J β) (entry : Nat × Event J β) : Prop :=
  ∀ cache, entry.2 = .started (.destroy cache) → ∃ token cache_id program,
    pool.threads entry.1 = some ⟨.destroyCache token cache_id, program⟩ ∧ cache_id ∈ bindings before

/-- Whatever a request binds is not bound before, as `UUID::generate()` promises. -/
def BindsFresh (thread : Nat) (log : Log J β) : Prop :=
  ∀ before cache_id cache after, log = before ++ (thread, .bound cache_id cache) :: after →
    cache_id ∉ bindings before

/-- One binding was added, whose id is the value of the response, or the one of the
requested id was removed. -/
inductive Difference (request : Request) (response : Response) (registry : Registry β) :
    Registry β → Prop where
  | added (answered : response = .uuid result) (new : result.m_value ∉ registry) :
      Difference request response registry (registry.insert result.m_value cache)
  | removed (removes : Removes request token cache_id) (bound : cache_id ∈ registry) :
      Difference request response registry (registry.erase cache_id)

/-- The registry after a request that nothing interrupted. -/
def RegistryAnswers (request : Request) (response : Response) (before after : Registry β) : Prop :=
  if response.success then Difference request response before after else after = before

/-- The same for a request among others: a failed one has no step that changes the
registry, and any other one has exactly one. -/
def StepsAnswer (request : Request) (response : Response) (thread : Nat) (log : Log J β) : Prop :=
  if response.success then
    ∃ before event after, log = before ++ (thread, event) :: after ∧
      Difference request response (bindings before) (rebind (bindings before) event) ∧
      ∀ before' event' after', log = before' ++ (thread, event') :: after' →
        before'.length ≠ before.length → rebind (bindings before') event' = bindings before'
  else
    ∀ before event after, log = before ++ (thread, event) :: after →
      rebind (bindings before) event = bindings before

/-- `destroy()` of the backend returned a failure. -/
def DestroyFailed (events : List (Event J β)) : Prop :=
  ∃ cache result, .destroyed cache (.ok result) ∈ events ∧ result.m_success = false

variable {runtime : Runtime J β} {thread : Nat} {m_token : StdString}
variable {actions : List (Action Request StdString)} {pool : Provider J β}

/-- What an operation erases or destroys is bound, to the id of its request. -/
theorem exec_removes {op : Op J β} {scope : Scope} {request : Request} {s : State J β} {answer : op.Answer}
    (permitted : scope.Permits request op) (accurate : scope.Matches thread s.shared) (replays : Replays s) :
    (∀ cache_id, .erased cache_id ∈ emits op answer → cache_id ∈ bindings s.log) ∧
      ∀ cache, .started (.destroy cache) ∈ emits op answer → ∃ token cache_id,
        request = .destroyCache token cache_id ∧ cache_id ∈ bindings s.log := by
  rw [← replays.registry]
  cases op with
  | erase cache_id =>
    refine ⟨fun other same => ?_, by simp [emits]⟩
    cases List.mem_singleton.mp same
    cases scope with
    | outside => exact permitted.elim
    | inside present => exact accurate.2 cache_id permitted
  | start call =>
    refine ⟨by simp [emits], fun cache same => ?_⟩
    cases List.mem_singleton.mp same
    obtain ⟨token, cache_id, rfl, rfl⟩ := Scope.permits_destroy.mp permitted
    exact ⟨token, cache_id, rfl, accurate.2 cache_id rfl⟩
  | finish call => cases call <;> simp [emits, Event.ended]
  | _ => simp [emits]

theorem DestroysNamed.mono {later : Provider J β} {before : Log J β} {entry : Nat × Event J β}
    (named : DestroysNamed pool before entry)
    (kept : ∀ thread request program, pool.threads thread = some ⟨request, program⟩ →
      ∃ rest, later.threads thread = some ⟨request, rest⟩) : DestroysNamed later before entry := by
  intro cache same
  obtain ⟨token, cache_id, program, present, bound⟩ := named cache same
  obtain ⟨rest, still⟩ := kept _ _ _ present
  exact ⟨token, cache_id, rest, still, bound⟩

theorem serve_removes (served : serve runtime m_token actions = some pool) :
    ErasesBound pool.global.log ∧ Justified (DestroysNamed pool) pool.global.log := by
  suffices Disciplined pool ∧ Replays pool.global ∧ ErasesBound pool.global.log ∧
      Justified (DestroysNamed pool) pool.global.log from this.2.2
  refine System.run_induction (fun pool => Disciplined pool ∧ Replays pool.global ∧
    ErasesBound pool.global.log ∧ Justified (DestroysNamed pool) pool.global.log) ?_ ?_ served
  · intro action _ before after holds stepped
    obtain ⟨disciplined, replays, erases, destroys⟩ := holds
    refine ⟨disciplined.step stepped, replays.step stepped, ?_⟩
    rcases System.step_cases stepped with ⟨actor, request, -, vacant, rfl⟩ |
      ⟨actor, request, op, next, answer, shared, events, -, running, answered, rfl⟩ | ⟨change, -, rfl⟩
    · refine ⟨erases.snoc (by simp), (destroys.mono fun past entry named => named.mono ?_).snoc
        (by simp [DestroysNamed])⟩
      intro thread tag program present
      have different : thread ≠ actor := by
        rintro rfl
        cases vacant.symm.trans present
      exact ⟨program, by simpa [different] using present⟩
    · obtain ⟨scope, ⟨permitted, -⟩, accurate⟩ := disciplined.follows actor request _ running
      obtain ⟨rfl, -⟩ := exec_emits answered
      obtain ⟨erased, destroyed⟩ := exec_removes permitted accurate replays
      rw [Global.extend_log]
      refine ⟨justified_emits erases ?_,
        justified_emits (destroys.mono fun past entry named => named.mono ?_) ?_⟩
      · rintro event member cache_id rfl
        exact erased cache_id member
      · intro thread tag program present
        by_cases same : thread = actor
        · subst same
          cases running.symm.trans present
          exact ⟨next answer, by simp⟩
        · exact ⟨program, by simpa [same] using present⟩
      · rintro event member cache rfl
        obtain ⟨token, cache_id, rfl, bound⟩ := destroyed cache member
        exact ⟨token, cache_id, next answer, by simp, bound⟩
    · exact ⟨erases, destroys⟩
  · exact ⟨initial_disciplined runtime m_token, ⟨rfl, rfl, Justified.nil⟩, Justified.nil, Justified.nil⟩

theorem serve_erasesBound (served : serve runtime m_token actions = some pool) :
    ErasesBound pool.global.log := (serve_removes served).1

def isBinding : Event J β → Bool
  | .bound .. | .erased _ => true
  | _ => false

private theorem rebind_of_not_binding {event : Event J β} (other : isBinding event = false)
    (registry : Registry β) : rebind registry event = registry := by
  cases event <;> first | rfl | cases other

private theorem foldl_rebind (events : List (Event J β)) (registry : Registry β) :
    events.foldl rebind registry = (events.filter isBinding).foldl rebind registry := by
  induction events generalizing registry with
  | nil => rfl
  | cons event rest ih =>
    cases binding : isBinding event with
    | true => rw [List.filter_cons_of_pos binding, List.foldl_cons, List.foldl_cons, ih]
    | false =>
      rw [List.filter_cons_of_neg (by simp [binding]), List.foldl_cons,
        rebind_of_not_binding binding, ih]

/-- Of the steps of a request with one binding event, only that one can matter. -/
theorem steps_once {log : Log J β} {change : Event J β}
    (single : (Global.own thread log).filter isBinding = [change]) :
    ∃ before after, log = before ++ (thread, change) :: after ∧
      ∀ before' event after', log = before' ++ (thread, event) :: after' →
        before'.length ≠ before.length → isBinding event = false := by
  have member : change ∈ (Global.own thread log).filter isBinding := by simp [single]
  obtain ⟨own, binding⟩ := List.mem_filter.mp member
  obtain ⟨before, after, split⟩ := List.append_of_mem (Global.mem_own.mp own)
  refine ⟨before, after, split, fun before' event after' other apart => ?_⟩
  -- The other step is in one of the two parts, and neither has a binding event.
  have parts : (Global.own thread before).filter isBinding = [] ∧
      (Global.own thread after).filter isBinding = [] := by
    rw [split, Global.own_append, Global.own_cons, if_pos rfl, List.filter_append,
      List.filter_cons_of_pos binding] at single
    simpa [List.append_eq_singleton_iff] using single
  have present : event ∈ Global.own thread before ∨ event ∈ Global.own thread after := by
    rw [Global.mem_own, Global.mem_own]
    rw [split, List.append_eq_append_iff] at other
    rcases other with ⟨between, longer, rest⟩ | ⟨between, shorter, rest⟩
    · cases between with
      | nil => exact absurd (by simp [longer]) apart
      | cons entry between =>
        have later := (List.cons.inj rest).2
        exact .inr (by simp [later])
    · cases between with
      | nil => exact absurd (by simp [shorter]) apart
      | cons entry between =>
        have same := (List.cons.inj rest).1
        exact .inl (by simp [shorter, same])
  rcases present with early | late
  · have absent := List.filter_eq_nil_iff.mp parts.1 event early
    simpa using absent
  · have absent := List.filter_eq_nil_iff.mp parts.2 event late
    simpa using absent

/-- Every exit of an admin request, by what it does to the registry. -/
theorem Exit.changes {request : Request} {outcome : Except StdString Unit} {events : List (Event J β)}
    (exit : Exit runtime request outcome events) (admin : request.isAdmin = true) :
    (events.filter isBinding = [] ∧ ¬ DestroyFailed events ∧
      ∀ response ∈ responses events, response.success = false) ∨
    (∃ generated cache, events.filter isBinding = [.bound generated cache] ∧
      ¬ DestroyFailed events ∧ responses events = [.uuid { m_value := generated }]) ∨
    ∃ token cache_id response, Removes request token cache_id ∧
      events.filter isBinding = [.erased cache_id] ∧ responses events = [response] ∧
      (response.success = true ↔ ¬ DestroyFailed events) := by
  cases exit with
  | addRejected | addUnparsable | addEscaped | addThrew | addUnknown =>
    left
    simp [isBinding, DestroyFailed, responses, failedUuid, Response.success]
  | added =>
    right; left
    exact ⟨_, _, rfl, by simp [DestroyFailed], rfl⟩
  | removeRejected | removeMissed =>
    left
    simp [isBinding, DestroyFailed, responses, failedBool, Response.success]
  | destroyThrew =>
    left
    simp [isBinding, DestroyFailed, responses]
  | closed =>
    right; right
    exact ⟨_, _, _, .closeCache, rfl, rfl, by simp [DestroyFailed, Response.success]⟩
  | destroyed =>
    right; right
    exact ⟨_, _, _, .destroyCache, rfl, rfl, by simp [DestroyFailed, Response.success]⟩
  | missed finds => cases finds <;> cases admin
  | checked | saidHello | helloThrew | computed | computeThrew => cases admin

section Answers

variable {request : Request} {outcome : Except StdString Unit}

private theorem difference_erase_ne {cache_id : UUID} {registry : Registry β} (bound : cache_id ∈ registry) :
    registry.erase cache_id ≠ registry := by
  intro same
  rw [← same] at bound
  exact Finmap.notMem_erase_self bound

/-- Among other requests: the steps of an admin request are those that its response
tells of, unless `destroy()` failed. -/
theorem stepsAnswer_iff {log : Log J β} (exit : Exit runtime request outcome (Global.own thread log))
    (admin : request.isAdmin = true) (fresh : BindsFresh thread log) (erases : ErasesBound log) :
    (∀ response ∈ responses (Global.own thread log), StepsAnswer request response thread log) ↔
      ¬ DestroyFailed (Global.own thread log) := by
  rcases exit.changes admin with ⟨quiet, successful, failed⟩ |
    ⟨generated, cache, single, successful, answered⟩ |
    ⟨token, cache_id, response, removes, single, answered, success⟩
  · refine iff_of_true (fun response member => ?_) successful
    rw [StepsAnswer, if_neg (by simp [failed response member])]
    intro before event after split
    have own : event ∈ Global.own thread log := Global.mem_own.mpr (by simp [split])
    have other := List.filter_eq_nil_iff.mp quiet event own
    exact rebind_of_not_binding (by simpa using other) _
  · obtain ⟨before, after, split, once⟩ := steps_once single
    refine iff_of_true (fun response member => ?_) successful
    rw [answered, List.mem_singleton] at member
    have succeeded : response.success = true := by simp [member, Response.success]
    rw [StepsAnswer, if_pos succeeded, member]
    refine ⟨before, _, after, split, ?_, fun before' event after' other apart => ?_⟩
    · exact .added rfl (fresh before generated cache after split)
    · exact rebind_of_not_binding (once before' event after' other apart) _
  · obtain ⟨before, after, split, once⟩ := steps_once single
    have bound : cache_id ∈ bindings before := erases before _ after split cache_id rfl
    rw [answered, ← success]
    simp only [List.mem_singleton, forall_eq, StepsAnswer]
    by_cases succeeded : response.success = true
    · rw [if_pos succeeded]
      refine iff_of_true ⟨before, _, after, split, .removed removes bound, ?_⟩ succeeded
      intro before' event after' other apart
      exact rebind_of_not_binding (once before' event after' other apart) _
    · rw [if_neg succeeded]
      refine iff_of_false (fun unchanged => ?_) succeeded
      exact difference_erase_ne bound (unchanged before _ after split)

private theorem bindings_append (log : Log J β) (events : List (Event J β)) :
    bindings (log ++ events.map (Prod.mk thread)) = events.foldl rebind (bindings log) := by
  simp [bindings, List.foldl_append, List.foldl_map]

variable (thread) in
/-- The registry has not changed yet when a request takes its one step that matters. -/
theorem before_single {events : List (Event J β)} {change : Event J β}
    (single : events.filter isBinding = [change]) (log : Log J β) :
    ∃ start rest, events = start ++ change :: rest ∧
      bindings (log ++ start.map (Prod.mk thread)) = bindings log := by
  have member : change ∈ events.filter isBinding := by simp [single]
  obtain ⟨present, binding⟩ := List.mem_filter.mp member
  obtain ⟨start, rest, split⟩ := List.append_of_mem present
  rw [split, List.filter_append, List.filter_cons_of_pos binding] at single
  have quiet : start.filter isBinding = [] := by
    have parts : start.filter isBinding = [] ∧ rest.filter isBinding = [] := by
      simpa [List.append_eq_singleton_iff] using single
    exact parts.1
  exact ⟨start, rest, split, by rw [bindings_append, foldl_rebind, quiet, List.foldl_nil]⟩

/-- Without interruption: the registry differs as the response tells, unless
`destroy()` failed. -/
theorem registryAnswers_iff {log : Log J β} {events : List (Event J β)}
    (exit : Exit runtime request outcome events) (admin : request.isAdmin = true)
    (fresh : BindsFresh thread (log ++ events.map (Prod.mk thread)))
    (erases : ErasesBound (log ++ events.map (Prod.mk thread))) :
    (∀ response ∈ responses events, RegistryAnswers request response (bindings log)
        (bindings (log ++ events.map (Prod.mk thread)))) ↔ ¬ DestroyFailed events := by
  rw [bindings_append, foldl_rebind]
  rcases exit.changes admin with ⟨quiet, successful, failed⟩ |
    ⟨generated, cache, single, successful, answered⟩ |
    ⟨token, cache_id, response, removes, single, answered, success⟩
  · refine iff_of_true (fun response member => ?_) successful
    rw [RegistryAnswers, if_neg (by simp [failed response member]), quiet, List.foldl_nil]
  · obtain ⟨start, rest, split, same⟩ := before_single thread single log
    have new : generated ∉ bindings log := by
      rw [← same]
      exact fresh _ generated cache (rest.map (Prod.mk thread)) (by simp [split])
    refine iff_of_true (fun response member => ?_) successful
    rw [answered, List.mem_singleton] at member
    have succeeded : response.success = true := by simp [member, Response.success]
    rw [RegistryAnswers, if_pos succeeded, single, member]
    exact .added rfl new
  · obtain ⟨start, rest, split, same⟩ := before_single thread single log
    have bound : cache_id ∈ bindings log := by
      rw [← same]
      exact erases _ (thread, .erased cache_id) (rest.map (Prod.mk thread)) (by simp [split]) cache_id rfl
    rw [answered, ← success, single]
    simp only [List.mem_singleton, forall_eq, RegistryAnswers, List.foldl_cons, List.foldl_nil, rebind]
    by_cases succeeded : response.success = true
    · rw [if_pos succeeded]
      exact iff_of_true (.removed removes bound) succeeded
    · rw [if_neg succeeded]
      exact iff_of_false (difference_erase_ne bound) succeeded

/-- A failed admin request changes nothing, and a successful one exactly one binding, if
and only if it is not a `destroyCache` whose backend reports that `destroy()` failed: for
the steps of the request among those of others, and for the whole registry if no other
request takes a step. -/
theorem registry_as_answered {earlier : Provider J β} {schedule : List (Action Request StdString)}
    (served : serve runtime m_token actions = some earlier)
    (ran : (system runtime).run (.spawn thread request :: schedule) earlier = some pool)
    (admin : request.isAdmin = true) (finished : Finished pool thread request outcome)
    (fresh : BindsFresh thread pool.global.log) :
    ((∀ response ∈ responses (Global.own thread pool.global.log),
        StepsAnswer request response thread pool.global.log) ↔
      ¬ DestroyFailed (Global.own thread pool.global.log)) ∧
    ((∀ action ∈ schedule, action = .step thread) →
      ((∀ response ∈ responses (Global.own thread pool.global.log), RegistryAnswers request response
          earlier.global.shared.m_backends pool.global.shared.m_backends) ↔
        ¬ DestroyFailed (Global.own thread pool.global.log))) := by
  have reached := serve_append served ran
  have exit := finished_exit reached finished
  have erases := serve_erasesBound reached
  refine ⟨stepsAnswer_iff exit admin fresh erases, fun alone => ?_⟩
  obtain ⟨middle, arrived, remaining⟩ := Option.bind_eq_some_iff.mp ran
  have silent : Global.own thread earlier.global.log = [] ∧
      middle.global.log = earlier.global.log ++ [(thread, .received request)] := by
    rcases System.step_cases arrived with ⟨_, _, same, vacant, rfl⟩ |
      ⟨_, _, _, _, _, _, _, same, -⟩ | ⟨_, same, -⟩
    · cases same
      exact ⟨System.own_vacant served vacant, rfl⟩
    · cases same
    · cases same
  obtain ⟨events, grown⟩ := System.run_alone_log alone remaining
  rw [silent.2, List.append_assoc] at grown
  have whole : pool.global.log =
      earlier.global.log ++ (.received request :: events).map (Prod.mk thread) := grown
  have own : Global.own thread pool.global.log = .received request :: events := by
    rw [whole, Global.own_append, silent.1, List.nil_append, Global.own_tagged]
  rw [(serve_replays served).registry, (serve_replays reached).registry, own]
  rw [own] at exit
  rw [whole] at fresh erases ⊢
  exact registryAnswers_iff exit admin fresh erases

end Answers

/-- A provider with one cache, whose `destroy` answers that it failed. -/
def refusing : Runtime Unit (DummyCache Unit) :=
  { DummyCache.sample with destroy := fun _ _ => .ok { m_success := false, m_error := lit "busy" } }

def createOne : List (Action Request StdString) :=
  .spawn 0 (.createCache UUID.clear [] (lit "dummy") (lit "{}")) :: List.replicate 6 (.step 0)

/-- The cache is gone although the response says that it was not destroyed. -/
theorem failed_destroy_unbinds : ∃ earlier pool, serve refusing [] createOne = some earlier ∧
    (system refusing).run (.spawn 1 (.destroyCache [] UUID.clear) :: List.replicate 9 (.step 1)) earlier =
      some pool ∧
    Finished pool 1 (.destroyCache [] UUID.clear) (.ok ()) ∧
    responses (Global.own 1 pool.global.log) = [failedBool (lit "busy")] ∧
    UUID.clear ∈ earlier.global.shared.m_backends ∧ UUID.clear ∉ pool.global.shared.m_backends :=
  ⟨_, _, rfl, rfl, rfl, rfl, by decide, by decide⟩

theorem closed_as_answered : ∃ earlier pool, serve refusing [] createOne = some earlier ∧
    (system refusing).run (.spawn 1 (.closeCache [] UUID.clear) :: List.replicate 6 (.step 1)) earlier =
      some pool ∧
    RegistryAnswers (.closeCache [] UUID.clear) (.bool {}) earlier.global.shared.m_backends
      pool.global.shared.m_backends := by
  obtain ⟨earlier, pool, served, ran, finished, events⟩ : ∃ earlier pool,
      serve refusing [] createOne = some earlier ∧
      (system refusing).run (.spawn 1 (.closeCache [] UUID.clear) :: List.replicate 6 (.step 1))
        earlier = some pool ∧
      Finished pool 1 (.closeCache [] UUID.clear) (.ok ()) ∧
      Global.own 1 pool.global.log = [.received (.closeCache [] UUID.clear), .readToken [],
        .erased UUID.clear, .responded (.bool {})] := ⟨_, _, rfl, rfl, rfl, rfl⟩
  have fresh : BindsFresh 1 pool.global.log := by
    intro before cache_id cache after split
    have own : .bound cache_id cache ∈ Global.own 1 pool.global.log :=
      Global.mem_own.mpr (by simp [split])
    simp [events] at own
  have alone : ∀ action ∈ List.replicate 6 (Action.step 1 : Action Request StdString),
      action = .step 1 := fun _ member => List.eq_of_mem_replicate member
  have answers := (registry_as_answered served ran rfl finished fresh).2 alone
  refine ⟨earlier, pool, served, ran, answers.mpr ?_ _ ?_⟩
  · simp [DestroyFailed, events]
  · simp [events, responses]

end ProviderImpl

end Cachersize
