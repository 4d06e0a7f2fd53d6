import Cachersize.Provider.Machine

/-! The mutex discipline of the handlers, and what follows from it: no request is
ever stuck for good. -/
namespace Cachersize.ProviderImpl

open Concurrent

variable {J β : Type}

/-- Where a handler is with respect to its `lock_guard`. Inside, `present` is a key
that it has seen in `m_backends`. -/
inductive Scope where
  | outside
  | inside (present : Option UUID)

namespace Scope

/-- What the discipline lets the handler of a request do next. An id is read with `[]` or
erased only after it was seen in `m_backends` under the same lock, and `destroy()` is
called only while the id of the request is. -/
def Permits (request : Request) : Scope → Op J β → Prop
  | outside, .lock => True
  | inside _, .unlock | inside _, .find _ | inside _, .count _ | inside _, .assign _ _ => True
  | inside present, .index cache_id | inside present, .erase cache_id => present = some cache_id
  | scope, .start (.destroy _) => ∃ token cache_id, request = .destroyCache token cache_id ∧
      scope = inside (some cache_id)
  | _, .m_token | _, .factory .. | _, .start _ | _, .finish _ | _, .respond _ => True
  | _, _ => False

def after : Scope → (op : Op J β) → op.Answer → Scope
  | _, .lock, _ => inside none
  | _, .unlock, _ => outside
  | _, .count cache_id, count => inside (if count = 0 then none else some cache_id)
  | _, .assign _ _, _ | _, .erase _, _ | _, .find _, _ => inside none
  | scope, .index _, _ | scope, .m_token, _ | scope, .factory .., _ | scope, .start _, _
  | scope, .finish _, _ | scope, .respond _, _ => scope

def Matches (thread : Nat) (provider : ProviderImpl β) : Scope → Prop
  | outside => provider.m_backends_mtx ≠ some thread
  | inside present => provider.m_backends_mtx = some thread ∧
      ∀ cache_id, present = some cache_id → cache_id ∈ provider.m_backends

end Scope

theorem Scope.permits_destroy {request : Request} {scope : Scope} {cache : Backend β} :
    scope.Permits request (.start (.destroy cache) : Op J β) ↔ ∃ token cache_id,
      request = .destroyCache token cache_id ∧ scope = .inside (some cache_id) := by
  cases scope <;> exact Iff.rfl

/-- All accesses to `m_backends` are under the mutex, and every exit releases it. -/
def Follows (request : Request) : Handler J β Unit → Scope → Prop
  | .done _, scope => scope = .outside
  | .raise _, scope => scope = .outside
  | .perform op next, scope => scope.Permits request op ∧
      ∀ answer, Follows request (next answer) (scope.after op answer)

variable {request : Request}

private theorem follows_perform {op : Op J β} {next : op.Answer → Handler J β Unit} {scope : Scope}
    (permitted : scope.Permits request op)
    (later : ∀ answer, Follows request (next answer) (scope.after op answer)) :
    Follows request (.perform op next) scope := ⟨permitted, later⟩

private theorem follows_respond (response : Response) :
    Follows request (.perform (.respond response) .done : Handler J β Unit) .outside :=
  follows_perform trivial fun _ => rfl

private theorem follows_token {token : StdString} {failed : Response} {rest : Handler J β Unit}
    (accepted : Follows request rest .outside) :
    Follows request (.perform .m_token fun secret =>
      if InvalidToken secret token then .perform (.respond failed) .done else rest) .outside := by
  refine follows_perform trivial fun secret => ?_
  by_cases invalid : InvalidToken secret token
  · rw [if_pos invalid]
    exact follows_respond failed
  · rw [if_neg invalid]
    exact accepted

variable (runtime : Runtime J β)

private theorem addCache_follows (operation : FactoryCall) (cache_id : UUID)
    (token cache_type cache_config : StdString) :
    Follows request (addCache runtime operation cache_id token cache_type cache_config) .outside := by
  rw [addCache_eq]
  apply follows_token
  cases runtime.parse cache_config with
  | error exception =>
    cases exception with
    | parse_error what => exact follows_respond _
    | other what => rfl
  | ok json_config =>
    refine follows_perform trivial fun built => ?_
    cases built with
    | error what => exact follows_respond _
    | ok made =>
      cases made with
      | none => exact follows_respond _
      | some backend =>
        exact follows_perform trivial fun _ => follows_perform trivial fun _ =>
          follows_perform trivial fun _ => follows_respond _

private theorem after_count {cache_id : UUID} {count : Nat} (present : ¬ count = 0) :
    (Scope.inside none).after (.count cache_id : Op J β) count = .inside (some cache_id) := by
  simp [Scope.after, present]

private theorem closeCache_follows (token : StdString) (cache_id : UUID) :
    Follows request (closeCache runtime token cache_id) .outside := by
  rw [closeCache_eq]
  apply follows_token
  refine follows_perform trivial fun _ => follows_perform trivial fun count => ?_
  by_cases missing : count = 0
  · rw [if_pos missing]
    exact follows_perform trivial fun _ => follows_perform trivial fun _ => rfl
  · rw [if_neg missing, Scope.after, after_count missing]
    exact follows_perform rfl fun _ => follows_perform trivial fun _ => follows_respond _

private theorem destroyCache_follows (token : StdString) (cache_id : UUID) :
    Follows (.destroyCache token cache_id) (destroyCache runtime token cache_id) .outside := by
  rw [destroyCache_eq]
  apply follows_token
  refine follows_perform trivial fun _ => follows_perform trivial fun count => ?_
  by_cases missing : count = 0
  · rw [if_pos missing]
    exact follows_perform trivial fun _ => follows_perform trivial fun _ => rfl
  rw [if_neg missing, Scope.after, after_count missing]
  refine follows_perform rfl fun cache => follows_perform ⟨token, cache_id, rfl, rfl⟩ fun _ =>
    follows_perform trivial fun outcome => ?_
  cases outcome with
  | ok result =>
    exact follows_perform rfl fun _ => follows_perform trivial fun _ => follows_respond _
  | error what => exact follows_perform trivial fun _ => rfl

private theorem FIND_CACHE_follows (cache_id : UUID) (failed : StdString → Response)
    {body : Backend β → Handler J β Unit} (found : ∀ cache, Follows request (body cache) .outside) :
    Follows request (FIND_CACHE runtime cache_id failed body) .outside := by
  rw [FIND_CACHE_eq]
  refine follows_perform trivial fun _ => follows_perform trivial fun lookedUp => ?_
  cases lookedUp with
  | none => exact follows_perform trivial fun _ => follows_perform trivial fun _ => rfl
  | some cache => exact follows_perform trivial fun _ => found cache

private theorem handler_follows (request : Request) : Follows request (handler runtime request) .outside := by
  cases request with
  | createCache => exact addCache_follows runtime _ _ _ _ _
  | openCache => exact addCache_follows runtime _ _ _ _ _
  | closeCache => exact closeCache_follows runtime _ _
  | destroyCache => exact destroyCache_follows runtime _ _
  | checkCache => exact FIND_CACHE_follows runtime _ _ fun _ => follows_respond _
  | sayHello =>
    refine FIND_CACHE_follows runtime _ _ fun cache =>
      follows_perform trivial fun _ => follows_perform trivial fun outcome => ?_
    cases outcome <;> rfl
  | computeSum =>
    rw [handler, computeSum_eq]
    refine FIND_CACHE_follows runtime _ _ fun cache =>
      follows_perform trivial fun _ => follows_perform trivial fun outcome => ?_
    cases outcome with
    | ok result => exact follows_respond _
    | error what => rfl

variable {runtime} {thread : Nat}

variable (runtime) in
/-- A permitted operation is enabled unless another thread holds the mutex. -/
theorem exec_enabled {op : Op J β} {scope : Scope} {s : State J β} (permitted : scope.Permits request op)
    (accurate : scope.Matches thread s.shared)
    (unlocked : s.shared.m_backends_mtx = none ∨ s.shared.m_backends_mtx = some thread) :
    ∃ answered, exec runtime thread op s = some answered := by
  cases op with
  | lock =>
    cases scope with
    | outside =>
      have free : s.shared.m_backends_mtx = none := unlocked.resolve_right accurate
      simp [exec, free]
    | inside present => exact permitted.elim
  | index cache_id =>
    cases scope with
    | outside => exact permitted.elim
    | inside present =>
      have bound := accurate.2 cache_id permitted
      obtain ⟨cache, found⟩ := Finmap.mem_iff.mp bound
      simp [exec, found]
  | _ => exact ⟨_, rfl⟩

/-- The scope stays accurate for the thread that moves. -/
theorem exec_matches {op : Op J β} {scope : Scope} {s : State J β} {answer : op.Answer}
    {shared : ProviderImpl β} {events : List (Event J β)} (permitted : scope.Permits request op)
    (accurate : scope.Matches thread s.shared)
    (answered : exec runtime thread op s = some (answer, shared, events)) :
    (scope.after op answer).Matches thread shared := by
  cases op with
  | lock =>
    obtain ⟨-, -, rfl⟩ := exec_lock answered
    exact ⟨rfl, by simp⟩
  | unlock => cases answered; simp [Scope.after, Scope.Matches]
  | count cache_id =>
    cases scope with
    | outside => exact permitted.elim
    | inside present =>
      cases answered
      refine ⟨accurate.1, ?_⟩
      by_cases bound : cache_id ∈ s.shared.m_backends <;> simp [bound]
  | index cache_id =>
    obtain ⟨-, -, rfl⟩ := exec_index answered
    exact accurate
  | find _ | assign _ _ | erase _ =>
    cases scope with
    | outside => exact permitted.elim
    | inside present => cases answered; exact ⟨accurate.1, by simp⟩
  | m_token | factory _ _ _ | start _ | finish _ | respond _ => cases answered; exact accurate

/-- It also stays accurate for every other thread: only the holder of the mutex
touches `m_backends` or releases the mutex. -/
theorem exec_matches_other {op : Op J β} {scope other : Scope} {bystander : Nat} {s : State J β}
    {answer : op.Answer} {shared : ProviderImpl β} {events : List (Event J β)}
    (different : bystander ≠ thread) (permitted : scope.Permits request op)
    (accurate : scope.Matches thread s.shared) (held : other.Matches bystander s.shared)
    (answered : exec runtime thread op s = some (answer, shared, events)) :
    other.Matches bystander shared := by
  -- a bystander inside the mutex leaves the moving thread outside
  have exclusive : ∀ present, scope = .inside present → ∀ seen, other ≠ .inside seen := by
    rintro present rfl seen rfl
    exact different (Option.some.inj (held.1.symm.trans accurate.1))
  cases op with
  | lock =>
    obtain ⟨free, -, rfl⟩ := exec_lock answered
    cases other with
    | outside => simp [Scope.Matches, Ne.symm different]
    | inside seen => simp [Scope.Matches, free] at held
  | unlock =>
    cases scope with
    | outside => exact permitted.elim
    | inside present =>
      cases other with
      | outside => cases answered; simp [Scope.Matches]
      | inside seen => exact absurd rfl (exclusive present rfl seen)
  | assign _ _ | erase _ =>
    cases scope with
    | outside => exact permitted.elim
    | inside present =>
      cases other with
      | outside => cases answered; exact held
      | inside seen => exact absurd rfl (exclusive present rfl seen)
  | index cache_id =>
    obtain ⟨-, -, rfl⟩ := exec_index answered
    exact held
  | m_token | factory _ _ _ | find _ | count _ | start _ | finish _ | respond _ =>
    cases answered; exact held

/-- Every request in flight follows the discipline, and the mutex is held by one of
them or by nobody. -/
structure Disciplined (pool : Provider J β) : Prop where
  follows : ∀ thread request program, pool.threads thread = some ⟨request, program⟩ →
    ∃ scope, Follows request program scope ∧ scope.Matches thread pool.global.shared
  holder : ∀ thread, pool.global.shared.m_backends_mtx = some thread →
    (pool.threads thread).isSome

theorem Disciplined.step {before after : Provider J β} {action : Action Request StdString}
    (disciplined : Disciplined before) (stepped : (system runtime).step before action = some after) :
    Disciplined after := by
  rcases System.step_cases stepped with ⟨actor, request, -, vacant, rfl⟩ |
    ⟨actor, request, op, next, answer, shared, events, -, running, answered, rfl⟩ | ⟨change, -, rfl⟩
  · constructor
    · intro thread other program present
      by_cases same : thread = actor
      · subst same
        have arrived : (⟨request, handler runtime request⟩ : Thread _ _ _ _) = ⟨other, program⟩ := by
          simpa using present
        cases arrived
        refine ⟨.outside, handler_follows runtime request, fun held => ?_⟩
        have impossible := disciplined.holder thread held
        simp [vacant] at impossible
      · exact disciplined.follows thread other program (by simpa [same] using present)
    · intro thread held
      by_cases same : thread = actor
      · simp [same]
      · simpa [same] using disciplined.holder thread held
  · obtain ⟨scope, ⟨permitted, follows⟩, accurate⟩ := disciplined.follows actor request _ running
    constructor
    · intro thread other program present
      by_cases same : thread = actor
      · subst same
        have moved : (⟨request, next answer⟩ : Thread _ _ _ _) = ⟨other, program⟩ := by
          simpa using present
        cases moved
        exact ⟨_, follows answer, exec_matches permitted accurate answered⟩
      · obtain ⟨held, follows, holds⟩ :=
          disciplined.follows thread other program (by simpa [same] using present)
        exact ⟨held, follows, exec_matches_other same permitted accurate holds answered⟩
    · intro thread held
      by_cases same : thread = actor
      · simp [same]
      · suffices before.global.shared.m_backends_mtx = some thread by
          simpa [same] using disciplined.holder thread this
        by_contra unheld
        have kept : Scope.outside.Matches thread shared :=
          exec_matches_other same permitted accurate unheld answered
        exact kept held
  · exact ⟨disciplined.follows, disciplined.holder⟩

variable (runtime) in
theorem initial_disciplined (m_token : StdString) :
    Disciplined ((system runtime).initial (empty m_token)) := by
  constructor
  · intro _ _ _ present
    cases present
  · intro _ held
    cases held

theorem serve_disciplined {m_token : StdString} {actions : List (Action Request StdString)}
    {pool : Provider J β} (served : serve runtime m_token actions = some pool) :
    Disciplined pool :=
  System.run_induction Disciplined (fun _ _ _ _ valid => valid.step) (initial_disciplined runtime m_token)
    served

variable (runtime) in
/-- A request that does not have to wait for the mutex runs to its end alone. -/
theorem finishes_alone {pool : Provider J β} {request : Request} {program : Handler J β Unit}
    (disciplined : Disciplined pool) (present : pool.threads thread = some ⟨request, program⟩)
    (unlocked : pool.global.shared.m_backends_mtx = none ∨
      pool.global.shared.m_backends_mtx = some thread) :
    ∃ steps after outcome, (system runtime).run (List.replicate steps (.step thread)) pool = some after ∧
      Finished after thread request outcome ∧ Disciplined after ∧
      after.global.shared.m_backends_mtx = none ∧
      ∀ other, other ≠ thread → after.threads other = pool.threads other := by
  obtain ⟨scope, follows, accurate⟩ := disciplined.follows thread request program present
  induction program generalizing pool scope with
  | done result =>
    cases follows
    exact ⟨0, pool, .ok result, rfl, present, disciplined, unlocked.resolve_right accurate,
      fun _ _ => rfl⟩
  | raise error =>
    cases follows
    exact ⟨0, pool, .error error, rfl, present, disciplined, unlocked.resolve_right accurate,
      fun _ _ => rfl⟩
  | perform op next ih =>
    obtain ⟨permitted, continues⟩ := follows
    obtain ⟨⟨answer, shared, events⟩, answered⟩ :=
      exec_enabled runtime permitted accurate unlocked
    have stepped : (system runtime).step pool (.step thread) = some
        ⟨pool.global.extend thread shared events,
          Function.update pool.threads thread (some ⟨request, next answer⟩)⟩ := by
      simp only [System.step, present, answered]
    have matched := exec_matches permitted accurate answered
    have free : shared.m_backends_mtx = none ∨ shared.m_backends_mtx = some thread := by
      cases held : shared.m_backends_mtx with
      | none => exact .inl rfl
      | some holder =>
        by_cases same : holder = thread
        · exact .inr (by rw [same])
        · have unheld : Scope.outside.Matches holder pool.global.shared := by
            intro other
            rcases unlocked with none | own
            · simp [none] at other
            · exact same (Option.some.inj (other.symm.trans own))
          exact absurd held (exec_matches_other same permitted accurate unheld answered)
    obtain ⟨steps, after, outcome, ran, finished, valid, released, untouched⟩ :=
      ih answer (disciplined.step stepped) (by simp) free _ (continues answer) matched
    refine ⟨steps + 1, after, outcome, ?_, finished, valid, released, fun other different => ?_⟩
    · simp only [List.replicate_succ, System.run, stepped]
      exact ran
    · rw [untouched other different]
      simp [different]

/-- From every reachable state, any request in flight can be brought to its end: the
holder of the mutex, if there is one, finishes first. -/
theorem finishes_scheduled {m_token : StdString} {actions : List (Action Request StdString)}
    {pool : Provider J β} {request : Request} {program : Handler J β Unit}
    (served : serve runtime m_token actions = some pool)
    (present : pool.threads thread = some ⟨request, program⟩) :
    ∃ (schedule : List Nat) (after : Provider J β) (outcome : Except StdString Unit),
      (system runtime).run (schedule.map .step) pool = some after ∧
      Finished after thread request outcome := by
  have disciplined := serve_disciplined served
  cases held : pool.global.shared.m_backends_mtx with
  | none =>
    obtain ⟨steps, after, outcome, ran, finished, -⟩ :=
      finishes_alone runtime disciplined present (.inl held)
    refine ⟨List.replicate steps thread, after, outcome, ?_, finished⟩
    rw [List.map_replicate, ran]
  | some holder =>
    by_cases same : holder = thread
    · obtain ⟨steps, after, outcome, ran, finished, -⟩ :=
        finishes_alone runtime disciplined present (.inr (by rw [held, same]))
      refine ⟨List.replicate steps thread, after, outcome, ?_, finished⟩
      rw [List.map_replicate, ran]
    · obtain ⟨⟨other, busy⟩, working⟩ := Option.isSome_iff_exists.mp (disciplined.holder holder held)
      obtain ⟨first, middle, _, ranHolder, -, valid, released, untouched⟩ :=
        finishes_alone runtime disciplined working (.inr held)
      obtain ⟨second, after, outcome, ran, finished, -⟩ := finishes_alone runtime valid
        ((untouched thread (Ne.symm same)).trans present) (.inl released)
      refine ⟨List.replicate first holder ++ List.replicate second thread, after, outcome, ?_, finished⟩
      rw [List.map_append, List.map_replicate, List.map_replicate, System.run_append, ranHolder]
      exact ran

theorem finishes {m_token : StdString} {actions : List (Action Request StdString)}
    {pool : Provider J β} {request : Request} {program : Handler J β Unit}
    (served : serve runtime m_token actions = some pool)
    (present : pool.threads thread = some ⟨request, program⟩) :
    ∃ more after outcome, (system runtime).run more pool = some after ∧
      Finished after thread request outcome := by
  obtain ⟨schedule, after, outcome, ran, finished⟩ := finishes_scheduled served present
  exact ⟨_, after, outcome, ran, finished⟩

end Cachersize.ProviderImpl
