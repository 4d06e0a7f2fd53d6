import Cachersize.Concurrent.System

/-! Removing threads from a run. Threads that change nothing shared, and whose events
no operation reads, can be taken out of a run without a trace in the rest of it. So can
threads that are noticed only while they run, as readers that hold a lock for a while. -/
namespace Cachersize.Concurrent

variable {Op : Type} {Ret : Op → Type} {ε α σ τ κ E : Type}

/-- A run without the threads of ignored tags. `removed` names those seen so far. -/
def without (ignored : τ → Bool) : List Nat → List (Action τ κ) → List (Action τ κ)
  | _, [] => []
  | removed, .spawn thread tag :: rest =>
    if ignored tag then without ignored (thread :: removed) rest
    else .spawn thread tag :: without ignored removed rest
  | removed, .step thread :: rest =>
    if thread ∈ removed then without ignored removed rest
    else .step thread :: without ignored removed rest
  | removed, .external change :: rest => .external change :: without ignored removed rest

/-- The events that operations may react to. -/
def seen (visible : E → Bool) (log : List (Nat × E)) : List E := (log.map Prod.snd).filter visible

@[simp] theorem seen_append (visible : E → Bool) (first second : List (Nat × E)) :
    seen visible (first ++ second) = seen visible first ++ seen visible second := by
  simp [seen]

private theorem seen_invisible {visible : E → Bool} {thread : Nat} {events : List E}
    (invisible : ∀ event ∈ events, visible event = false) :
    seen visible (events.map (Prod.mk thread)) = [] := by
  simpa [seen, Function.comp_def] using invisible

/-- A proof that the ignored threads idle: `Idle` is what their programs and events can
be, while `inv` holds of the shared state. -/
structure Idling (sys : System Ret ε α σ τ κ E) (ignored : τ → Bool) where
  inv : σ → Prop
  visible : E → Bool
  Idle : τ → Program Ret ε α → List E → Prop
  arrives : ∀ tag, ignored tag = true →
    Idle tag (sys.body tag) [sys.arrival tag] ∧ visible (sys.arrival tag) = false
  idles : ∀ thread tag op next past s answer shared events, Idle tag (.perform op next) past →
    inv s.shared → sys.exec thread op s = some (answer, shared, events) →
    shared = s.shared ∧ (∀ event ∈ events, visible event = false) ∧
      Idle tag (next answer) (past ++ events)
  keeps : ∀ thread op s answer shared events, inv s.shared →
    sys.exec thread op s = some (answer, shared, events) → inv shared
  congr : ∀ thread op s s', s.shared = s'.shared → seen visible s.log = seen visible s'.log →
    sys.exec thread op s = sys.exec thread op s'

namespace Idling

variable {removed : List Nat}

private theorem filter_kept {thread : Nat} (kept : thread ∉ removed) (events : List E) :
    (events.map (Prod.mk thread)).filter (fun entry => entry.1 ∉ removed) =
      events.map (Prod.mk thread) := by
  simp [List.filter_map, Function.comp_def, kept]

private theorem filter_removed {thread : Nat} (gone : thread ∈ removed) (events : List E) :
    (events.map (Prod.mk thread)).filter (fun entry => entry.1 ∉ removed) = [] := by
  simp [List.filter_map, Function.comp_def, gone]

theorem own_kept {thread : Nat} (kept : thread ∉ removed) (log : List (Nat × E)) :
    Global.own thread (log.filter fun entry => entry.1 ∉ removed) = Global.own thread log := by
  rw [Global.own, Global.own, List.filter_filter]
  congr 1
  apply List.filter_congr
  intro entry _
  by_cases same : entry.1 = thread
  · simp [same, kept]
  · simp [same]

private theorem filter_vacant {thread : Nat} {log : List (Nat × E)} (vacant : Global.own thread log = []) :
    (log.filter fun entry => entry.1 ∉ thread :: removed) = log.filter fun entry => entry.1 ∉ removed := by
  apply List.filter_congr
  intro entry member
  have different : entry.1 ≠ thread := by
    intro same
    have own : entry.2 ∈ Global.own thread log := Global.mem_own.mpr (same ▸ member)
    simp [vacant] at own
  simp [different]

end Idling

/-- A proof that the ignored threads pass. `Alike removed` relates the shared state of a
pool to the one that the pool has without the removed threads, where the others go on in
the same way. -/
structure Passing (sys : System Ret ε α σ τ κ E) (ignored : τ → Bool) where
  inv : Pool Ret ε α σ τ E → Prop
  visible : E → Bool
  Passes : τ → Program Ret ε α → List E → Prop
  Alike : List Nat → σ → σ → Prop
  arrives : ∀ tag, ignored tag = true →
    Passes tag (sys.body tag) [sys.arrival tag] ∧ visible (sys.arrival tag) = false
  joins : ∀ removed pool thread other, inv pool → pool.threads thread = none →
    Alike removed pool.global.shared other → Alike (thread :: removed) pool.global.shared other
  passes : ∀ removed pool thread tag op next past answer shared events other, inv pool →
    pool.threads thread = some ⟨tag, .perform op next⟩ → thread ∈ removed →
    Passes tag (.perform op next) past → Alike removed pool.global.shared other →
    sys.exec thread op pool.global = some (answer, shared, events) →
    Alike removed shared other ∧ (∀ event ∈ events, visible event = false) ∧
      Passes tag (next answer) (past ++ events)
  mimics : ∀ removed pool thread tag op next answer shared events state, inv pool →
    pool.threads thread = some ⟨tag, .perform op next⟩ → thread ∉ removed →
    Alike removed pool.global.shared state.shared →
    seen visible state.log = seen visible pool.global.log →
    sys.exec thread op pool.global = some (answer, shared, events) →
    ∃ mimicked, sys.exec thread op state = some (answer, mimicked, events) ∧ Alike removed shared mimicked
  changes : ∀ removed change shared other, Alike removed shared other →
    Alike removed (sys.external change shared) (sys.external change other)

namespace Passing

variable {sys : System Ret ε α σ τ κ E} {ignored : τ → Bool} (passing : Passing sys ignored)

/-- The second pool is the first one without the removed threads. -/
structure Lacks (removed : List Nat) (pool rest : Pool Ret ε α σ τ E) : Prop where
  inv : passing.inv pool
  alike : passing.Alike removed pool.global.shared rest.global.shared
  log : rest.global.log = pool.global.log.filter fun entry => entry.1 ∉ removed
  seen : seen passing.visible rest.global.log = seen passing.visible pool.global.log
  threads : ∀ thread, thread ∉ removed → rest.threads thread = pool.threads thread
  present : ∀ thread ∈ removed, ∃ tag program, pool.threads thread = some ⟨tag, program⟩ ∧
    ignored tag = true ∧ passing.Passes tag program (Global.own thread pool.global.log)
  removed : ∀ thread tag program, pool.threads thread = some ⟨tag, program⟩ →
    ignored tag = true → thread ∈ removed
  vacant : ∀ thread, pool.threads thread = none → Global.own thread pool.global.log = []

variable {passing} {removed : List Nat} {pool rest after : Pool Ret ε α σ τ E}

theorem Lacks.own (lacks : passing.Lacks removed pool rest) {thread : Nat} (kept : thread ∉ removed) :
    Global.own thread rest.global.log = Global.own thread pool.global.log := by
  rw [lacks.log, Idling.own_kept kept]

theorem Lacks.mem_removed (lacks : passing.Lacks removed pool rest) {thread : Nat} {tag : τ}
    {program : Program Ret ε α} (present : pool.threads thread = some ⟨tag, program⟩) :
    thread ∈ removed ↔ ignored tag = true := by
  refine ⟨fun member => ?_, lacks.removed thread tag program present⟩
  obtain ⟨_, _, found, ignores, -⟩ := lacks.present thread member
  cases present.symm.trans found
  exact ignores

theorem Lacks.keep {thread : Nat} {tag : τ} {program : Program Ret ε α} {shared mimicked : σ}
    {events : List E} (lacks : passing.Lacks removed pool rest) (kept : thread ∉ removed)
    (wanted : ignored tag = false)
    (valid : passing.inv ⟨pool.global.extend thread shared events,
      Function.update pool.threads thread (some ⟨tag, program⟩)⟩)
    (alike : passing.Alike removed shared mimicked) :
    passing.Lacks removed
      ⟨pool.global.extend thread shared events,
        Function.update pool.threads thread (some ⟨tag, program⟩)⟩
      ⟨rest.global.extend thread mimicked events,
        Function.update rest.threads thread (some ⟨tag, program⟩)⟩ where
  inv := valid
  alike := alike
  log := by
    rw [Global.extend_log, Global.extend_log, List.filter_append, Idling.filter_kept kept, lacks.log]
  seen := by
    rw [Global.extend_log, Global.extend_log, seen_append, seen_append, lacks.seen]
  threads := by
    intro other member
    by_cases same : other = thread
    · simp [same]
    · simpa [same] using lacks.threads other member
  present := by
    intro other member
    have different : other ≠ thread := fun same => kept (same ▸ member)
    simpa [different, Global.own_other different.symm] using lacks.present other member
  removed := by
    intro other found found_program present ignores
    by_cases same : other = thread
    · subst same
      have moved : (⟨tag, program⟩ : Thread Ret ε α τ) = ⟨found, found_program⟩ := by
        simpa using present
      cases moved
      cases wanted.symm.trans ignores
    · exact lacks.removed other found found_program (by simpa [same] using present) ignores
  vacant := by
    intro other empty
    by_cases same : other = thread
    · simp [same] at empty
    · simpa [Global.own_other (Ne.symm same)] using
        lacks.vacant other (by simpa [same] using empty)

/-- A removed thread moves, or arrives, in the larger pool only. -/
theorem Lacks.drop {thread : Nat} {tag : τ} {program : Program Ret ε α} {shared : σ} {events : List E}
    {larger : List Nat} (lacks : passing.Lacks removed pool rest)
    (gone : thread ∈ larger) (others : ∀ other, other ≠ thread → (other ∈ larger ↔ other ∈ removed))
    (older : (pool.global.log.filter fun entry => entry.1 ∉ larger) =
      pool.global.log.filter fun entry => entry.1 ∉ removed)
    (ignores : ignored tag = true) (invisible : ∀ event ∈ events, passing.visible event = false)
    (passes : passing.Passes tag program (Global.own thread pool.global.log ++ events))
    (valid : passing.inv ⟨pool.global.extend thread shared events,
      Function.update pool.threads thread (some ⟨tag, program⟩)⟩)
    (alike : passing.Alike larger shared rest.global.shared) :
    passing.Lacks larger
      ⟨pool.global.extend thread shared events,
        Function.update pool.threads thread (some ⟨tag, program⟩)⟩ rest where
  inv := valid
  alike := alike
  log := by
    rw [Global.extend_log, List.filter_append, Idling.filter_removed gone, List.append_nil, older, lacks.log]
  seen := by
    rw [Global.extend_log, seen_append, seen_invisible invisible, List.append_nil, lacks.seen]
  threads := by
    intro other member
    have different : other ≠ thread := fun same => member (same ▸ gone)
    have kept : other ∉ removed := fun old => member ((others other different).mpr old)
    simpa [different] using lacks.threads other kept
  present := by
    intro other member
    by_cases same : other = thread
    · subst same
      exact ⟨tag, program, by simp, ignores, by simpa using passes⟩
    · simpa [same, Global.own_other (Ne.symm same)] using
        lacks.present other ((others other same).mp member)
  removed := by
    intro other found found_program present found_ignored
    by_cases same : other = thread
    · exact same ▸ gone
    · exact (others other same).mpr
        (lacks.removed other found found_program (by simpa [same] using present) found_ignored)
  vacant := by
    intro other empty
    by_cases same : other = thread
    · simp [same] at empty
    · simpa [Global.own_other (Ne.symm same)] using
        lacks.vacant other (by simpa [same] using empty)

theorem Lacks.arrive {thread : Nat} {tag : τ} (lacks : passing.Lacks removed pool rest)
    (ignores : ignored tag = true) (stepped : sys.step pool (.spawn thread tag) = some after)
    (valid : passing.inv after) : passing.Lacks (thread :: removed) after rest := by
  rcases System.step_cases stepped with ⟨_, _, same, vacant, rfl⟩ | ⟨_, _, _, _, _, _, _, same, -⟩ |
    ⟨_, same, -⟩
  · cases same
    obtain ⟨passes, invisible⟩ := passing.arrives tag ignores
    have silent := lacks.vacant thread vacant
    have alike := passing.joins removed pool thread _ lacks.inv vacant lacks.alike
    exact lacks.drop List.mem_cons_self (fun other different => by simp [different])
      (Idling.filter_vacant silent) ignores (by simpa using invisible) (by simpa [silent] using passes)
      valid alike
  · cases same
  · cases same

theorem Lacks.pass {thread : Nat} (lacks : passing.Lacks removed pool rest) (gone : thread ∈ removed)
    (stepped : sys.step pool (.step thread) = some after) (valid : passing.inv after) :
    passing.Lacks removed after rest := by
  rcases System.step_cases stepped with ⟨_, _, same, -⟩ |
    ⟨_, tag, op, next, answer, shared, events, same, running, answered, rfl⟩ | ⟨_, same, -⟩
  · cases same
  · cases same
    obtain ⟨found, program, present, ignores, passes⟩ := lacks.present thread gone
    cases running.symm.trans present
    obtain ⟨alike, invisible, later⟩ := passing.passes removed pool thread tag op next _ answer shared
      events _ lacks.inv running gone passes lacks.alike answered
    exact lacks.drop gone (fun _ _ => Iff.rfl) rfl ignores invisible later valid alike
  · cases same

/-- The action is one of a removed thread, or brings a thread to ignore. -/
def Dropped (ignored : τ → Bool) (removed : List Nat) : Action τ κ → Prop
  | .spawn _ tag => ignored tag = true
  | .step thread => thread ∈ removed
  | .external _ => False

/-- Everything else happens without the removed threads, too. -/
theorem Lacks.mimic {action : Action τ κ} (lacks : passing.Lacks removed pool rest)
    (kept : ¬ Dropped ignored removed action) (stepped : sys.step pool action = some after)
    (valid : passing.inv after) :
    ∃ remaining, sys.step rest action = some remaining ∧ passing.Lacks removed after remaining := by
  rcases System.step_cases stepped with ⟨thread, tag, rfl, vacant, rfl⟩ |
    ⟨thread, tag, op, next, answer, shared, events, rfl, running, answered, rfl⟩ | ⟨change, rfl, rfl⟩
  · have wanted : ignored tag = false := by simpa [Dropped] using kept
    have fresh : thread ∉ removed := by
      intro member
      obtain ⟨_, _, present, -⟩ := lacks.present thread member
      cases vacant.symm.trans present
    have free : rest.threads thread = none := (lacks.threads thread fresh).trans vacant
    exact ⟨_, by simp only [System.step, free], lacks.keep fresh wanted valid lacks.alike⟩
  · have wanted : ignored tag = false := by
      by_contra ignores
      exact kept (lacks.removed thread tag _ running (by simpa using ignores))
    obtain ⟨mimicked, same, alike⟩ := passing.mimics removed pool thread tag op next answer shared events
      rest.global lacks.inv running kept lacks.alike lacks.seen answered
    have present : rest.threads thread = some ⟨tag, .perform op next⟩ :=
      (lacks.threads thread kept).trans running
    exact ⟨_, by simp only [System.step, present, same], lacks.keep kept wanted valid alike⟩
  · exact ⟨_, rfl, { lacks with
      inv := valid
      alike := passing.changes removed change _ _ lacks.alike }⟩

/-- Unwinding: a run from related pools, with the ignored threads taken out, ends in
related pools again. -/
theorem Lacks.run {actions : List (Action τ κ)} (lacks : passing.Lacks removed pool rest)
    (keeps : ∀ action ∈ actions, ∀ before later, passing.inv before →
      sys.step before action = some later → passing.inv later)
    (ran : sys.run actions pool = some after) :
    ∃ removed' remaining, sys.run (without ignored removed actions) rest = some remaining ∧
      passing.Lacks removed' after remaining := by
  induction actions generalizing pool rest removed with
  | nil =>
    cases Option.some.inj ran
    exact ⟨removed, rest, rfl, lacks⟩
  | cons action actions ih =>
    obtain ⟨middle, stepped, remains⟩ := Option.bind_eq_some_iff.mp ran
    have valid := keeps action List.mem_cons_self pool middle lacks.inv stepped
    have keepsLater : ∀ action ∈ actions, ∀ before later, passing.inv before →
        sys.step before action = some later → passing.inv later :=
      fun other member => keeps other (List.mem_cons_of_mem _ member)
    by_cases dropped : Dropped ignored removed action
    · cases action with
      | spawn thread tag =>
        have ignores : ignored tag = true := dropped
        simpa [without, ignores] using ih (lacks.arrive ignores stepped valid) keepsLater remains
      | step thread =>
        have gone : thread ∈ removed := dropped
        simpa [without, gone] using ih (lacks.pass gone stepped valid) keepsLater remains
      | external change => exact dropped.elim
    · obtain ⟨next, mimicked, related⟩ := lacks.mimic dropped stepped valid
      obtain ⟨removed', remaining, ranRest, relatedAfter⟩ := ih related keepsLater remains
      refine ⟨removed', remaining, ?_, relatedAfter⟩
      have whole : sys.run (action :: without ignored removed actions) rest = some remaining := by
        rw [System.run, mimicked, Option.bind_some, ranRest]
      cases action with
      | spawn thread tag =>
        have wanted : ignored tag = false := by simpa [Dropped] using dropped
        simpa [without, wanted] using whole
      | step thread =>
        have stays : thread ∉ removed := dropped
        simpa [without, stays] using whole
      | external change => exact whole

theorem lacks_initial {shared : σ} (valid : passing.inv (sys.initial shared))
    (alike : passing.Alike [] shared shared) : passing.Lacks [] (sys.initial shared) (sys.initial shared) where
  inv := valid
  alike := alike
  log := rfl
  seen := rfl
  threads := fun _ _ => rfl
  present := nofun
  removed := nofun
  vacant := fun _ _ => rfl

end Passing

namespace Idling

variable {sys : System Ret ε α σ τ κ E} {ignored : τ → Bool} (idling : Idling sys ignored)

/-- The second pool is the first one without the removed threads. -/
structure Restricts (removed : List Nat) (pool rest : Pool Ret ε α σ τ E) : Prop where
  inv : idling.inv pool.global.shared
  shared : rest.global.shared = pool.global.shared
  log : rest.global.log = pool.global.log.filter fun entry => entry.1 ∉ removed
  seen : seen idling.visible rest.global.log = seen idling.visible pool.global.log
  threads : ∀ thread, thread ∉ removed → rest.threads thread = pool.threads thread
  present : ∀ thread ∈ removed, ∃ tag program, pool.threads thread = some ⟨tag, program⟩ ∧
    ignored tag = true ∧ idling.Idle tag program (Global.own thread pool.global.log)
  removed : ∀ thread tag program, pool.threads thread = some ⟨tag, program⟩ →
    ignored tag = true → thread ∈ removed
  vacant : ∀ thread, pool.threads thread = none → Global.own thread pool.global.log = []

variable {removed : List Nat} {pool rest after : Pool Ret ε α σ τ E}

/-- Without threads that idle, the shared state is not only alike. -/
def passing : Passing sys ignored where
  inv pool := idling.inv pool.global.shared
  visible := idling.visible
  Passes := idling.Idle
  Alike _ shared other := other = shared
  arrives := idling.arrives
  joins := fun _ _ _ _ _ _ same => same
  passes := by
    intro removed pool thread tag op next past answer shared events other valid _ _ idle same answered
    obtain ⟨unchanged, invisible, later⟩ :=
      idling.idles thread tag op next past _ answer shared events idle valid answered
    exact ⟨same.trans unchanged.symm, invisible, later⟩
  mimics := by
    intro removed pool thread tag op next answer shared events state _ _ _ same logs answered
    exact ⟨shared, (idling.congr thread op _ _ same logs).trans answered, rfl⟩
  changes := fun _ change _ _ same => congrArg (sys.external change) same

variable {idling}

private theorem Restricts.of_lacks (lacks : idling.passing.Lacks removed pool rest) :
    idling.Restricts removed pool rest where
  inv := lacks.inv
  shared := lacks.alike
  log := lacks.log
  seen := lacks.seen
  threads := lacks.threads
  present := lacks.present
  removed := lacks.removed
  vacant := lacks.vacant

/-- The run without the ignored threads, from the empty pool on. -/
theorem run_without {shared : σ} {actions : List (Action τ κ)} (valid : idling.inv shared)
    (constant : ∀ change, .external change ∈ actions →
      ∀ shared, idling.inv shared → idling.inv (sys.external change shared))
    (ran : sys.run actions (sys.initial shared) = some after) :
    ∃ removed remaining, sys.run (without ignored [] actions) (sys.initial shared) = some remaining ∧
      idling.Restricts removed after remaining := by
  have start : idling.passing.Lacks [] (sys.initial shared) (sys.initial shared) :=
    Passing.lacks_initial valid rfl
  have keeps : ∀ action ∈ actions, ∀ before later, idling.passing.inv before →
      sys.step before action = some later → idling.passing.inv later := by
    intro action member before later holds stepped
    rcases System.step_cases stepped with ⟨thread, tag, rfl, vacant, rfl⟩ |
      ⟨thread, tag, op, next, answer, shared, events, rfl, running, answered, rfl⟩ | ⟨change, rfl, rfl⟩
    · exact holds
    · exact idling.keeps thread op _ answer shared events holds answered
    · exact constant change member _ holds
  obtain ⟨removed, remaining, ranRest, lacks⟩ := start.run keeps ran
  exact ⟨removed, remaining, ranRest, .of_lacks lacks⟩

end Idling

end Cachersize.Concurrent
