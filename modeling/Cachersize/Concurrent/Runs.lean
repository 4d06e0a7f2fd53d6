import Mathlib.Data.List.Basic

/-! Runs of a partial step function. A step that is not enabled ends the run. -/
namespace Cachersize.Concurrent

variable {σ α : Type}

/-- `run` takes the steps of a list of actions one after the other. -/
structure Repeats (step : σ → α → Option σ) (run : List α → σ → Option σ) : Prop where
  nil : ∀ state, run [] state = some state
  cons : ∀ action rest state, run (action :: rest) state = (step state action).bind (run rest)

namespace Repeats

variable {step : σ → α → Option σ} {run : List α → σ → Option σ}

theorem append (repeats : Repeats step run) (first second : List α) (state : σ) :
    run (first ++ second) state = (run first state).bind (run second) := by
  induction first generalizing state with
  | nil => rw [List.nil_append, repeats.nil, Option.bind_some]
  | cons action rest ih =>
    rw [List.cons_append, repeats.cons, repeats.cons, Option.bind_assoc]
    congr 1
    funext middle
    exact ih middle

theorem snoc (repeats : Repeats step run) (first : List α) (action : α) (state : σ) :
    run (first ++ [action]) state = (run first state).bind (step · action) := by
  rw [repeats.append]
  congr 1
  funext middle
  rw [repeats.cons]
  cases step middle action with
  | none => rfl
  | some after => exact repeats.nil after

/-- A property kept by every step of a run holds at its end. -/
theorem induction {actions : List α} {state after : σ} (repeats : Repeats step run) (Holds : σ → Prop)
    (keeps : ∀ action ∈ actions, ∀ before later, Holds before → step before action = some later →
      Holds later)
    (start : Holds state) (ran : run actions state = some after) : Holds after := by
  induction actions generalizing state with
  | nil =>
    rw [repeats.nil] at ran
    cases ran
    exact start
  | cons action rest ih =>
    rw [repeats.cons] at ran
    obtain ⟨middle, stepped, remaining⟩ := Option.bind_eq_some_iff.mp ran
    have next : Holds middle := keeps action List.mem_cons_self state middle start stepped
    exact ih (fun other member => keeps other (List.mem_cons_of_mem _ member)) next remaining

end Repeats

/-- Every action of a run meets a condition on the state that it starts in. -/
def Throughout (step : σ → α → Option σ) (Meets : σ → α → Prop) : List α → σ → Prop
  | [], _ => True
  | action :: rest, state => Meets state action ∧
      ∀ after ∈ step state action, Throughout step Meets rest after

theorem throughout_cons {step : σ → α → Option σ} {Meets : σ → α → Prop} {action : α} {rest : List α}
    {state after : σ} (stepped : step state action = some after) :
    Throughout step Meets (action :: rest) state ↔
      Meets state action ∧ Throughout step Meets rest after := by
  simp [Throughout, stepped]

instance (step : σ → α → Option σ) (Meets : σ → α → Prop) [∀ state action, Decidable (Meets state action)] :
    ∀ actions state, Decidable (Throughout step Meets actions state)
  | [], _ => isTrue trivial
  | action :: rest, state =>
    have : ∀ after, Decidable (Throughout step Meets rest after) := fun after =>
      instDecidableThroughout step Meets rest after
    inferInstanceAs (Decidable (_ ∧ ∀ after ∈ step state action, _))

section Throughout

variable {step : σ → α → Option σ} {run : List α → σ → Option σ} {Valid : σ → Prop}
variable {actions : List α} {state after : σ}

/-- What one step keeps exactly if it meets a condition, a run keeps exactly if all its
steps meet the condition. -/
theorem Repeats.throughout_iff (repeats : Repeats step run) (Good : σ → Prop) {Meets : σ → α → Prop}
    (keeps : ∀ action before later, Valid before → step before action = some later →
      Valid later ∧ (Good later ↔ Good before ∧ Meets before action))
    (start : Valid state) (ran : run actions state = some after) :
    Valid after ∧ (Good after ↔ Good state ∧ Throughout step Meets actions state) := by
  induction actions generalizing state with
  | nil =>
    rw [repeats.nil] at ran
    cases ran
    exact ⟨start, (and_iff_left trivial).symm⟩
  | cons action rest ih =>
    rw [repeats.cons] at ran
    obtain ⟨middle, stepped, remaining⟩ := Option.bind_eq_some_iff.mp ran
    obtain ⟨valid, kept⟩ := keeps action state middle start stepped
    obtain ⟨final, later⟩ := ih valid remaining
    refine ⟨final, ?_⟩
    rw [later, kept, throughout_cons stepped, and_assoc]

/-- `induction` for runs under a condition. -/
theorem Repeats.throughout_induction (repeats : Repeats step run) {Meets : σ → α → Prop} (Holds : σ → Prop)
    (keeps : ∀ action before later, Holds before → Meets before action → step before action = some later →
      Holds later)
    (start : Holds state) (ran : run actions state = some after)
    (throughout : Throughout step Meets actions state) : Holds after := by
  induction actions generalizing state with
  | nil =>
    rw [repeats.nil] at ran
    cases ran
    exact start
  | cons action rest ih =>
    rw [repeats.cons] at ran
    obtain ⟨middle, stepped, remaining⟩ := Option.bind_eq_some_iff.mp ran
    obtain ⟨meets, later⟩ := (throughout_cons stepped).mp throughout
    exact ih (keeps action state middle start meets stepped) remaining later

theorem Repeats.throughout_congr (repeats : Repeats step run) {Meets Other : σ → α → Prop}
    (keeps : ∀ action before later, Valid before → step before action = some later →
      Valid later ∧ (Meets before action ↔ Other before action))
    (start : Valid state) (ran : run actions state = some after) :
    Throughout step Meets actions state ↔ Throughout step Other actions state := by
  induction actions generalizing state with
  | nil => exact Iff.rfl
  | cons action rest ih =>
    rw [repeats.cons] at ran
    obtain ⟨middle, stepped, remaining⟩ := Option.bind_eq_some_iff.mp ran
    obtain ⟨valid, agree⟩ := keeps action state middle start stepped
    rw [throughout_cons stepped, throughout_cons stepped, agree, ih valid remaining]

end Throughout

def trace {E : Type} (step : σ → α → Option σ) (observe : σ → α → List E) : List α → σ → List E
  | [], _ => []
  | action :: rest, state => observe state action ++ match step state action with
    | some after => trace step observe rest after
    | none => []

/-- What every step keeps of the state and of the observations so far holds at the end. -/
theorem Repeats.trace_induction {E : Type} {step : σ → α → Option σ} {run : List α → σ → Option σ}
    {observe : σ → α → List E} {actions : List α} {state after : σ} (repeats : Repeats step run)
    (Holds : σ → List E → Prop)
    (keeps : ∀ action ∈ actions, ∀ before later past, Holds before past → step before action = some later →
      Holds later (past ++ observe before action))
    {past : List E} (start : Holds state past) (ran : run actions state = some after) :
    Holds after (past ++ trace step observe actions state) := by
  induction actions generalizing state past with
  | nil =>
    rw [repeats.nil] at ran
    cases ran
    simpa [trace] using start
  | cons action rest ih =>
    rw [repeats.cons] at ran
    obtain ⟨middle, stepped, remaining⟩ := Option.bind_eq_some_iff.mp ran
    have next := keeps action List.mem_cons_self state middle past start stepped
    have later := ih (fun other member => keeps other (List.mem_cons_of_mem _ member)) next remaining
    simpa [trace, stepped] using later

/-- What every step keeps of the state and of the actions so far holds at the end. -/
theorem Repeats.past_induction {step : σ → α → Option σ} {run : List α → σ → Option σ}
    {actions : List α} {state after : σ} (repeats : Repeats step run) (Holds : σ → List α → Prop)
    (keeps : ∀ action ∈ actions, ∀ before later past, Holds before past → step before action = some later →
      Holds later (past ++ [action]))
    {past : List α} (start : Holds state past) (ran : run actions state = some after) :
    Holds after (past ++ actions) := by
  induction actions generalizing state past with
  | nil =>
    rw [repeats.nil] at ran
    cases ran
    simpa using start
  | cons action rest ih =>
    rw [repeats.cons] at ran
    obtain ⟨middle, stepped, remaining⟩ := Option.bind_eq_some_iff.mp ran
    have next := keeps action List.mem_cons_self state middle past start stepped
    have later := ih (fun other member => keeps other (List.mem_cons_of_mem _ member)) next remaining
    simpa using later

section Refinement

variable {ς μ : Type} {step : σ → α → Option σ} {run : List α → σ → Option σ}
variable {stepAbove : ς → μ → Option ς} {runAbove : List μ → ς → Option ς}

/-- If every step is one above, then every run is one above. Conditions on single steps
that agree do so for runs. -/
theorem Repeats.refine (repeats : Repeats step run) (above : Repeats stepAbove runAbove)
    (Refines : σ → ς → Prop) {Meets : σ → α → Prop} {MeetsAbove : ς → μ → Prop} {actions : List α}
    (keeps : ∀ action ∈ actions, ∀ state image later, Refines state image →
      step state action = some later → ∃ move imageLater, stepAbove image move = some imageLater ∧
        Refines later imageLater ∧ (MeetsAbove image move ↔ Meets state action))
    {state after : σ} {image : ς} (start : Refines state image) (ran : run actions state = some after) :
    ∃ moves imageAfter, runAbove moves image = some imageAfter ∧ Refines after imageAfter ∧
      (Throughout stepAbove MeetsAbove moves image ↔ Throughout step Meets actions state) := by
  induction actions generalizing state image with
  | nil =>
    rw [repeats.nil] at ran
    cases ran
    exact ⟨[], image, above.nil image, start, Iff.rfl⟩
  | cons action rest ih =>
    rw [repeats.cons] at ran
    obtain ⟨middle, stepped, remaining⟩ := Option.bind_eq_some_iff.mp ran
    obtain ⟨move, middleAbove, moved, refines, agree⟩ :=
      keeps action List.mem_cons_self state image middle start stepped
    obtain ⟨moves, imageAfter, ranAbove, final, agreeLater⟩ :=
      ih (fun other member => keeps other (List.mem_cons_of_mem _ member)) refines remaining
    refine ⟨move :: moves, imageAfter, ?_, final, ?_⟩
    · rw [above.cons, moved, Option.bind_some, ranAbove]
    · rw [throughout_cons moved, throughout_cons stepped, agree, agreeLater]

/-- If every step is the one that it shows above, or none where it shows none, then a run
is the run of what it shows. -/
theorem Repeats.hide (repeats : Repeats step run) (above : Repeats stepAbove runAbove)
    (shows : α → Option μ) (Refines : σ → ς → Prop) {actions : List α}
    (keeps : ∀ action ∈ actions, ∀ state image later, Refines state image →
      step state action = some later →
      ∃ imageLater, runAbove (shows action).toList image = some imageLater ∧ Refines later imageLater)
    {state after : σ} {image : ς} (start : Refines state image) (ran : run actions state = some after) :
    ∃ imageAfter, runAbove (actions.filterMap shows) image = some imageAfter ∧ Refines after imageAfter := by
  induction actions generalizing state image with
  | nil =>
    rw [repeats.nil] at ran
    cases ran
    exact ⟨image, above.nil image, start⟩
  | cons action rest ih =>
    rw [repeats.cons] at ran
    obtain ⟨middle, stepped, remaining⟩ := Option.bind_eq_some_iff.mp ran
    obtain ⟨middleAbove, shown, refines⟩ := keeps action List.mem_cons_self state image middle start stepped
    obtain ⟨imageAfter, ranAbove, final⟩ :=
      ih (fun other member => keeps other (List.mem_cons_of_mem _ member)) refines remaining
    refine ⟨imageAfter, ?_, final⟩
    have split : (action :: rest).filterMap shows = (shows action).toList ++ rest.filterMap shows := by
      cases visible : shows action <;> simp [visible]
    rw [split, above.append, shown, Option.bind_some, ranAbove]

end Refinement

/-- If the steps of one system are the images of the steps of another one, as far as a
property holds, then so are the runs. -/
theorem Repeats.image {ς : Type} {step : σ → α → Option σ} {run : List α → σ → Option σ}
    {stepAbove : ς → α → Option ς} {runAbove : List α → ς → Option ς} (repeats : Repeats step run)
    (above : Repeats stepAbove runAbove) (f : σ → ς) (Holds : σ → Prop) {actions : List α}
    (maps : ∀ action ∈ actions, ∀ state, Holds state →
      stepAbove (f state) action = (step state action).map f ∧
        ∀ after, step state action = some after → Holds after)
    {state : σ} (start : Holds state) : runAbove actions (f state) = (run actions state).map f := by
  induction actions generalizing state with
  | nil => rw [repeats.nil, above.nil, Option.map_some]
  | cons action rest ih =>
    obtain ⟨same, keeps⟩ := maps action List.mem_cons_self state start
    rw [repeats.cons, above.cons, same]
    cases stepped : step state action with
    | none => rfl
    | some after =>
      rw [Option.map_some, Option.bind_some, Option.bind_some]
      exact ih (fun other member => maps other (List.mem_cons_of_mem _ member)) (keeps after stepped)

end Cachersize.Concurrent
