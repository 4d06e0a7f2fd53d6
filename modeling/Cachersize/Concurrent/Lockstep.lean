import Cachersize.Concurrent.System

/-! Two runs of a system under one schedule, whose threads differ in what they carry.
Each thread of the second run mirrors the thread of that name in the first one. -/
namespace Cachersize.Concurrent

variable {Op : Type} {Ret : Op → Type} {ε α σ τ κ E : Type}

def Action.retag (alter : Nat → τ → τ) : Action τ κ → Action τ κ
  | spawn thread tag => spawn thread (alter thread tag)
  | step thread => step thread
  | external change => external change

namespace System

variable (sys : System Ret ε α σ τ κ E) (View : Global σ E → Global σ E → Prop)

/-- Wherever the states are related by `View`, the second program can answer a step of
the first one so that they are related again. Both end the same way, with events of
their own that `Final` relates. -/
def Mirrors (thread : Nat) (Final : Except ε α → List E → List E → Prop) :
    Program Ret ε α → Program Ret ε α → List E → List E → Prop
  | .done result, other, events, image => other = .done result ∧ Final (.ok result) events image
  | .raise error, other, events, image => other = .raise error ∧ Final (.error error) events image
  | .perform op next, other, events, image => ∃ opOther nextOther,
      other = .perform opOther nextOther ∧
      ∀ before beforeOther answer shared emitted, View before beforeOther →
        sys.exec thread op before = some (answer, shared, emitted) →
        ∃ answerOther sharedOther emittedOther,
          sys.exec thread opOther beforeOther = some (answerOther, sharedOther, emittedOther) ∧
          View (before.extend thread shared emitted)
            (beforeOther.extend thread sharedOther emittedOther) ∧
          Mirrors thread Final (next answer) (nextOther answerOther) (events ++ emitted)
            (image ++ emittedOther)

variable (alter : Nat → τ → τ) (Final : Nat → τ → Except ε α → List E → List E → Prop)

/-- What has to be shown of the threads for two runs to stay in step. -/
structure Couples : Prop where
  arrival : ∀ thread tag before other, View before other →
    View (before.extend thread before.shared [sys.arrival tag])
      (other.extend thread other.shared [sys.arrival (alter thread tag)])
  body : ∀ thread tag, sys.Mirrors View thread (Final thread tag) (sys.body tag)
    (sys.body (alter thread tag)) [sys.arrival tag] [sys.arrival (alter thread tag)]
  external : ∀ change before other, View before other →
    View ⟨sys.external change before.shared, before.log⟩ ⟨sys.external change other.shared, other.log⟩

structure InStep (pool other : Pool Ret ε α σ τ E) : Prop where
  view : View pool.global other.global
  vacant : ∀ thread, pool.threads thread = none → other.threads thread = none ∧
    Global.own thread pool.global.log = [] ∧ Global.own thread other.global.log = []
  mirrors : ∀ thread tag program, pool.threads thread = some ⟨tag, program⟩ →
    ∃ image, other.threads thread = some ⟨alter thread tag, image⟩ ∧
      sys.Mirrors View thread (Final thread tag) program image (Global.own thread pool.global.log)
        (Global.own thread other.global.log)

variable {sys View alter Final} {pool other after : Pool Ret ε α σ τ E}

/-- Both threads of a name were replaced, and all others are as they were. -/
theorem InStep.update (inStep : sys.InStep View alter Final pool other) {actor : Nat} {tag : τ}
    {program image : Program Ret ε α} {shared sharedOther : σ} {events eventsOther : List E}
    (view : View (pool.global.extend actor shared events)
      (other.global.extend actor sharedOther eventsOther))
    (mirrors : sys.Mirrors View actor (Final actor tag) program image
      (Global.own actor pool.global.log ++ events) (Global.own actor other.global.log ++ eventsOther)) :
    sys.InStep View alter Final
      ⟨pool.global.extend actor shared events,
        Function.update pool.threads actor (some ⟨tag, program⟩)⟩
      ⟨other.global.extend actor sharedOther eventsOther,
        Function.update other.threads actor (some ⟨alter actor tag, image⟩)⟩ := by
  constructor
  · exact view
  · intro thread vacant
    by_cases same : thread = actor
    · simp [same] at vacant
    · have absent := inStep.vacant thread (by simpa [same] using vacant)
      simpa [same, Global.own_other (Ne.symm same)] using absent
  · intro thread tagged running present
    by_cases same : thread = actor
    · subst same
      have replaced : (⟨tag, program⟩ : Thread Ret ε α τ) = ⟨tagged, running⟩ := by
        simpa using present
      cases replaced
      exact ⟨image, by simp, by simpa using mirrors⟩
    · have mirrored := inStep.mirrors thread tagged running (by simpa [same] using present)
      simpa [same, Global.own_other (Ne.symm same)] using mirrored

theorem InStep.step (couples : sys.Couples View alter Final)
    (inStep : sys.InStep View alter Final pool other) {action : Action τ κ}
    (stepped : sys.step pool action = some after) :
    ∃ image, sys.step other (action.retag alter) = some image ∧
      sys.InStep View alter Final after image := by
  rcases step_cases stepped with ⟨actor, tag, rfl, vacant, rfl⟩ |
    ⟨actor, tag, op, next, answer, shared, events, rfl, running, answered, rfl⟩ | ⟨change, rfl, rfl⟩
  · obtain ⟨free, nothing, nothingOther⟩ := inStep.vacant actor vacant
    refine ⟨_, by simp only [Action.retag, System.step, free]; rfl, inStep.update ?_ ?_⟩
    · exact couples.arrival actor tag _ _ inStep.view
    · simpa [nothing, nothingOther] using couples.body actor tag
  · obtain ⟨image, present, opOther, nextOther, rfl, follows⟩ := inStep.mirrors actor tag _ running
    obtain ⟨answerOther, sharedOther, eventsOther, answeredOther, view, mirrors⟩ :=
      follows _ _ answer shared events inStep.view answered
    refine ⟨_, ?_, inStep.update view mirrors⟩
    simp only [Action.retag, System.step, present, answeredOther]
  · exact ⟨_, rfl, couples.external change _ _ inStep.view, inStep.vacant, inStep.mirrors⟩

/-- The second run can follow the first one to its end. -/
theorem InStep.run (couples : sys.Couples View alter Final)
    (inStep : sys.InStep View alter Final pool other) {actions : List (Action τ κ)}
    (ran : sys.run actions pool = some after) :
    ∃ image, sys.run (actions.map (Action.retag alter)) other = some image ∧
      sys.InStep View alter Final after image := by
  induction actions generalizing pool other with
  | nil =>
    cases ran
    exact ⟨other, rfl, inStep⟩
  | cons action rest ih =>
    obtain ⟨middle, stepped, remaining⟩ := Option.bind_eq_some_iff.mp ran
    obtain ⟨middleOther, steppedOther, still⟩ := inStep.step couples stepped
    obtain ⟨image, ranOther, final⟩ := ih still remaining
    refine ⟨image, ?_, final⟩
    rw [List.map_cons, System.run, steppedOther, Option.bind_some, ranOther]

theorem InStep.initial {shared sharedOther : σ} (view : View ⟨shared, []⟩ ⟨sharedOther, []⟩) :
    sys.InStep View alter Final (sys.initial shared) (sys.initial sharedOther) where
  view := view
  vacant _ _ := ⟨rfl, rfl, rfl⟩
  mirrors _ _ _ present := by cases present

theorem InStep.ended (inStep : sys.InStep View alter Final pool other) {thread : Nat} {tag : τ}
    {outcome : Except ε α} (ended : pool.threads thread = some ⟨tag, Program.ofExcept outcome⟩) :
    other.threads thread = some ⟨alter thread tag, Program.ofExcept outcome⟩ ∧
      Final thread tag outcome (Global.own thread pool.global.log)
        (Global.own thread other.global.log) := by
  obtain ⟨image, present, mirrors⟩ := inStep.mirrors thread tag _ ended
  cases outcome with
  | ok result | error what =>
    obtain ⟨rfl, final⟩ := mirrors
    exact ⟨present, final⟩

end System

end Cachersize.Concurrent
