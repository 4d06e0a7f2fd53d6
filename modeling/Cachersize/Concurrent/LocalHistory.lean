import Cachersize.Concurrent.System

/-! Facts about one thread that need nothing from the others: what its own events
can be is decided by its body and by the answers its operations can get. -/
namespace Cachersize.Concurrent.System

variable {Op : Type} {Ret : Op → Type} {ε α σ τ κ E : Type}
variable (sys : System Ret ε α σ τ κ E)

/-- Some state lets the thread perform the operation with this answer. -/
def Answers (thread : Nat) (op : Op) (answer : Ret op) (events : List E) : Prop :=
  ∃ before shared, sys.exec thread op before = some (answer, shared, events)

/-- Along every path of the program, `Partial` holds of the thread's own events so
far and `Final` of its outcome with all its events. -/
def Along (thread : Nat) (Partial : List E → Prop) (Final : Except ε α → List E → Prop) :
    Program Ret ε α → List E → Prop
  | .done result, events => Partial events ∧ Final (.ok result) events
  | .raise error, events => Partial events ∧ Final (.error error) events
  | .perform op next, events => Partial events ∧ ∀ answer emitted,
      sys.Answers thread op answer emitted →
        Along thread Partial Final (next answer) (events ++ emitted)

variable {sys} {thread : Nat} {tag : τ} {program : Program Ret ε α}
variable {Partial : List E → Prop} {Final : Except ε α → List E → Prop}

/-- A thread is still on a path of its body; before it arrives it has no events. -/
def OnPath (sys : System Ret ε α σ τ κ E) (thread : Nat) (Partial : List E → Prop)
    (Final : Except ε α → List E → Prop) (pool : Pool Ret ε α σ τ E) : Prop :=
  (pool.threads thread = none → Global.own thread pool.global.log = []) ∧
  ∀ tag program, pool.threads thread = some ⟨tag, program⟩ →
    sys.Along thread Partial Final (sys.body tag) [sys.arrival tag] →
    sys.Along thread Partial Final program (Global.own thread pool.global.log)

theorem OnPath.step {before after : Pool Ret ε α σ τ E} {action : Action τ κ}
    (holds : OnPath sys thread Partial Final before) (stepped : sys.step before action = some after) :
    OnPath sys thread Partial Final after := by
  rcases System.step_cases stepped with ⟨actor, tag, -, vacant, rfl⟩ |
    ⟨actor, tag, op, next, answer, shared, events, -, running, answered, rfl⟩ | ⟨change, -, rfl⟩
  · by_cases same : thread = actor
    · subst actor
      refine ⟨by simp, ?_⟩
      intro other program present along
      have arrived : (⟨tag, sys.body tag⟩ : Thread Ret ε α τ) = ⟨other, program⟩ := by
        simpa using present
      cases arrived
      simpa [holds.1 vacant, Global.own_cons] using along
    · simpa [OnPath, Function.update_of_ne same, Global.own_cons, Ne.symm same] using holds
  · by_cases same : thread = actor
    · subst actor
      refine ⟨by simp, ?_⟩
      intro other program present along
      have moved : (⟨tag, next answer⟩ : Thread Ret ε α τ) = ⟨other, program⟩ := by
        simpa using present
      cases moved
      have earlier := holds.2 tag _ running along
      simpa using earlier.2 answer events ⟨_, _, answered⟩
    · simpa [OnPath, Function.update_of_ne same, Global.own_other (Ne.symm same)] using holds
  · exact holds

private theorem onPath {shared : σ} {actions : List (Action τ κ)} {pool : Pool Ret ε α σ τ E}
    (ran : sys.run actions (sys.initial shared) = some pool) :
    OnPath sys thread Partial Final pool := by
  apply run_induction (OnPath sys thread Partial Final) (fun _ _ _ _ => OnPath.step) ?_ ran
  exact ⟨fun _ => rfl, fun _ _ present => by cases present⟩

section Reached

variable {shared : σ} {actions : List (Action τ κ)} {pool : Pool Ret ε α σ τ E}
variable (ran : sys.run actions (sys.initial shared) = some pool)
include ran

theorem own_vacant (vacant : pool.threads thread = none) :
    Global.own thread pool.global.log = [] := by
  have path : OnPath sys thread (fun _ => True) (fun _ _ => True) pool := onPath ran
  exact path.1 vacant

theorem own_done {result : α} (present : pool.threads thread = some ⟨tag, .done result⟩)
    (along : sys.Along thread Partial Final (sys.body tag) [sys.arrival tag]) :
    Final (.ok result) (Global.own thread pool.global.log) :=
  ((onPath ran).2 tag _ present along).2

theorem own_raise {error : ε} (present : pool.threads thread = some ⟨tag, .raise error⟩)
    (along : sys.Along thread Partial Final (sys.body tag) [sys.arrival tag]) :
    Final (.error error) (Global.own thread pool.global.log) :=
  ((onPath ran).2 tag _ present along).2

end Reached

end Cachersize.Concurrent.System
