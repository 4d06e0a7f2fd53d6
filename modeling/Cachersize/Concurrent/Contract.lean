import Cachersize.Concurrent.Program

/-! Operations with preconditions that keep an invariant, and programs that meet all the
preconditions along their execution. -/
namespace Cachersize.Concurrent

variable {Op : Type} {Ret : Op → Type} {ε α γ σ : Type}

/-- Every operation that is called where its precondition holds keeps the invariant. -/
structure Contract (exec : (op : Op) → σ → Ret op × σ) where
  invariant : σ → Prop
  requires : Op → σ → Prop
  preserves : ∀ op state, invariant state → requires op state → invariant (exec op state).2

namespace Contract

variable {exec : (op : Op) → σ → Ret op × σ} (contract : Contract exec) {state : σ}

/-- Along its execution from a state, the program meets every precondition. -/
def Meets : Program Ret ε α → σ → Prop
  | .done _, _ | .raise _, _ => True
  | .perform op next, state => contract.requires op state ∧ Meets (next (exec op state).1) (exec op state).2

variable {contract}

@[simp] theorem meets_done (result : α) : contract.Meets (.done result : Program Ret ε α) state := trivial

@[simp] theorem meets_raise (error : ε) : contract.Meets (.raise error : Program Ret ε α) state := trivial

@[simp] theorem meets_perform {op : Op} {next : Ret op → Program Ret ε α} :
    contract.Meets (.perform op next) state ↔
      contract.requires op state ∧ contract.Meets (next (exec op state).1) (exec op state).2 := Iff.rfl

/-- The rule for sequences: the second program may rely on the invariant. -/
theorem Meets.bind {program : Program Ret ε α} {rest : α → Program Ret ε γ}
    (meets : contract.Meets program state) (holds : contract.invariant state)
    (later : ∀ result after, contract.invariant after → contract.Meets (rest result) after) :
    contract.Meets (program >>= rest) state := by
  induction program generalizing state with
  | done result => exact later result state holds
  | raise => trivial
  | perform op next ih =>
    obtain ⟨required, remaining⟩ := meets
    exact ⟨required, ih _ remaining (contract.preserves op state holds required)⟩

theorem Meets.attempt {program : Program Ret ε α} (meets : contract.Meets program state) :
    contract.Meets program.attempt state := by
  induction program generalizing state with
  | done | raise => trivial
  | perform op next ih => exact ⟨meets.1, ih _ meets.2⟩

theorem meets_ofExcept (outcome : Except ε α) :
    contract.Meets (Program.ofExcept outcome : Program Ret ε α) state := by
  cases outcome <;> trivial

end Contract

end Cachersize.Concurrent
