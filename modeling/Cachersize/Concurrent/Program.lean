import Mathlib.Data.List.Basic

/-! Programs as trees of atomic operations. One `perform` node is one step of a
thread; its continuation receives the answer. Nothing here fixes the operations. -/
namespace Cachersize.Concurrent

/-- A thread body over operations `Op` with answers `Ret`. It ends with a result
or with an exception that leaves it. -/
inductive Program {Op : Type} (Ret : Op → Type) (ε α : Type) where
  | done (result : α)
  | raise (error : ε)
  | perform (op : Op) (next : Ret op → Program Ret ε α)

variable {Op : Type} {Ret : Op → Type} {ε α γ : Type}

namespace Program

protected def bind : Program Ret ε α → (α → Program Ret ε γ) → Program Ret ε γ
  | done result, rest => rest result
  | raise error, _ => raise error
  | perform op next, rest => perform op fun answer => (next answer).bind rest

instance : Monad (Program Ret ε) where
  pure := done
  bind := Program.bind

@[simp] theorem pure_eq (result : α) : (pure result : Program Ret ε α) = done result := rfl

@[simp] theorem done_bind (result : α) (rest : α → Program Ret ε γ) :
    (done result >>= rest) = rest result := rfl

@[simp] theorem raise_bind (error : ε) (rest : α → Program Ret ε γ) :
    ((raise error : Program Ret ε α) >>= rest) = raise error := rfl

@[simp] theorem perform_bind (op : Op) (next : Ret op → Program Ret ε α)
    (rest : α → Program Ret ε γ) :
    (perform op next >>= rest) = perform op fun answer => next answer >>= rest := rfl

def call (op : Op) : Program Ret ε (Ret op) := perform op done

@[simp] theorem call_bind (op : Op) (rest : Ret op → Program Ret ε γ) :
    (call op >>= rest) = perform op rest := rfl

/-- Turn an exception into a value, as `try` with a catch clause for it does. -/
def attempt : Program Ret ε α → Program Ret ε (Except ε α)
  | done result => done (.ok result)
  | raise error => done (.error error)
  | perform op next => perform op fun answer => (next answer).attempt

@[simp] theorem attempt_done (result : α) :
    (done result : Program Ret ε α).attempt = done (.ok result) := rfl

@[simp] theorem attempt_raise (error : ε) :
    (raise error : Program Ret ε α).attempt = done (.error error) := rfl

@[simp] theorem attempt_perform (op : Op) (next : Ret op → Program Ret ε α) :
    (perform op next).attempt = perform op fun answer => (next answer).attempt := rfl

def ofExcept : Except ε α → Program Ret ε α
  | .ok result => done result
  | .error error => raise error

@[simp] theorem ofExcept_ok (result : α) :
    (ofExcept (.ok result) : Program Ret ε α) = done result := rfl

@[simp] theorem ofExcept_error (error : ε) :
    (ofExcept (.error error) : Program Ret ε α) = raise error := rfl

/-- A scope with an entry and an exit operation. The exit also runs when an
exception unwinds the scope. -/
def guarded (enter leave : Op) (body : Program Ret ε α) : Program Ret ε α := do
  let _ ← call enter
  let outcome ← body.attempt
  let _ ← call leave
  ofExcept outcome

/-- No path performs more operations than this. -/
def Within : Program Ret ε α → Nat → Prop
  | done _, _ | raise _, _ => True
  | perform _ _, 0 => False
  | perform _ next, bound + 1 => ∀ answer, (next answer).Within bound

theorem Within.mono {program : Program Ret ε α} {bound larger : Nat} (within : program.Within bound)
    (more : bound ≤ larger) : program.Within larger := by
  induction program generalizing bound larger with
  | done | raise => trivial
  | perform op next ih =>
    cases bound with
    | zero => exact within.elim
    | succ bound =>
      cases larger with
      | zero => exact absurd more (Nat.not_succ_le_zero bound)
      | succ larger => exact fun answer => ih answer (within answer) (Nat.le_of_succ_le_succ more)

theorem Within.pos {op : Op} {next : Ret op → Program Ret ε α} {bound : Nat}
    (within : (perform op next).Within bound) : ∃ less, bound = less + 1 ∧
      ∀ answer, (next answer).Within less := by
  cases bound with
  | zero => exact within.elim
  | succ less => exact ⟨less, rfl, within⟩

theorem Within.bind {program : Program Ret ε α} {rest : α → Program Ret ε γ} {first : Nat}
    (within : program.Within first) (second : Nat) (later : ∀ result, (rest result).Within second) :
    (program >>= rest).Within (first + second) := by
  induction program generalizing first with
  | done result => exact (later result).mono (Nat.le_add_left second first)
  | raise => trivial
  | perform op next ih =>
    obtain ⟨less, rfl, remaining⟩ := within.pos
    rw [Nat.succ_add]
    exact fun answer => ih answer (remaining answer)

theorem Within.attempt {program : Program Ret ε α} {bound : Nat} (within : program.Within bound) :
    program.attempt.Within bound := by
  induction program generalizing bound with
  | done | raise => trivial
  | perform op next ih =>
    obtain ⟨less, rfl, remaining⟩ := within.pos
    exact fun answer => ih answer (remaining answer)

section Execute

variable {σ : Type} (exec : (op : Op) → σ → Ret op × σ)

/-- The whole program at once, for operations that never block. -/
def execute : Program Ret ε α → σ → Except ε α × σ
  | done result, state => (.ok result, state)
  | raise error, state => (.error error, state)
  | perform op next, state => (next (exec op state).1).execute (exec op state).2

@[simp] theorem execute_done (result : α) (state : σ) :
    (done result : Program Ret ε α).execute exec state = (.ok result, state) := rfl

@[simp] theorem execute_raise (error : ε) (state : σ) :
    (raise error : Program Ret ε α).execute exec state = (.error error, state) := rfl

@[simp] theorem execute_perform (op : Op) (next : Ret op → Program Ret ε α) (state : σ) :
    (perform op next).execute exec state =
      (next (exec op state).1).execute exec (exec op state).2 := rfl

theorem execute_bind (program : Program Ret ε α) (rest : α → Program Ret ε γ) (state : σ) :
    (program >>= rest).execute exec state =
      match program.execute exec state with
      | (.ok result, after) => (rest result).execute exec after
      | (.error error, after) => (.error error, after) := by
  induction program generalizing state with
  | done | raise => rfl
  | perform op next ih => exact ih _ _

theorem execute_attempt (program : Program Ret ε α) (state : σ) :
    program.attempt.execute exec state =
      (.ok (program.execute exec state).1, (program.execute exec state).2) := by
  induction program generalizing state with
  | done | raise => rfl
  | perform op next ih => exact ih _ _

@[simp] theorem execute_ofExcept (outcome : Except ε α) (state : σ) :
    (ofExcept outcome : Program Ret ε α).execute exec state = (outcome, state) := by
  cases outcome <;> rfl

end Execute

end Program

end Cachersize.Concurrent
