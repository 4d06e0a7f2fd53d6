import Cachersize.Concurrent.Runs
import Mathlib.Data.Finset.Card

/-! A gate that is to be passed once. Its flag is tested on arrival, the thread may be held
inside, and the flag is set on leaving: others may arrive in between. -/
namespace Cachersize.Concurrent

structure Gate where
  closed : Bool
  inside : Finset Nat
  entered : Nat
  left : Nat
  deriving DecidableEq

namespace Gate

/-- `held` tells whether the thread is suspended inside. -/
inductive Move where
  | arrive (thread : Nat) (held : Bool)
  | leave (thread : Nat)
  | idle
  deriving DecidableEq

def step (gate : Gate) : Move → Option Gate
  | .arrive thread held =>
    if thread ∈ gate.inside then none
    else if gate.closed then some gate
    else if held then
      some { gate with inside := insert thread gate.inside, entered := gate.entered + 1 }
    else some { gate with closed := true, entered := gate.entered + 1, left := gate.left + 1 }
  | .leave thread =>
    if thread ∈ gate.inside then
      some { gate with closed := true, inside := gate.inside.erase thread, left := gate.left + 1 }
    else none
  | .idle => some gate

def run : List Move → Gate → Option Gate
  | [], gate => some gate
  | move :: rest, gate => (gate.step move).bind (run rest)

def fresh : Gate := ⟨false, ∅, 0, 0⟩

def Alone (gate : Gate) : Move → Prop
  | .arrive .. => gate.inside = ∅
  | .leave _ | .idle => True

/-- Who entered has left or is inside, and who left has closed the gate. -/
structure Balanced (gate : Gate) : Prop where
  entered : gate.entered = gate.inside.card + gate.left
  closed : gate.closed = true ↔ 0 < gate.left

variable {gate after : Gate} {move : Move}

private theorem fresh_balanced : fresh.Balanced := ⟨rfl, by decide⟩

theorem run_repeats : Repeats step run := ⟨fun _ => rfl, fun _ _ _ => rfl⟩

/-- Everything a single move can do. -/
theorem step_cases (stepped : gate.step move = some after) :
    (∃ thread held, move = .arrive thread held ∧ gate.closed = true ∧ after = gate) ∨
    (∃ thread, move = .arrive thread true ∧ thread ∉ gate.inside ∧ gate.closed = false ∧
      after = { gate with inside := insert thread gate.inside, entered := gate.entered + 1 }) ∨
    (∃ thread, move = .arrive thread false ∧ gate.closed = false ∧
      after = { gate with closed := true, entered := gate.entered + 1, left := gate.left + 1 }) ∨
    (∃ thread, move = .leave thread ∧ thread ∈ gate.inside ∧
      after = { gate with closed := true, inside := gate.inside.erase thread, left := gate.left + 1 }) ∨
    (move = .idle ∧ after = gate) := by
  cases move with
  | arrive thread held =>
    by_cases inside : thread ∈ gate.inside
    · simp [step, inside] at stepped
    · cases closed : gate.closed with
      | true => exact .inl ⟨thread, held, rfl, rfl, by simpa [step, inside, closed] using stepped.symm⟩
      | false =>
        cases held with
        | true =>
          exact .inr (.inl ⟨thread, rfl, inside, rfl, by simpa [step, inside, closed] using stepped.symm⟩)
        | false =>
          exact .inr (.inr (.inl ⟨thread, rfl, rfl, by simpa [step, inside, closed] using stepped.symm⟩))
  | leave thread =>
    by_cases inside : thread ∈ gate.inside
    · exact .inr (.inr (.inr (.inl ⟨thread, rfl, inside, by simpa [step, inside] using stepped.symm⟩)))
    · simp [step, inside] at stepped
  | idle => exact .inr (.inr (.inr (.inr ⟨rfl, (Option.some.inj stepped).symm⟩)))

theorem Balanced.step (balanced : gate.Balanced) (stepped : gate.step move = some after) :
    after.Balanced := by
  obtain ⟨entered, closed⟩ := balanced
  rcases step_cases stepped with ⟨thread, held, -, -, rfl⟩ | ⟨thread, -, absent, free, rfl⟩ |
    ⟨thread, -, -, rfl⟩ | ⟨thread, -, present, rfl⟩ | ⟨-, rfl⟩
  · exact ⟨entered, closed⟩
  · constructor
    · simp only [Finset.card_insert_of_notMem absent]
      omega
    · exact closed
  · constructor
    · simp only
      omega
    · simp
  · constructor
    · have counted := Finset.card_erase_add_one present
      simp only
      omega
    · simp
  · exact ⟨entered, closed⟩

/-- A move keeps the gate from being entered twice exactly if nobody arrives while
another one is inside. -/
theorem once_step (balanced : gate.Balanced) (stepped : gate.step move = some after) :
    after.entered ≤ 1 ↔ gate.entered ≤ 1 ∧ gate.Alone move := by
  obtain ⟨entered, closed⟩ := balanced
  have empty : gate.inside = ∅ ↔ gate.inside.card = 0 := Finset.card_eq_zero.symm
  rcases step_cases stepped with ⟨thread, held, rfl, shut, rfl⟩ | ⟨thread, rfl, -, free, rfl⟩ |
    ⟨thread, rfl, free, rfl⟩ | ⟨thread, rfl, -, rfl⟩ | ⟨rfl, rfl⟩
  · have left := closed.mp shut
    simp only [Alone, empty]
    omega
  · have nobody : ¬ 0 < gate.left := fun left => by simp [closed.mpr left] at free
    simp only [Alone, empty]
    omega
  · have nobody : ¬ 0 < gate.left := fun left => by simp [closed.mpr left] at free
    simp only [Alone, empty]
    omega
  · simp [Alone]
  · simp [Alone]

/-- From a fresh gate: entered at most once exactly if nobody ever arrives while another
one is inside. -/
theorem once_iff {moves : List Move} (ran : run moves fresh = some after) :
    after.Balanced ∧ (after.entered ≤ 1 ↔ Throughout step Alone moves fresh) := by
  obtain ⟨balanced, once⟩ := run_repeats.throughout_iff (fun gate => gate.entered ≤ 1)
    (fun _ _ _ valid stepped => ⟨valid.step stepped, once_step valid stepped⟩) fresh_balanced ran
  exact ⟨balanced, once.trans (and_iff_right (Nat.zero_le 1))⟩

end Gate

end Cachersize.Concurrent
