import Cachersize.Concurrent.System

/-! Threads that give up control only where an operation blocks them: one that moves
runs until it is blocked or ends, and nothing else happens meanwhile. -/
namespace Cachersize.Concurrent

variable {Op : Type} {Ret : Op → Type} {ε α σ τ κ : Type}

/-- `enter` performs an operation up to the point where it answers or blocks. A thread
that is blocked goes on with the answer of `wake`, when there is one. -/
structure Cooperative {Op : Type} (Ret : Op → Type) (ε α σ τ κ : Type) where
  body : τ → Program Ret ε α
  enter : (op : Op) → σ → Option (Ret op) × σ
  wake : (op : Op) → σ → Option (Ret op)
  external : κ → σ → σ

/-- A thread that does not move. -/
inductive Coroutine {Op : Type} (Ret : Op → Type) (ε α : Type) where
  | blocked (op : Op) (next : Ret op → Program Ret ε α)
  | ended (outcome : Except ε α)

structure Crew {Op : Type} (Ret : Op → Type) (ε α σ : Type) where
  shared : σ
  threads : Nat → Option (Coroutine Ret ε α)

def Crew.Inside (crew : Crew Ret ε α σ) (thread : Nat) : Prop :=
  ∃ op next, crew.threads thread = some (.blocked op next)

namespace Cooperative

variable (sys : Cooperative Ret ε α σ τ κ)

/-- Run until the next block, or to the end. -/
def advance : Program Ret ε α → σ → Coroutine Ret ε α × σ
  | .done result, state => (.ended (.ok result), state)
  | .raise error, state => (.ended (.error error), state)
  | .perform op next, state =>
    match sys.enter op state with
    | (some answer, after) => advance (next answer) after
    | (none, after) => (.blocked op next, after)

def settle (crew : Crew Ret ε α σ) (thread : Nat) (moved : Coroutine Ret ε α × σ) :
    Crew Ret ε α σ :=
  ⟨moved.2, Function.update crew.threads thread (some moved.1)⟩

/-- A thread that ended may be started again. -/
def step (crew : Crew Ret ε α σ) : Action τ κ → Option (Crew Ret ε α σ)
  | .spawn thread tag =>
    match crew.threads thread with
    | some (.blocked _ _) => none
    | _ => some (settle crew thread (sys.advance (sys.body tag) crew.shared))
  | .step thread =>
    match crew.threads thread with
    | some (.blocked op next) =>
      (sys.wake op crew.shared).map fun answer =>
        settle crew thread (sys.advance (next answer) crew.shared)
    | _ => none
  | .external change => some ⟨sys.external change crew.shared, crew.threads⟩

def run : List (Action τ κ) → Crew Ret ε α σ → Option (Crew Ret ε α σ)
  | [], crew => some crew
  | action :: rest, crew => (sys.step crew action).bind (run rest)

def initial (_ : Cooperative Ret ε α σ τ κ) (shared : σ) : Crew Ret ε α σ := ⟨shared, fun _ => none⟩

variable {sys} {crew after : Crew Ret ε α σ}

theorem advance_answer {op : Op} {next : Ret op → Program Ret ε α} {answer : Ret op} {state after : σ}
    (entered : sys.enter op state = (some answer, after)) :
    sys.advance (.perform op next) state = sys.advance (next answer) after := by
  simp only [advance, entered]

theorem advance_block {op : Op} {next : Ret op → Program Ret ε α} {state after : σ}
    (entered : sys.enter op state = (none, after)) :
    sys.advance (.perform op next) state = (.blocked op next, after) := by
  simp only [advance, entered]

theorem run_repeats : Repeats sys.step sys.run := ⟨fun _ => rfl, fun _ _ _ => rfl⟩

theorem step_wake {thread : Nat} {op : Op} {next : Ret op → Program Ret ε α} {answer : Ret op}
    (present : crew.threads thread = some (.blocked op next))
    (woken : sys.wake op crew.shared = some answer) :
    sys.step crew (.step thread) =
      some (settle crew thread (sys.advance (next answer) crew.shared)) := by
  simp only [step, present, woken, Option.map_some]

@[simp] theorem settle_shared (thread : Nat) (moved : Coroutine Ret ε α × σ) :
    (settle crew thread moved).shared = moved.2 := rfl

@[simp] theorem settle_same (thread : Nat) (moved : Coroutine Ret ε α × σ) :
    (settle crew thread moved).threads thread = some moved.1 := by
  simp [settle]

private theorem settle_other {thread other : Nat} (different : other ≠ thread)
    (moved : Coroutine Ret ε α × σ) :
    (settle crew thread moved).threads other = crew.threads other := by
  simp [settle, different]

@[simp] theorem settle_settle (thread : Nat) (first second : Coroutine Ret ε α × σ) :
    settle (settle crew thread first) thread second = settle crew thread second := by
  simp [settle]

theorem settle_cases {thread other : Nat} {moved : Coroutine Ret ε α × σ} {coroutine : Coroutine Ret ε α}
    (present : (settle crew thread moved).threads other = some coroutine) :
    coroutine = moved.1 ∨ crew.threads other = some coroutine := by
  by_cases same : other = thread
  · rw [same, settle_same] at present
    exact .inl (Option.some.inj present).symm
  · rw [settle_other same] at present
    exact .inr present

theorem inside_blocked {thread other : Nat} {op : Op} {next : Ret op → Program Ret ε α} {state : σ} :
    (settle crew thread (.blocked op next, state)).Inside other ↔ other = thread ∨ crew.Inside other := by
  by_cases same : other = thread
  · simp [Crew.Inside, same]
  · simp [Crew.Inside, same, settle_other same]

theorem inside_ended {thread other : Nat} {outcome : Except ε α} {state : σ} :
    (settle crew thread (.ended outcome, state)).Inside other ↔ other ≠ thread ∧ crew.Inside other := by
  by_cases same : other = thread
  · simp [Crew.Inside, same]
  · simp [Crew.Inside, same, settle_other same]

/-- Everything a single action can do. -/
theorem step_cases {action : Action τ κ} (stepped : sys.step crew action = some after) :
    (∃ thread tag, action = .spawn thread tag ∧ ¬ crew.Inside thread ∧
      after = settle crew thread (sys.advance (sys.body tag) crew.shared)) ∨
    (∃ thread op next answer, action = .step thread ∧
      crew.threads thread = some (.blocked op next) ∧ sys.wake op crew.shared = some answer ∧
      after = settle crew thread (sys.advance (next answer) crew.shared)) ∨
    (∃ change, action = .external change ∧
      after = ⟨sys.external change crew.shared, crew.threads⟩) := by
  cases action with
  | spawn thread tag =>
    simp only [step] at stepped
    split at stepped
    · cases stepped
    · rename_i free
      refine .inl ⟨thread, tag, rfl, ?_, (Option.some.inj stepped).symm⟩
      intro inside
      obtain ⟨op, next, blocked⟩ := inside
      exact free op next blocked
  | step thread =>
    simp only [step] at stepped
    split at stepped
    · rename_i op next blocked
      obtain ⟨answer, woken, same⟩ := Option.map_eq_some_iff.mp stepped
      exact .inr (.inl ⟨thread, op, next, answer, rfl, blocked, woken, same.symm⟩)
    · cases stepped
  | external change => exact .inr (.inr ⟨change, rfl, (Option.some.inj stepped).symm⟩)

end Cooperative

end Cachersize.Concurrent
