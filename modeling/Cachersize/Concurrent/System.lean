import Cachersize.Concurrent.Program
import Cachersize.Concurrent.Runs

/-! Threads that interleave operation by operation over one shared state. Every
step appends the events it emits to a common log, tagged with its thread. -/
namespace Cachersize.Concurrent

variable {Op : Type} {Ret : Op → Type} {ε α σ τ κ E : Type}

/-- What all threads see: the shared state and the log of past events. -/
structure Global (σ E : Type) where
  shared : σ
  log : List (Nat × E)

namespace Global

/-- The events of one thread, in order. -/
def own (thread : Nat) (log : List (Nat × E)) : List E :=
  (log.filter (fun entry => entry.1 == thread)).map Prod.snd

@[simp] theorem own_nil (thread : Nat) : own thread ([] : List (Nat × E)) = [] := rfl

@[simp] theorem own_append (thread : Nat) (first second : List (Nat × E)) :
    own thread (first ++ second) = own thread first ++ own thread second := by
  simp [own]

theorem own_cons (thread : Nat) (entry : Nat × E) (rest : List (Nat × E)) :
    own thread (entry :: rest) =
      if entry.1 = thread then entry.2 :: own thread rest else own thread rest := by
  by_cases same : entry.1 = thread <;> simp [own, same]

@[simp] theorem own_tagged (thread : Nat) (events : List E) :
    own thread (events.map (Prod.mk thread)) = events := by
  induction events with
  | nil => rfl
  | cons event rest ih => simpa [own] using ih

@[simp] theorem own_singleton (thread : Nat) (event : E) : own thread [(thread, event)] = [event] := by
  simp [own]

theorem own_other {thread other : Nat} (different : other ≠ thread) (events : List E) :
    own thread (events.map (Prod.mk other)) = [] := by
  simp [own, List.filter_map, Function.comp_def, different]

theorem mem_own {thread : Nat} {event : E} {log : List (Nat × E)} :
    event ∈ own thread log ↔ (thread, event) ∈ log := by
  simp [own]

/-- What a thread has not just emitted was in the log before. -/
theorem mem_before {thread other : Nat} {event : E} {log : List (Nat × E)} {events : List E}
    (member : (other, event) ∈ log ++ events.map (Prod.mk thread)) (absent : event ∉ events) :
    (other, event) ∈ log := by
  rcases List.mem_append.mp member with old | new
  · exact old
  · obtain ⟨emitted, present, same⟩ := List.mem_map.mp new
    cases same
    exact absurd present absent

/-- The state after one thread changed the shared part and emitted events. -/
def extend (before : Global σ E) (thread : Nat) (shared : σ) (events : List E) : Global σ E :=
  ⟨shared, before.log ++ events.map (Prod.mk thread)⟩

@[simp] theorem extend_shared (before : Global σ E) (thread : Nat) (shared : σ) (events : List E) :
    (before.extend thread shared events).shared = shared := rfl

@[simp] theorem extend_log (before : Global σ E) (thread : Nat) (shared : σ) (events : List E) :
    (before.extend thread shared events).log = before.log ++ events.map (Prod.mk thread) := rfl

end Global

/-- A family of thread bodies with the meaning of their operations. `exec` answers
`none` while the operation is blocked. -/
structure System {Op : Type} (Ret : Op → Type) (ε α σ τ κ E : Type) where
  body : τ → Program Ret ε α
  arrival : τ → E
  exec : Nat → (op : Op) → Global σ E → Option (Ret op × σ × List E)
  external : κ → σ → σ

structure Thread {Op : Type} (Ret : Op → Type) (ε α τ : Type) where
  tag : τ
  program : Program Ret ε α

structure Pool {Op : Type} (Ret : Op → Type) (ε α σ τ E : Type) where
  global : Global σ E
  threads : Nat → Option (Thread Ret ε α τ)

inductive Action (τ κ : Type) where
  | spawn (thread : Nat) (tag : τ)
  | step (thread : Nat)
  | external (change : κ)
  deriving DecidableEq

namespace System

variable (sys : System Ret ε α σ τ κ E)

/-- One action of a run, `none` when it is not enabled. Thread names are never
reused. -/
def step (pool : Pool Ret ε α σ τ E) : Action τ κ → Option (Pool Ret ε α σ τ E)
  | .spawn thread tag =>
    match pool.threads thread with
    | some _ => none
    | none => some {
        global := pool.global.extend thread pool.global.shared [sys.arrival tag]
        threads := Function.update pool.threads thread (some ⟨tag, sys.body tag⟩) }
  | .step thread =>
    match pool.threads thread with
    | some ⟨tag, .perform op next⟩ =>
      match sys.exec thread op pool.global with
      | some (answer, shared, events) => some {
          global := pool.global.extend thread shared events
          threads := Function.update pool.threads thread (some ⟨tag, next answer⟩) }
      | none => none
    | _ => none
  | .external change => some {
      global := ⟨sys.external change pool.global.shared, pool.global.log⟩
      threads := pool.threads }

def run : List (Action τ κ) → Pool Ret ε α σ τ E → Option (Pool Ret ε α σ τ E)
  | [], pool => some pool
  | action :: rest, pool => (sys.step pool action).bind (run rest)

def initial (_ : System Ret ε α σ τ κ E) (shared : σ) : Pool Ret ε α σ τ E :=
  ⟨⟨shared, []⟩, fun _ => none⟩

variable {sys} {pool after : Pool Ret ε α σ τ E}

/-- Everything a single action can do. -/
theorem step_cases {action : Action τ κ} (stepped : sys.step pool action = some after) :
    (∃ thread tag, action = .spawn thread tag ∧ pool.threads thread = none ∧
      after = ⟨pool.global.extend thread pool.global.shared [sys.arrival tag],
        Function.update pool.threads thread (some ⟨tag, sys.body tag⟩)⟩) ∨
    (∃ thread tag op next answer shared events, action = .step thread ∧
      pool.threads thread = some ⟨tag, .perform op next⟩ ∧
      sys.exec thread op pool.global = some (answer, shared, events) ∧
      after = ⟨pool.global.extend thread shared events,
        Function.update pool.threads thread (some ⟨tag, next answer⟩)⟩) ∨
    (∃ change, action = .external change ∧
      after = ⟨⟨sys.external change pool.global.shared, pool.global.log⟩, pool.threads⟩) := by
  cases action with
  | spawn thread tag =>
    simp only [step] at stepped
    split at stepped
    · cases stepped
    · rename_i vacant
      exact .inl ⟨thread, tag, rfl, vacant, (Option.some.inj stepped).symm⟩
  | step thread =>
    simp only [step] at stepped
    split at stepped
    · rename_i tag op next running
      split at stepped
      · rename_i answer shared events answered
        exact .inr (.inl ⟨thread, tag, op, next, answer, shared, events, rfl, running, answered,
          (Option.some.inj stepped).symm⟩)
      · cases stepped
    · cases stepped
  | external change => exact .inr (.inr ⟨change, rfl, (Option.some.inj stepped).symm⟩)

theorem step_tag {action : Action τ κ} {thread : Nat} {tag : τ} {program : Program Ret ε α}
    (stepped : sys.step pool action = some after) (present : after.threads thread = some ⟨tag, program⟩) :
    action = .spawn thread tag ∨ ∃ earlier, pool.threads thread = some ⟨tag, earlier⟩ := by
  rcases step_cases stepped with ⟨actor, arriving, rfl, -, rfl⟩ |
    ⟨actor, running, op, next, answer, shared, events, -, busy, -, rfl⟩ | ⟨change, -, rfl⟩
  · by_cases same : thread = actor
    · subst same
      have arrived : (⟨arriving, sys.body arriving⟩ : Thread Ret ε α τ) = ⟨tag, program⟩ := by
        simpa using present
      cases arrived
      exact .inl rfl
    · exact .inr ⟨program, by simpa [same] using present⟩
  · by_cases same : thread = actor
    · subst same
      have moved : (⟨running, next answer⟩ : Thread Ret ε α τ) = ⟨tag, program⟩ := by simpa using present
      cases moved
      exact .inr ⟨_, busy⟩
    · exact .inr ⟨program, by simpa [same] using present⟩
  · exact .inr ⟨program, present⟩

theorem run_repeats : Repeats sys.step sys.run := ⟨fun _ => rfl, fun _ _ _ => rfl⟩

/-- A property kept by every action of a run holds at its end. -/
theorem run_induction {actions : List (Action τ κ)} (Holds : Pool Ret ε α σ τ E → Prop)
    (keeps : ∀ action ∈ actions, ∀ before after,
      Holds before → sys.step before action = some after → Holds after)
    (start : Holds pool) (ran : sys.run actions pool = some after) : Holds after :=
  run_repeats.induction Holds keeps start ran

theorem run_append (first second : List (Action τ κ)) :
    sys.run (first ++ second) pool = (sys.run first pool).bind (sys.run second) :=
  run_repeats.append first second pool

theorem run_log {actions : List (Action τ κ)} (ran : sys.run actions pool = some after) :
    ∃ entries, after.global.log = pool.global.log ++ entries := by
  refine run_induction (fun later => ∃ entries, later.global.log = pool.global.log ++ entries) ?_
    ⟨[], by simp⟩ ran
  intro action _ before later holds stepped
  obtain ⟨entries, grown⟩ := holds
  rcases step_cases stepped with ⟨actor, tag, -, -, rfl⟩ |
    ⟨actor, tag, op, next, answer, shared, events, -, -, -, rfl⟩ | ⟨change, -, rfl⟩
  · exact ⟨entries ++ [(actor, sys.arrival tag)], by simp [grown]⟩
  · exact ⟨entries ++ events.map (Prod.mk actor), by simp [grown]⟩
  · exact ⟨entries, grown⟩

/-- While one thread alone moves, all new events are its own. -/
theorem run_alone_log {thread : Nat} {actions : List (Action τ κ)}
    (alone : ∀ action ∈ actions, action = .step thread) (ran : sys.run actions pool = some after) :
    ∃ events : List E, after.global.log = pool.global.log ++ events.map (Prod.mk thread) := by
  refine run_induction (fun later => ∃ events : List E,
    later.global.log = pool.global.log ++ events.map (Prod.mk thread)) ?_ ⟨[], by simp⟩ ran
  intro action member before later holds stepped
  obtain ⟨earlier, grown⟩ := holds
  cases alone action member
  rcases step_cases stepped with ⟨_, _, same, -, -⟩ |
    ⟨actor, tag, op, next, answer, shared, events, same, -, -, rfl⟩ | ⟨_, same, -⟩
  · cases same
  · cases same
    exact ⟨earlier ++ events, by simp [grown]⟩
  · cases same

variable (sys) in
/-- What is left of a thread runs to its end before any other thread moves. -/
def solo (thread : Nat) : Program Ret ε α → Global σ E → Option (Except ε α × Global σ E)
  | .done result, state => some (.ok result, state)
  | .raise error, state => some (.error error, state)
  | .perform op next, state =>
    match sys.exec thread op state with
    | some (answer, shared, events) => solo thread (next answer) (state.extend thread shared events)
    | none => none

/-- The uninterrupted thread is one of the runs of the system. -/
theorem run_solo {thread : Nat} {tag : τ} {program : Program Ret ε α} {outcome : Except ε α}
    {state : Global σ E} (present : pool.threads thread = some ⟨tag, program⟩)
    (alone : sys.solo thread program pool.global = some (outcome, state)) :
    ∃ steps, sys.run (List.replicate steps (.step thread)) pool = some ⟨state,
      Function.update pool.threads thread (some ⟨tag, Program.ofExcept outcome⟩)⟩ := by
  induction program generalizing pool with
  | done | raise =>
    cases alone
    refine ⟨0, ?_⟩
    simp only [Program.ofExcept, ← present, Function.update_eq_self]
    rfl
  | perform op next ih =>
    simp only [solo] at alone
    split at alone
    · rename_i answer shared events answered
      let moved : Pool Ret ε α σ τ E := ⟨pool.global.extend thread shared events,
        Function.update pool.threads thread (some ⟨tag, next answer⟩)⟩
      have stepped : sys.step pool (.step thread) = some moved := by
        simp only [step, present, answered, moved]
      have waiting : moved.threads thread = some ⟨tag, next answer⟩ := by simp [moved]
      obtain ⟨steps, remaining⟩ := ih answer waiting alone
      refine ⟨steps + 1, ?_⟩
      rw [List.replicate_succ, run, stepped, Option.bind_some, remaining]
      simp [moved]
    · cases alone

end System

end Cachersize.Concurrent
