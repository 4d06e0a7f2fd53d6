import Cachersize.Concurrent.System

/-! Rely and guarantee for interleaved threads. A protocol fixes what every step
keeps (`inv`) and what the step of one agent may do (`guar`); each thread is then
checked alone, against assertions that no other agent can break. -/
namespace Cachersize.Concurrent

variable {Op : Type} {Ret : Op → Type} {ε α σ τ κ E G : Type}

/-- The agent is the stepping thread, or `none` for an external change. `G` is
ghost state that the proof updates along a run. -/
structure Protocol (σ E G : Type) where
  inv : Global σ E → G → Prop
  guar : Option Nat → Global σ E → G → Global σ E → G → Prop

namespace Protocol

variable (protocol : Protocol σ E G) (sys : System Ret ε α σ τ κ E)

def Stable (thread : Nat) (P : Global σ E → G → Prop) : Prop :=
  ∀ agent, agent ≠ some thread → ∀ s g s' g', protocol.inv s g →
    protocol.guar agent s g s' g' → P s g → P s' g'

/-- What a step from `(s, g)` to `s'` owes: an update of the ghost state within the
guarantee, and an assertion the thread can keep from there on. -/
def Owes (thread : Nat) (Rest : (Global σ E → G → Prop) → Prop)
    (s : Global σ E) (g : G) (s' : Global σ E) : Prop :=
  ∃ g', protocol.inv s' g' ∧ protocol.guar (some thread) s g s' g' ∧
    ∃ P, protocol.Stable thread P ∧ P s' g' ∧ Rest P

/-- From states with `P`, the program keeps the protocol on every path and ends
with `Post`. -/
def Safe (thread : Nat) (Post : Except ε α → Global σ E → G → Prop) :
    Program Ret ε α → (Global σ E → G → Prop) → Prop
  | .done result, P => ∀ s g, protocol.inv s g → P s g → Post (.ok result) s g
  | .raise error, P => ∀ s g, protocol.inv s g → P s g → Post (.error error) s g
  | .perform op next, P => ∀ s g answer shared events, protocol.inv s g → P s g →
      sys.exec thread op s = some (answer, shared, events) →
      protocol.Owes thread (fun Q => Safe thread Post (next answer) Q) s g
        (s.extend thread shared events)

end Protocol

/-- A protocol with a proof for every thread body. `fresh` is what holds of a thread
name before its arrival, and `allowed` restricts the external changes. -/
structure Outline (sys : System Ret ε α σ τ κ E) (G : Type) extends Protocol σ E G where
  fresh : Nat → Global σ E → G → Prop
  post : Nat → τ → Except ε α → Global σ E → G → Prop
  allowed : κ → Prop
  fresh_stable : ∀ thread, toProtocol.Stable thread (fresh thread)
  arrives : ∀ thread tag s g, inv s g → fresh thread s g →
    toProtocol.Owes thread (toProtocol.Safe sys thread (post thread tag) (sys.body tag)) s g
      (s.extend thread s.shared [sys.arrival tag])
  changes : ∀ change s g, allowed change → inv s g →
    ∃ g', inv ⟨sys.external change s.shared, s.log⟩ g' ∧
      guar none s g ⟨sys.external change s.shared, s.log⟩ g'

namespace Outline

variable {sys : System Ret ε α σ τ κ E} (outline : Outline sys G)

def Knows (thread : Nat) (pool : Pool Ret ε α σ τ E) (g : G) : Prop :=
  (pool.threads thread = none → outline.fresh thread pool.global g) ∧
  ∀ tag program, pool.threads thread = some ⟨tag, program⟩ →
    ∃ P, outline.Stable thread P ∧ P pool.global g ∧
      outline.Safe sys thread (outline.post thread tag) program P

def Holds (pool : Pool Ret ε α σ τ E) : Prop :=
  ∃ g, outline.inv pool.global g ∧ ∀ thread, outline.Knows thread pool g

variable {outline}

/-- A step of another agent leaves everything known of a thread intact. -/
theorem Knows.others {thread : Nat} {before after : Pool Ret ε α σ τ E} {g g' : G}
    {agent : Option Nat} (knows : outline.Knows thread before g) (different : agent ≠ some thread)
    (valid : outline.inv before.global g)
    (acted : outline.guar agent before.global g after.global g')
    (same : after.threads thread = before.threads thread) : outline.Knows thread after g' := by
  refine ⟨fun vacant => ?_, fun tag program present => ?_⟩
  · exact outline.fresh_stable thread agent different _ _ _ _ valid acted (knows.1 (same ▸ vacant))
  · obtain ⟨P, stable, holds, safe⟩ := knows.2 tag program (same ▸ present)
    exact ⟨P, stable, stable agent different _ _ _ _ valid acted holds, safe⟩

theorem Holds.own {thread : Nat} {tag : τ} {program : Program Ret ε α}
    {before : Pool Ret ε α σ τ E} {g : G} {s : Global σ E}
    (valid : outline.inv before.global g) (knows : ∀ other, outline.Knows other before g)
    (owed : outline.Owes thread
      (outline.Safe sys thread (outline.post thread tag) program) before.global g s) :
    outline.Holds ⟨s, Function.update before.threads thread (some ⟨tag, program⟩)⟩ := by
  obtain ⟨g', validAfter, acted, P, stable, holds, safe⟩ := owed
  refine ⟨g', validAfter, fun other => ?_⟩
  by_cases same : other = thread
  · subst other
    refine ⟨by simp, fun found rest present => ?_⟩
    have moved : (⟨tag, program⟩ : Thread Ret ε α τ) = ⟨found, rest⟩ := by simpa using present
    cases moved
    exact ⟨P, stable, holds, safe⟩
  · have different : some thread ≠ some other := by simpa using Ne.symm same
    exact (knows other).others different valid acted (by simp [Function.update_of_ne same])

theorem Holds.step {before after : Pool Ret ε α σ τ E} {action : Action τ κ}
    (permitted : ∀ change, action = .external change → outline.allowed change)
    (holds : outline.Holds before) (stepped : sys.step before action = some after) :
    outline.Holds after := by
  obtain ⟨g, valid, knows⟩ := holds
  rcases System.step_cases stepped with ⟨actor, tag, -, vacant, rfl⟩ |
    ⟨actor, tag, op, next, answer, shared, events, -, running, answered, rfl⟩ | ⟨change, rfl, rfl⟩
  · exact Holds.own valid knows (outline.arrives actor tag _ g valid ((knows actor).1 vacant))
  · obtain ⟨P, -, holds, safe⟩ := (knows actor).2 tag _ running
    exact Holds.own valid knows (safe _ g answer shared events valid holds answered)
  · obtain ⟨g', validAfter, acted⟩ := outline.changes change _ g (permitted change rfl) valid
    exact ⟨g', validAfter, fun thread => (knows thread).others (by simp) valid acted rfl⟩

/-- The outline holds after every run from a state it holds in. -/
theorem sound {shared : σ} {actions : List (Action τ κ)} {pool : Pool Ret ε α σ τ E} {g : G}
    (valid : outline.inv ⟨shared, []⟩ g) (fresh : ∀ thread, outline.fresh thread ⟨shared, []⟩ g)
    (permitted : ∀ change, .external change ∈ actions → outline.allowed change)
    (ran : sys.run actions (sys.initial shared) = some pool) : outline.Holds pool := by
  refine System.run_induction outline.Holds ?_ ?_ ran
  · intro action member before after holds stepped
    exact holds.step (fun change same => permitted change (same ▸ member)) stepped
  · exact ⟨g, valid, fun thread => ⟨fun _ => fresh thread, fun _ _ present => by cases present⟩⟩

end Outline

end Cachersize.Concurrent
