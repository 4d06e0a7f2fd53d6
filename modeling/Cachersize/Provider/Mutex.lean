import Cachersize.Provider.Paths

/-! What requests owe each other because of `m_backends_mtx`. -/
namespace Cachersize.ProviderImpl

open Concurrent

variable {J β : Type}

/-- A step of one agent, as the other requests may notice it. -/
structure Interferes (agent : Option Nat) (s s' : State J β) : Prop where
  log : ∃ entries, s'.log = s.log ++ entries ∧ ∀ entry ∈ entries, agent = some entry.1
  mutex : ∀ thread, agent ≠ some thread →
    (s'.shared.m_backends_mtx = some thread ↔ s.shared.m_backends_mtx = some thread)
  registry : ∀ thread, agent ≠ some thread → s.shared.m_backends_mtx = some thread →
    s'.shared.m_backends = s.shared.m_backends

/-- What the holder of the mutex knows of the registry, and what the others know of
the mutex. -/
def Held (thread : Nat) (provider : ProviderImpl β) : Option (Registry β) → Prop
  | none => provider.m_backends_mtx ≠ some thread
  | some registry => provider.m_backends_mtx = some thread ∧ provider.m_backends = registry

/-- The operations that leave the registry, the mutex and the token as they are. -/
def Reads : Op J β → Prop
  | .m_token | .factory .. | .find _ | .count _ | .index _ | .start _ | .finish _ | .respond _ => True
  | .lock | .unlock | .assign .. | .erase _ => False

variable {runtime : Runtime J β} {thread : Nat} {agent : Option Nat} {s s' : State J β}
variable {lock : Option (Registry β)}

theorem exec_reads {op : Op J β} (reads : Reads op) {answer : op.Answer} {shared : ProviderImpl β}
    {events : List (Event J β)}
    (answered : exec runtime thread op s = some (answer, shared, events)) :
    shared.m_backends = s.shared.m_backends ∧ shared.m_backends_mtx = s.shared.m_backends_mtx := by
  cases op with
  | lock | unlock | assign | erase => exact reads.elim
  | index cache_id =>
    obtain ⟨-, -, rfl⟩ := exec_index answered
    exact ⟨rfl, rfl⟩
  | _ =>
    cases answered
    exact ⟨rfl, rfl⟩

theorem exec_token {op : Op J β} {answer : op.Answer} {shared : ProviderImpl β}
    {events : List (Event J β)}
    (answered : exec runtime thread op s = some (answer, shared, events)) :
    shared.m_token = s.shared.m_token := by
  cases op with
  | lock =>
    obtain ⟨-, -, rfl⟩ := exec_lock answered
    rfl
  | index =>
    obtain ⟨-, -, rfl⟩ := exec_index answered
    rfl
  | _ =>
    cases answered
    rfl

namespace Interferes

theorem subset (acted : Interferes agent s s') : s.log ⊆ s'.log := by
  obtain ⟨entries, split, -⟩ := acted.log
  rw [split]
  exact List.subset_append_left _ _

theorem own (acted : Interferes agent s s') (different : agent ≠ some thread) :
    Global.own thread s'.log = Global.own thread s.log := by
  obtain ⟨entries, split, tagged⟩ := acted.log
  have silent : Global.own thread entries = [] := by
    rw [Global.own, List.map_eq_nil_iff, List.filter_eq_nil_iff]
    intro entry member same
    exact different ((tagged entry member).trans (congrArg some (beq_iff_eq.mp same)))
  rw [split, Global.own_append, silent, List.append_nil]

/-- A step of a thread that keeps the mutex and the registry, or holds the mutex. -/
theorem extend {shared : ProviderImpl β} {events : List (Event J β)}
    (mutex : ∀ other, other ≠ thread →
      (shared.m_backends_mtx = some other ↔ s.shared.m_backends_mtx = some other))
    (registry : shared.m_backends = s.shared.m_backends ∨ s.shared.m_backends_mtx = some thread) :
    Interferes (some thread) s (s.extend thread shared events) where
  log := ⟨_, rfl, by simp⟩
  mutex := fun other different => mutex other fun same => different (congrArg some same.symm)
  registry := by
    intro other different holds
    rcases registry with same | locked
    · exact same
    · exact absurd (locked.symm.trans holds) different

theorem external (m_token : StdString) :
    Interferes none s ⟨{ s.shared with m_token }, s.log⟩ where
  log := ⟨[], by simp, by simp⟩
  mutex := fun _ _ => Iff.rfl
  registry := fun _ _ _ => rfl

end Interferes

namespace Held

theorem taken {provider : ProviderImpl β} (holds : provider.m_backends_mtx = some thread) :
    Held thread provider (some provider.m_backends) := ⟨holds, rfl⟩

theorem freed {provider : ProviderImpl β} (free : provider.m_backends_mtx = none) :
    Held thread provider none := by
  simp [Held, free]

theorem read {provider after : ProviderImpl β} (held : Held thread provider lock)
    (registry : after.m_backends = provider.m_backends)
    (mutex : after.m_backends_mtx = provider.m_backends_mtx) : Held thread after lock := by
  cases lock with
  | none => exact fun holds => held (mutex ▸ holds)
  | some known => exact ⟨mutex.trans held.1, registry.trans held.2⟩

theorem stable (held : Held thread s.shared lock) (different : agent ≠ some thread)
    (acted : Interferes agent s s') : Held thread s'.shared lock := by
  cases lock with
  | none => exact fun holds => held ((acted.mutex thread different).mp holds)
  | some registry =>
    obtain ⟨holds, same⟩ := held
    exact ⟨(acted.mutex thread different).mpr holds, (acted.registry thread different holds).trans same⟩

end Held

end Cachersize.ProviderImpl
