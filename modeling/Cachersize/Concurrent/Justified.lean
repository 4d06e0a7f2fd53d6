import Mathlib.Data.List.Induction

/-! Logs in which every event is justified by the events before it. -/
namespace Cachersize.Concurrent

variable {A : Type}

/-- `P` holds of each entry with the part of the log that precedes it. -/
def Justified (P : List A → A → Prop) (log : List A) : Prop :=
  ∀ before entry after, log = before ++ entry :: after → P before entry

namespace Justified

variable {P Q : List A → A → Prop} {log : List A}

theorem nil : Justified P [] := by
  intro before entry after split
  simp at split

theorem snoc {entry : A} (earlier : Justified P log) (last : P log entry) :
    Justified P (log ++ [entry]) := by
  intro before other after split
  rcases List.eq_nil_or_concat after with rfl | ⟨initial, final, rfl⟩
  · obtain ⟨rfl, same⟩ := List.append_inj' split rfl
    rw [← List.singleton_inj.mp same]
    exact last
  · rw [List.concat_eq_append, ← List.cons_append, ← List.append_assoc] at split
    obtain ⟨rfl, -⟩ := List.append_inj' split rfl
    exact earlier before other initial rfl

theorem concat {entries : List A} (earlier : Justified P log)
    (rest : ∀ before entry after, entries = before ++ entry :: after → P (log ++ before) entry) :
    Justified P (log ++ entries) := by
  induction entries generalizing log with
  | nil => simpa using earlier
  | cons entry entries ih =>
    have first : P log entry := by simpa using rest [] entry entries rfl
    have continued := ih (earlier.snoc first) fun before other after split => by
      simpa using rest (entry :: before) other after (by rw [split]; rfl)
    simpa using continued

theorem of_mem {entry : A} (justified : Justified P log) (member : entry ∈ log) :
    ∃ before after, log = before ++ entry :: after ∧ P before entry := by
  obtain ⟨before, after, split⟩ := List.append_of_mem member
  exact ⟨before, after, split, justified before entry after split⟩

theorem initial {before rest : List A} (justified : Justified P (before ++ rest)) :
    Justified P before := by
  intro earlier entry after split
  exact justified earlier entry (after ++ rest) (by simp [split])

theorem snoc_iff {entry : A} : Justified P (log ++ [entry]) ↔ Justified P log ∧ P log entry :=
  ⟨fun justified => ⟨justified.initial, justified log entry [] rfl⟩, fun both => both.1.snoc both.2⟩

/-- Entries that need no justification, and give none, can be left out. -/
theorem filter_iff {relevant : A → Bool} (exempt : ∀ before entry, relevant entry = false → P before entry)
    (blind : ∀ before entry, P before entry ↔ P (before.filter relevant) entry) :
    Justified P log ↔ Justified P (log.filter relevant) := by
  induction log using List.reverseRecOn with
  | nil => rfl
  | append_singleton log entry ih =>
    rw [snoc_iff, List.filter_append, ih]
    cases matters : relevant entry with
    | true =>
      rw [List.filter_cons_of_pos matters, List.filter_nil, snoc_iff, blind]
    | false =>
      rw [List.filter_cons_of_neg (by simp [matters]), List.filter_nil, List.append_nil]
      exact and_iff_left (exempt log entry matters)

theorem mono (justified : Justified P log) (weaker : ∀ before entry, P before entry → Q before entry) :
    Justified Q log :=
  fun before entry after split => weaker before entry (justified before entry after split)

end Justified

/-- Two entries of a log: the first comes earlier, or later, or they are the same. -/
theorem entries_trichotomy {log : List A} {first second : A}
    (firstMember : first ∈ log) (secondMember : second ∈ log) :
    first = second ∨
    (∃ before after, log = before ++ second :: after ∧ first ∈ before) ∨
    (∃ before after, log = before ++ first :: after ∧ second ∈ before) := by
  obtain ⟨before, after, split⟩ := List.append_of_mem firstMember
  rw [split] at secondMember
  rcases List.mem_append.mp secondMember with early | late
  · exact .inr (.inr ⟨before, after, split, early⟩)
  · rcases List.mem_cons.mp late with same | late
    · exact .inl same.symm
    · obtain ⟨middle, rest, splitLate⟩ := List.append_of_mem late
      exact .inr (.inl ⟨before ++ first :: middle, rest, by simp [split, splitLate], by simp⟩)

end Cachersize.Concurrent
