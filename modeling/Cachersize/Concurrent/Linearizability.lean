import Mathlib.Data.List.Nodup

/-! Linearizability of a history of invocations and responses against a sequential
object. A proof commits each operation at one point of the run; the rules below
say that the order of the commits is a linearization. -/
namespace Cachersize.Concurrent

variable {τ ρ A : Type}

inductive HistoryEvent (τ ρ : Type) where
  | invoke (thread : Nat) (request : τ)
  | respond (thread : Nat) (response : ρ)

structure Operation (τ ρ : Type) where
  thread : Nat
  request : τ
  response : ρ

/-- Running operations one at a time takes the object from the first state to the
last one. `apply` may depend on which thread's operation runs. -/
inductive Sequential (apply : Operation τ ρ → A → A → Prop) (first : A) :
    List (Operation τ ρ) → A → Prop where
  | nil : Sequential apply first [] first
  | snoc (earlier : Sequential apply first order middle) (applied : apply operation middle last) :
      Sequential apply first (order ++ [operation]) last

theorem Sequential.mono {apply larger : Operation τ ρ → A → A → Prop} {first last : A}
    {order : List (Operation τ ρ)} (sequential : Sequential apply first order last)
    (weaker : ∀ operation before after, apply operation before after →
      larger operation before after) : Sequential larger first order last := by
  induction sequential with
  | nil => exact .nil
  | snoc _ applied ih => exact .snoc ih (weaker _ _ _ applied)

/-- `order` holds every answered operation and some of the pending ones, with the
answers given in the history, in a sequence that is legal for the object and keeps
the order of operations that do not overlap. -/
structure Linearizes (apply : Operation τ ρ → A → A → Prop) (first last : A)
    (history : List (HistoryEvent τ ρ)) (order : List (Operation τ ρ)) : Prop where
  distinct : (order.map (·.thread)).Nodup
  received : ∀ operation ∈ order, .invoke operation.thread operation.request ∈ history
  answered : ∀ thread response, .respond thread response ∈ history →
    ∃ request, ⟨thread, request, response⟩ ∈ order
  legal : Sequential apply first order last
  realTime : ∀ earlier later response request,
    [.respond earlier response, .invoke later request].Sublist history →
    later ∈ order.map (·.thread) → [earlier, later].Sublist (order.map (·.thread))

/-- A pair in a list with one more element: both were there, or the second is new. -/
theorem pair_sublist_concat {a b c : τ} {list : List τ} :
    [a, b].Sublist (list ++ [c]) ↔ [a, b].Sublist list ∨ (a ∈ list ∧ b = c) := by
  constructor
  · intro pair
    obtain ⟨left, right, split, first, second⟩ := List.sublist_append_iff.mp pair
    rcases List.sublist_singleton.mp second with rfl | rfl
    · exact .inl (by simpa [split] using first)
    · have shape : left ++ [c] = [a] ++ [b] := split.symm
      obtain ⟨rfl, same⟩ := List.append_inj' shape rfl
      exact .inr ⟨by simpa using first, (List.singleton_inj.mp same).symm⟩
  · rintro (both | ⟨member, rfl⟩)
    · exact both.trans (List.sublist_append_left list [c])
    · exact (List.singleton_sublist.mpr member).append (List.Sublist.refl [b])

namespace Linearizes

variable {apply : Operation τ ρ → A → A → Prop} {first last : A}
variable {history : List (HistoryEvent τ ρ)} {order : List (Operation τ ρ)}

theorem nil : Linearizes apply first first [] ([] : List (Operation τ ρ)) where
  distinct := List.nodup_nil
  received := by simp
  answered := by simp
  legal := .nil
  realTime := by simp

theorem mono {larger : Operation τ ρ → A → A → Prop} (valid : Linearizes apply first last history order)
    (weaker : ∀ operation before after, apply operation before after →
      larger operation before after) : Linearizes larger first last history order :=
  { valid with legal := valid.legal.mono weaker }

theorem invoke {thread : Nat} {request : τ} (valid : Linearizes apply first last history order)
    (fresh : thread ∉ order.map (·.thread)) :
    Linearizes apply first last (history ++ [.invoke thread request]) order where
  distinct := valid.distinct
  received := fun operation member => List.mem_append_left _ (valid.received operation member)
  answered := by
    intro answerer response member
    exact valid.answered answerer response (by simpa using member)
  legal := valid.legal
  realTime := by
    intro earlier later response other pair member
    rcases pair_sublist_concat.mp pair with before | ⟨-, same⟩
    · exact valid.realTime earlier later response other before member
    · cases same
      exact absurd member fresh

/-- An operation takes effect: it comes after everything committed so far, hence
after everything already answered. -/
theorem commit {operation : Operation τ ρ} {after : A}
    (valid : Linearizes apply first last history order)
    (pending : operation.thread ∉ order.map (·.thread))
    (invoked : .invoke operation.thread operation.request ∈ history)
    (applied : apply operation last after) :
    Linearizes apply first after history (order ++ [operation]) where
  distinct := by
    rw [List.map_append, List.map_singleton, ← List.concat_eq_append]
    exact valid.distinct.concat pending
  received := by
    intro other member
    rcases List.mem_append.mp member with old | new
    · exact valid.received other old
    · rw [List.mem_singleton.mp new]
      exact invoked
  answered := by
    intro thread response member
    obtain ⟨request, present⟩ := valid.answered thread response member
    exact ⟨request, List.mem_append_left _ present⟩
  legal := .snoc valid.legal applied
  realTime := by
    intro earlier later response request pair member
    rw [List.map_append, List.map_singleton] at member ⊢
    rcases List.mem_append.mp member with old | new
    · exact (valid.realTime earlier later response request pair old).trans
        (List.sublist_append_left _ _)
    · have answered : .respond earlier response ∈ history := pair.subset (by simp)
      obtain ⟨own, present⟩ := valid.answered earlier response answered
      rw [List.mem_singleton.mp new]
      exact pair_sublist_concat.mpr (.inr ⟨List.mem_map.mpr ⟨_, present, rfl⟩, rfl⟩)

/-- A committed operation is answered with the response it committed to. -/
theorem respond {operation : Operation τ ρ} (valid : Linearizes apply first last history order)
    (committed : operation ∈ order) :
    Linearizes apply first last
      (history ++ [.respond operation.thread operation.response]) order where
  distinct := valid.distinct
  received := fun other member => List.mem_append_left _ (valid.received other member)
  answered := by
    intro thread response member
    rcases List.mem_append.mp member with old | new
    · exact valid.answered thread response old
    · cases List.mem_singleton.mp new
      exact ⟨operation.request, committed⟩
  legal := valid.legal
  realTime := by
    intro earlier later response request pair member
    rcases pair_sublist_concat.mp pair with before | ⟨-, same⟩
    · exact valid.realTime earlier later response request before member
    · cases same

end Linearizes

end Cachersize.Concurrent
