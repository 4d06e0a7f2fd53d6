import Mathlib.Data.Finmap

/-! Shared ownership. Each owner holds at most one object; an object is alive as long
as it has an owner. -/
namespace Cachersize.Memory

/-- The non-empty shared pointers of a program, by the names of their owners. -/
abbrev SharedPtrs (Owner Object : Type) := Finmap fun _ : Owner => Object

namespace SharedPtrs

variable {Owner Object : Type} [DecidableEq Owner] (pointers : SharedPtrs Owner Object)

/-- Make an owner's pointer point to an object, or to none. -/
def assign (owner : Owner) : Option Object → SharedPtrs Owner Object
  | some object => pointers.insert owner object
  | none => pointers.erase owner

variable {pointers} {owner other : Owner} {object : Object} {target : Option Object}

@[simp] theorem lookup_assign : (pointers.assign owner target).lookup owner = target := by
  cases target <;> simp [assign]

theorem lookup_assign_of_ne (different : other ≠ owner) :
    (pointers.assign owner target).lookup other = pointers.lookup other := by
  cases target with
  | none => exact Finmap.lookup_erase_ne different
  | some object => exact Finmap.lookup_insert_of_ne _ different

variable [DecidableEq Object]

variable (pointers) in
def owners (object : Object) : Finset Owner :=
  pointers.keys.filter fun owner => pointers.lookup owner = some object

variable (pointers) in
def use_count (object : Object) : Nat := (pointers.owners object).card

@[simp] theorem mem_owners : owner ∈ pointers.owners object ↔ pointers.lookup owner = some object := by
  rw [owners, Finset.mem_filter, Finmap.mem_keys]
  refine ⟨And.right, fun found => ⟨?_, found⟩⟩
  exact Finmap.mem_of_lookup_eq_some found

theorem use_count_eq_zero :
    pointers.use_count object = 0 ↔ ∀ owner, pointers.lookup owner ≠ some object := by
  rw [use_count, Finset.card_eq_zero, Finset.eq_empty_iff_forall_notMem]
  exact forall_congr' fun owner => not_congr mem_owners

theorem eq_of_unique (unique : pointers.use_count object = 1)
    (first : pointers.lookup owner = some object) (second : pointers.lookup other = some object) :
    owner = other := by
  obtain ⟨single, same⟩ := Finset.card_eq_one.mp unique
  have left : owner ∈ pointers.owners object := mem_owners.mpr first
  have right : other ∈ pointers.owners object := mem_owners.mpr second
  rw [same, Finset.mem_singleton] at left right
  exact left.trans right.symm

theorem unique_of_only (found : pointers.lookup owner = some object)
    (only : ∀ other, pointers.lookup other = some object → other = owner) :
    pointers.use_count object = 1 := by
  rw [use_count, Finset.card_eq_one]
  refine ⟨owner, ?_⟩
  ext other
  rw [mem_owners, Finset.mem_singleton]
  constructor
  · exact only other
  · rintro rfl
    exact found

theorem not_unique (different : owner ≠ other) (first : pointers.lookup owner = some object)
    (second : pointers.lookup other = some object) : pointers.use_count object ≠ 1 :=
  fun unique => different (eq_of_unique unique first second)

theorem owners_assign (object : Object) :
    (pointers.assign owner target).owners object =
      if target = some object then insert owner (pointers.owners object)
      else (pointers.owners object).erase owner := by
  ext other
  by_cases same : other = owner
  · subst same
    by_cases hit : target = some object <;> simp [hit]
  · by_cases hit : target = some object <;> simp [hit, same, lookup_assign_of_ne same]

end SharedPtrs

end Cachersize.Memory
