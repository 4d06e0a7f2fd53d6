import Mathlib.Data.Vector.Basic

/-! Values that take a fixed number of bytes. -/
namespace Cachersize.Wire

/-- A format with `width` bytes for the values of one type. What was encoded can be
decoded. -/
structure Word (width : Nat) (α : Type) where
  encode : α → List.Vector UInt8 width
  decode : List.Vector UInt8 width → α
  decode_encode : ∀ value, decode (encode value) = value

namespace Word

variable {width : Nat} {α γ : Type}

theorem encode_injective (word : Word width α) : Function.Injective word.encode := by
  intro first second same
  rw [← word.decode_encode first, same, word.decode_encode]

def comap (word : Word width α) (image : γ → α) (origin : α → γ)
    (inverse : ∀ value, origin (image value) = value) : Word width γ where
  encode value := word.encode (image value)
  decode bytes := origin (word.decode bytes)
  decode_encode value := by rw [word.decode_encode, inverse]

end Word

def toBytes : Nat → Nat → List UInt8
  | 0, _ => []
  | width + 1, number => UInt8.ofNat number :: toBytes width (number / 256)

def ofBytes : List UInt8 → Nat
  | [] => 0
  | byte :: rest => byte.toNat + 256 * ofBytes rest

private theorem length_toBytes (width number : Nat) : (toBytes width number).length = width := by
  induction width generalizing number with
  | zero => rfl
  | succ width ih => rw [toBytes, List.length_cons, ih]

private theorem ofBytes_toBytes (width number : Nat) :
    ofBytes (toBytes width number) = number % 256 ^ width := by
  induction width generalizing number with
  | zero => simp [toBytes, ofBytes, Nat.mod_one]
  | succ width ih =>
    rw [toBytes, ofBytes, ih, Nat.pow_succ', Nat.mod_mul]
    rfl

private theorem ofBytes_lt (bytes : List UInt8) : ofBytes bytes < 256 ^ bytes.length := by
  induction bytes with
  | nil => exact Nat.one_pos
  | cons byte rest ih =>
    have small : byte.toNat < 256 := byte.toNat_lt
    rw [ofBytes, List.length_cons, Nat.pow_succ]
    omega

/-- The numbers below `256 ^ width`, least significant byte first. -/
def Word.littleEndian (width : Nat) : Word width (Fin (256 ^ width)) where
  encode number := ⟨toBytes width number, length_toBytes width number⟩
  decode bytes := ⟨ofBytes bytes.toList, by
    have bound := ofBytes_lt bytes.toList
    rwa [List.Vector.toList_length] at bound⟩
  decode_encode number := by
    apply Fin.ext
    exact (ofBytes_toBytes width number).trans (Nat.mod_eq_of_lt number.isLt)

end Cachersize.Wire
