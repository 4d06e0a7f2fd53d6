import Mathlib.Data.Vector.Basic

/-! Values that travel in RPCs: byte strings, UUIDs and request results. -/
namespace Cachersize

/-- A `std::string`: any sequence of bytes, NUL and non-UTF-8 included. -/
abbrev StdString := List UInt8

/-- A string literal of the source, all of which are ASCII: one byte a character. -/
def lit (text : String) : StdString := text.toList.map fun character => UInt8.ofNat character.toNat

structure UUID where
  m_data : List.Vector UInt8 16
  deriving DecidableEq

/-- `UUID::UUID()`: `uuid_clear` zeroes all sixteen bytes. -/
def UUID.clear : UUID := ⟨List.Vector.replicate 16 0⟩

/-- The generic `RequestResult<T>`. `m_value` has no initialiser in the class, so a
default-constructed object takes it from the constructor of `T`, or from memory. -/
structure RequestResult (α : Type) where
  m_success : Bool := true
  m_error : StdString := []
  m_value : α
  deriving DecidableEq

/-- `RequestResult<bool>`: `value()` and `success()` are the same variable. -/
structure RequestResultBool where
  m_success : Bool := true
  m_error : StdString := []
  deriving DecidableEq

def RequestResultBool.value (result : RequestResultBool) : Bool := result.m_success

/-- The argument of `req.respond` in any of the handlers. -/
inductive Response where
  | uuid (result : RequestResult UUID)
  | bool (result : RequestResultBool)
  | int32 (result : RequestResult Int32)
  deriving DecidableEq

namespace Response

def success : Response → Bool
  | uuid result => result.m_success
  | bool result => result.m_success
  | int32 result => result.m_success

def error : Response → StdString
  | uuid result => result.m_error
  | bool result => result.m_error
  | int32 result => result.m_error

end Response

end Cachersize
