import Cachersize.RequestResult
import Cachersize.Wire.Archive

/-! How RPC results travel: the `serialize` functions of `RequestResult`, and `UUID` with
its own pair of functions. -/
namespace Cachersize

open Wire

/-- `RequestResult<std::string>`: `value()` and `error()` are the same variable. -/
structure RequestResultString where
  m_success : Bool := true
  m_content : StdString := []
  deriving DecidableEq

/-- The archives of Thallium as a `serialize` function sees them: `archive & field` writes
the field or reads it, and this is what the field holds afterwards. -/
structure Archive (m : Type → Type) where
  bool : Bool → m Bool
  string : StdString → m StdString
  int32 : Int32 → m Int32
  uuid : UUID → m UUID

/-- The formats of the fixed-width fields. -/
structure ArchiveFormat where
  bool : Word 1 Bool
  length : Word 8 UInt64
  int32 : Word 4 Int32

namespace UUID

/-- `a.write(m_data, sizeof(uuid_t))` -/
def save (uuid : UUID) : Output Unit := write uuid.m_data.toList

/-- `a.read(m_data, sizeof(uuid_t))` -/
def load : Input UUID := do
  let m_data ← read 16
  return ⟨m_data⟩

end UUID

namespace Archive

variable (format : ArchiveFormat)

def output : Archive Output where
  bool field := do
    format.bool.write field
    return field
  string field := do
    writeString format.length field
    return field
  int32 field := do
    format.int32.write field
    return field
  uuid field := do
    field.save
    return field

/-- What the field held before is overwritten. -/
def input : Archive Input where
  bool _ := format.bool.read
  string _ := readString format.length
  int32 _ := format.int32.read
  uuid _ := UUID.load

end Archive

/-- The generic template. `field` is the archive's operator for `T`. -/
def RequestResult.serialize {m : Type → Type} [Monad m] {α : Type} (a : Archive m) (field : α → m α)
    (result : RequestResult α) : m (RequestResult α) := do
  let m_success ← a.bool result.m_success
  let m_error ← a.string result.m_error
  let m_value ← field result.m_value
  return { m_success, m_error, m_value }

def RequestResultString.serialize {m : Type → Type} [Monad m] (a : Archive m)
    (result : RequestResultString) : m RequestResultString := do
  let m_success ← a.bool result.m_success
  let m_content ← a.string result.m_content
  return { m_success, m_content }

def RequestResultBool.serialize {m : Type → Type} [Monad m] (a : Archive m)
    (result : RequestResultBool) : m RequestResultBool := do
  let m_success ← a.bool result.m_success
  let m_error ← a.string result.m_error
  return { m_success, m_error }

/-- The types `T` of the results in the RPCs of the repository, and `std::string`. -/
inductive ValueType where
  | uuid
  | int32
  | bool
  | string
  deriving DecidableEq

namespace ValueType

abbrev Value : ValueType → Type
  | uuid => UUID
  | int32 => Int32
  | bool => Bool
  | string => StdString

/-- `RequestResult<T>`, the generic class or one of its two specialisations. -/
abbrev Result : ValueType → Type
  | uuid => RequestResult UUID
  | int32 => RequestResult Int32
  | bool => RequestResultBool
  | string => RequestResultString

def success : (type : ValueType) → type.Result → Bool
  | uuid, result => result.m_success
  | int32, result => result.m_success
  | bool, result => result.m_success
  | string, result => result.m_success

def error : (type : ValueType) → type.Result → StdString
  | uuid, result => result.m_error
  | int32, result => result.m_error
  | bool, result => result.m_error
  | string, result => result.m_content

def value : (type : ValueType) → type.Result → type.Value
  | uuid, result => result.m_value
  | int32, result => result.m_value
  | bool, result => result.m_success
  | string, result => result.m_content

def serialize {m : Type → Type} [Monad m] (a : Archive m) :
    (type : ValueType) → type.Result → m type.Result
  | uuid, result => result.serialize a a.uuid
  | int32, result => result.serialize a a.int32
  | bool, result => RequestResultBool.serialize a result
  | string, result => RequestResultString.serialize a result

/-- The bytes that the output archive has after `serialize`. -/
def encode (format : ArchiveFormat) (type : ValueType) (result : type.Result) : List UInt8 :=
  ((type.serialize (.output format) result).run []).2

/-- An object is read over whatever it was before, from the front of some bytes. -/
def decode (format : ArchiveFormat) (type : ValueType) (start : type.Result) (bytes : List UInt8) :
    Option (type.Result × List UInt8) :=
  (type.serialize (.input format) start).run bytes

end ValueType

section RoundTrips

variable (format : ArchiveFormat)

theorem UUID.roundTrips (uuid : UUID) :
    RoundTrips ((Archive.output format).uuid uuid) UUID.load uuid := by
  have loaded : Reads UUID.load (uuid.m_data.toList ++ []) uuid :=
    (reads_read uuid.m_data).bind (reads_pure uuid)
  rw [List.append_nil] at loaded
  exact .of_bytes (writes_write uuid.m_data.toList) loaded

private theorem Archive.bool_roundTrips (field start : Bool) :
    RoundTrips ((output format).bool field) ((input format).bool start) field :=
  .of_bytes (format.bool.writes field) (format.bool.reads field)

theorem Archive.int32_roundTrips (field start : Int32) :
    RoundTrips ((output format).int32 field) ((input format).int32 start) field :=
  .of_bytes (format.int32.writes field) (format.int32.reads field)

theorem Archive.string_roundTrips {field : StdString} (fits : field.length < 2 ^ 64)
    (start : StdString) :
    RoundTrips ((output format).string field) ((input format).string start) field :=
  .of_bytes (writes_string format.length field) (reads_string format.length fits)

/-- The bytes of the template: the success flag, the error and the value. -/
theorem RequestResult.writes {α : Type} (writer : α → Output α) (result : RequestResult α)
    {bytes : List UInt8} (field : Writes (writer result.m_value) bytes result.m_value) :
    Writes (result.serialize (.output format) writer)
      ((format.bool.encode result.m_success).toList ++ (stringBytes format.length result.m_error ++ bytes))
      result := by
  have success := (format.bool.writes result.m_success).returning result.m_success
  have error := (writes_string format.length result.m_error).returning result.m_error
  have value : Writes (do let m_value ← writer result.m_value; return { result with m_value })
      (bytes ++ []) result := field.bind (writes_pure result)
  rw [List.append_nil] at value
  exact success.bind (error.bind value)

/-- The template, for any `T` whose own operator round-trips. -/
theorem RequestResult.roundTrips {α : Type} {writer : α → Output α} {reader : α → Input α}
    (field : ∀ value start, RoundTrips (writer value) (reader start) value) {result : RequestResult α}
    (fits : result.m_error.length < 2 ^ 64) (start : RequestResult α) :
    RoundTrips (result.serialize (.output format) writer) (start.serialize (.input format) reader)
      result := by
  have success := Archive.bool_roundTrips format result.m_success start.m_success
  have error := Archive.string_roundTrips format fits start.m_error
  exact success.bind (error.bind ((field result.m_value start.m_value).bind (.pure result)))

namespace ValueType

/-- A `RequestResult<T>` that is written is read back, whatever the object held before. -/
theorem roundTrips (type : ValueType) {result : type.Result} (fits : (type.error result).length < 2 ^ 64)
    (start : type.Result) :
    RoundTrips (type.serialize (.output format) result) (type.serialize (.input format) start) result := by
  cases type with
  | uuid => exact RequestResult.roundTrips format (fun value _ => value.roundTrips format) fits start
  | int32 => exact RequestResult.roundTrips format (Archive.int32_roundTrips format) fits start
  | bool | string =>
    have success := Archive.bool_roundTrips format result.m_success start.m_success
    have content := Archive.string_roundTrips format fits (ValueType.error _ start)
    exact success.bind (content.bind (.pure result))

theorem decode_encode (type : ValueType) {result : type.Result}
    (fits : (type.error result).length < 2 ^ 64) (start : type.Result) (rest : List UInt8) :
    type.decode format start (type.encode format result ++ rest) = some (result, rest) :=
  (type.roundTrips format fits start).reads rest

/-- The format of `RequestResult<T>` round-trips with its aliased fields, leaves what
follows, and has no encoding that is a proper prefix of another one. -/
theorem self_delimiting (type : ValueType) (result : type.Result)
    (fits : (type.error result).length < 2 ^ 64) :
    (∀ start rest, ∃ received, type.decode format start (type.encode format result ++ rest) =
        some (received, rest) ∧ type.success received = type.success result ∧
      type.error received = type.error result ∧ type.value received = type.value result) ∧
    ∀ other : type.Result, (type.error other).length < 2 ^ 64 →
      type.encode format result <+: type.encode format other →
        type.encode format result = type.encode format other := by
  constructor
  · intro start rest
    exact ⟨result, type.decode_encode format fits start rest, rfl, rfl, rfl⟩
  · intro other fitsOther shorter
    have first := (type.roundTrips format fits result).reads
    have second := (type.roundTrips format fitsOther result).reads
    exact (first.prefix_free second shorter).1

end ValueType

end RoundTrips

/-- The formats of a little-endian machine. -/
def ArchiveFormat.littleEndian : ArchiveFormat where
  bool := (Word.littleEndian 1).comap (fun field => if field then 1 else 0) (fun number => number != 0)
    (by decide)
  length := (Word.littleEndian 8).comap (fun field => ⟨field.toNat, field.toNat_lt⟩)
    (fun number => UInt64.ofNat number.val) (fun field => UInt64.ofNat_toNat)
  int32 := (Word.littleEndian 4).comap (fun field => ⟨field.toUInt32.toNat, field.toUInt32.toNat_lt⟩)
    (fun number => (UInt32.ofNat number.val).toInt32) (fun field => by simp)

/-- The response to a failed `createCache`, whose error string has a NUL byte. -/
def unknownType : RequestResult UUID :=
  { m_success := false, m_error := lit "Unknown cache type " ++ [0], m_value := UUID.clear }

theorem unknownType_travels : ∃ received : RequestResult UUID,
    ValueType.uuid.decode .littleEndian { m_value := UUID.clear }
      (ValueType.uuid.encode .littleEndian unknownType ++ [1, 2]) = some (received, [1, 2]) ∧
    received.m_success = false ∧ received.m_error = unknownType.m_error := by
  have fits : (ValueType.uuid.error unknownType).length < 2 ^ 64 := by decide
  obtain ⟨received, read, success, error, -⟩ :=
    (ValueType.self_delimiting .littleEndian .uuid unknownType fits).1 { m_value := UUID.clear } [1, 2]
  exact ⟨received, read, success, error⟩

end Cachersize
