import Cachersize.Wire.Word

/-! Output and input archives. One appends bytes, the other takes them off the front of
what is left; a reader may find too few of them. -/
namespace Cachersize.Wire

abbrev Output := StateM (List UInt8)

abbrev Input := StateT (List UInt8) Option

variable {α γ : Type} {width : Nat}

/-- `archive.write(data, size)` -/
def write (data : List UInt8) : Output Unit := modify (· ++ data)

/-- `archive.read(data, size)` -/
def read (size : Nat) : Input (List.Vector UInt8 size) := fun bytes =>
  if enough : size ≤ bytes.length then
    some (⟨bytes.take size, List.length_take_of_le enough⟩, bytes.drop size)
  else none

def Word.write (word : Word width α) (value : α) : Output Unit := Wire.write (word.encode value).toList

def Word.read (word : Word width α) : Input α := do
  let data ← Wire.read width
  return word.decode data

/-- A string is written as its length and its bytes. -/
def writeString (length : Word width UInt64) (string : List UInt8) : Output Unit := do
  length.write (UInt64.ofNat string.length)
  write string

def readString (length : Word width UInt64) : Input (List UInt8) := do
  let size ← length.read
  let data ← read size.toNat
  return data.toList

/-- The writer appends these bytes, and returns. -/
def Writes (writer : Output α) (bytes : List UInt8) (result : α) : Prop :=
  ∀ before, writer.run before = (result, before ++ bytes)

/-- Whatever follows these bytes, the reader takes exactly them, and returns. -/
def Reads (reader : Input α) (bytes : List UInt8) (result : α) : Prop :=
  ∀ rest, reader.run (bytes ++ rest) = some (result, rest)

theorem writes_pure (result : α) : Writes (pure result) [] result := by
  intro before
  rw [List.append_nil]
  rfl

theorem writes_write (data : List UInt8) : Writes (write data) data () := fun _ => rfl

theorem Writes.bind {writer : Output α} {next : α → Output γ} {first second : List UInt8}
    {middle : α} {result : γ} (wrote : Writes writer first middle)
    (continued : Writes (next middle) second result) : Writes (writer >>= next) (first ++ second) result := by
  intro before
  have composed : (writer >>= next).run before = (next (writer.run before).1).run (writer.run before).2 :=
    rfl
  rw [composed, wrote before, ← List.append_assoc]
  exact continued (before ++ first)

theorem Writes.returning {writer : Output Unit} {bytes : List UInt8} (wrote : Writes writer bytes ())
    (result : α) : Writes (do writer; return result) bytes result := by
  have handed : Writes (do writer; return result) (bytes ++ []) result :=
    wrote.bind (writes_pure result)
  rwa [List.append_nil] at handed

theorem reads_pure (result : α) : Reads (pure result) [] result := fun _ => rfl

theorem Reads.bind {reader : Input α} {next : α → Input γ} {first second : List UInt8} {middle : α}
    {result : γ} (took : Reads reader first middle) (continued : Reads (next middle) second result) :
    Reads (reader >>= next) (first ++ second) result := by
  intro rest
  rw [StateT.run_bind, List.append_assoc, took (second ++ rest)]
  exact continued rest

theorem reads_read (data : List.Vector UInt8 width) : Reads (read width) data.toList data := by
  intro rest
  have size : data.toList.length = width := data.toList_length
  have enough : width ≤ (data.toList ++ rest).length := by
    rw [List.length_append]
    omega
  have front : (data.toList ++ rest).take width = data.toList := List.take_left' size
  have back : (data.toList ++ rest).drop width = rest := List.drop_left' size
  simp only [read, StateT.run, enough, ↓reduceDIte, front, back]
  rfl

theorem Word.writes (word : Word width α) (value : α) :
    Writes (word.write value) (word.encode value).toList () := writes_write _

theorem Word.reads (word : Word width α) (value : α) : Reads word.read (word.encode value).toList value := by
  have taken := reads_read (word.encode value)
  have decoded : Reads (pure (word.decode (word.encode value)) : Input α) [] value := by
    rw [word.decode_encode]
    exact reads_pure value
  have both : Reads word.read ((word.encode value).toList ++ []) value := taken.bind decoded
  rwa [List.append_nil] at both

def stringBytes (length : Word width UInt64) (string : List UInt8) : List UInt8 :=
  (length.encode (UInt64.ofNat string.length)).toList ++ string

theorem writes_string (length : Word width UInt64) (string : List UInt8) :
    Writes (writeString length string) (stringBytes length string) () :=
  (length.writes _).bind (writes_write string)

/-- A string that its length field can count is read back. -/
theorem reads_string (length : Word width UInt64) {string : List UInt8} (fits : string.length < 2 ^ 64) :
    Reads (readString length) (stringBytes length string) string := by
  have size : (UInt64.ofNat string.length).toNat = string.length := UInt64.toNat_ofNat_of_lt' fits
  have taken := reads_read (⟨string, rfl⟩ : List.Vector UInt8 string.length)
  have data : Reads (do let data ← read string.length; return data.toList) (string ++ []) string :=
    taken.bind (reads_pure string)
  rw [List.append_nil] at data
  refine (length.reads _).bind ?_
  rw [size]
  exact data

/-- What the writer appends leads the reader to the same result. -/
def RoundTrips (writer : Output α) (reader : Input α) (result : α) : Prop :=
  ∃ bytes, Writes writer bytes result ∧ Reads reader bytes result

theorem RoundTrips.pure (result : α) : RoundTrips (Pure.pure result) (Pure.pure result) result :=
  ⟨[], writes_pure result, reads_pure result⟩

theorem RoundTrips.bind {writer : Output α} {reader : Input α} {nextWriter : α → Output γ}
    {nextReader : α → Input γ} {middle : α} {result : γ} (first : RoundTrips writer reader middle)
    (second : RoundTrips (nextWriter middle) (nextReader middle) result) :
    RoundTrips (writer >>= nextWriter) (reader >>= nextReader) result := by
  obtain ⟨head, wrote, took⟩ := first
  obtain ⟨tail, continued, taken⟩ := second
  exact ⟨head ++ tail, wrote.bind continued, took.bind taken⟩

/-- A writer of plain bytes that hands its argument on. -/
theorem RoundTrips.of_bytes {writer : Output Unit} {reader : Input α} {bytes : List UInt8} {result : α}
    (wrote : Writes writer bytes ()) (took : Reads reader bytes result) :
    RoundTrips (do writer; return result) reader result :=
  ⟨bytes, wrote.returning result, took⟩

/-- The bytes are those that the writer leaves in an empty archive. -/
theorem RoundTrips.reads {writer : Output α} {reader : Input α} {result : α}
    (roundTrips : RoundTrips writer reader result) : Reads reader (writer.run []).2 result := by
  obtain ⟨bytes, wrote, took⟩ := roundTrips
  rw [wrote [], List.nil_append]
  exact took

/-- What the writer appends leads the reader to this result, whatever the writer returns. -/
def Carries (writer : Output γ) (reader : Input α) (result : α) : Prop :=
  ∃ bytes sent, Writes writer bytes sent ∧ Reads reader bytes result

theorem Carries.pure (sent : γ) (result : α) :
    Carries (Pure.pure sent : Output γ) (Pure.pure result) result :=
  ⟨[], sent, writes_pure sent, reads_pure result⟩

theorem RoundTrips.carries {ι : Type} {writer : Output α} {reader : Input α} {nextWriter : α → Output γ}
    {nextReader : α → Input ι} {middle : α} {result : ι} (first : RoundTrips writer reader middle)
    (second : Carries (nextWriter middle) (nextReader middle) result) :
    Carries (writer >>= nextWriter) (reader >>= nextReader) result := by
  obtain ⟨head, wrote, took⟩ := first
  obtain ⟨tail, sent, continued, taken⟩ := second
  exact ⟨head ++ tail, sent, wrote.bind continued, took.bind taken⟩

/-- The bytes are those that the writer leaves in an empty archive. -/
theorem Carries.reads {writer : Output γ} {reader : Input α} {result : α}
    (carries : Carries writer reader result) : Reads reader (writer.run []).2 result := by
  obtain ⟨bytes, sent, wrote, took⟩ := carries
  rw [wrote [], List.nil_append]
  exact took

/-- No encoding is a proper prefix of another one. -/
theorem Reads.prefix_free {reader : Input α} {first second : List UInt8} {one two : α}
    (took : Reads reader first one) (other : Reads reader second two) (shorter : first <+: second) :
    first = second ∧ one = two := by
  obtain ⟨rest, split⟩ := shorter
  have left := took rest
  have right := other []
  rw [split] at left
  rw [List.append_nil, left] at right
  cases right
  exact ⟨by rw [← split, List.append_nil], rfl⟩

end Cachersize.Wire
