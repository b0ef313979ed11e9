import FinProto.ByteBuf

/-! The string and list codecs: `namespace codec`. A `std::string` is its bytes. -/
namespace FinProto

open Wire

abbrev Bytes := List UInt8

/-! ## Dynamic strings -/

/-- `std::vector<uint8_t> bytes(length)` or `reserve(count)` from a prefix. The allocation is taken
to succeed; how a decode ends where it does not is told by `Decoder.ending`. -/
def sizeFrom (count : Nat) : Decoder Unit :=
  .note (fun buf => .sized count buf.readableBytes) (fun _ => trivial)

section
variable (T : Type) [Scalar T]

def writeString (s : Bytes) : Encoder :=
  .seq [write (Scalar.cast T s.length) false, writeBytes s]

def readString : Decoder Bytes := do
  let length ← read T false
  sizeFrom (Scalar.toSize length)
  readBytes (Scalar.toSize length)

def writeStringLe (s : Bytes) : Encoder :=
  .seq [writeLe (Scalar.cast T s.length), writeBytes s]

def readStringLe : Decoder Bytes := do
  let length ← readLe T
  sizeFrom (Scalar.toSize length)
  readBytes (Scalar.toSize length)

end

/-! ## Fixed-width strings -/

/-- `std::string::find_first_not_of`. -/
def findFirstNotOf (s : Bytes) (c : UInt8) : Option Nat := s.findIdx? (· != c)

/-- `std::string::find_last_not_of`. -/
def findLastNotOf (s : Bytes) (c : UInt8) : Option Nat :=
  (s.reverse.findIdx? (· != c)).map (fun i => s.length - 1 - i)

def writeFixedStringPad (s : Bytes) (fixedLen : Nat) (padChar : UInt8) (padLeft : Bool) : Encoder :=
  if s.length ≥ fixedLen then writeBytes (s.take fixedLen)
  else
    let padCharBytes := List.replicate (fixedLen - s.length) padChar
    .seq [
      if padLeft then writeBytes padCharBytes else .skip,
      writeBytes s,
      if !padLeft then writeBytes padCharBytes else .skip]

/-- What is left of a window once the padding is erased from its side. -/
def trimPad (s : Bytes) (trimPadChar : UInt8) (padLeft : Bool) : Bytes :=
  if padLeft then
    match findFirstNotOf s trimPadChar with
    | some start => s.drop start
    | none => []
  else
    match findLastNotOf s trimPadChar with
    | some last => s.take (last + 1)
    | none => []

def readFixedStringPad (fixedLen : Nat) (trimPadChar : UInt8) (padLeft : Bool) : Decoder Bytes := do
  let s ← readBytes fixedLen
  return trimPad s trimPadChar padLeft

def space : UInt8 := 0x20

def zeroChar : UInt8 := 0x30

def writeFixedString (s : Bytes) (fixedLen : Nat) : Encoder :=
  writeFixedStringPad s fixedLen space false

def readFixedString (fixedLen : Nat) : Decoder Bytes :=
  readFixedStringPad fixedLen space false

/-! ## Counted lists -/

/-- Write a count, then the elements one after the other. -/
def writeCounted (count : Encoder) (element : α → Encoder) (list : List α) : Encoder :=
  count.andThen (.seq (list.map element))

/-- Read a count, reserve that much, then read that many elements. -/
def readCounted [Scalar T] (count : Decoder T) (element : Decoder α) : Decoder (List α) := do
  let n ← count
  sizeFrom (Scalar.toSize n)
  element.times (Scalar.toSize n)

section
variable (T : Type) [Scalar T] (K : Type) [Scalar K]

def writeStringListLe (list : List Bytes) : Encoder :=
  writeCounted (writeLe (Scalar.cast T list.length)) (writeStringLe K) list

def readStringListLe : Decoder (List Bytes) := readCounted (readLe T) (readStringLe K)

def writeStringList (list : List Bytes) : Encoder :=
  writeCounted (write (Scalar.cast T list.length) false) (writeString K) list

def readStringList : Decoder (List Bytes) := readCounted (read T false) (readString K)

def writeFixedStringListLePad (list : List Bytes) (fixedLen : Nat) (padChar : UInt8)
    (padLeft : Bool) : Encoder :=
  writeCounted (writeLe (Scalar.cast T list.length))
    (fun s => writeFixedStringPad s fixedLen padChar padLeft) list

def readFixedStringListLePad (fixedLen : Nat) (trimPadChar : UInt8) (padLeft : Bool) :
    Decoder (List Bytes) :=
  readCounted (readLe T) (readFixedStringPad fixedLen trimPadChar padLeft)

def writeFixedStringListPad (list : List Bytes) (fixedLen : Nat) (padChar : UInt8)
    (padLeft : Bool) : Encoder :=
  writeCounted (write (Scalar.cast T list.length) false)
    (fun s => writeFixedStringPad s fixedLen padChar padLeft) list

def readFixedStringListPad (fixedLen : Nat) (trimPadChar : UInt8) (padLeft : Bool) :
    Decoder (List Bytes) :=
  readCounted (read T false) (readFixedStringPad fixedLen trimPadChar padLeft)

def writeFixedStringList (list : List Bytes) (fixedLen : Nat) : Encoder :=
  writeFixedStringListPad T list fixedLen space false

def readFixedStringList (fixedLen : Nat) : Decoder (List Bytes) :=
  readFixedStringListPad T fixedLen space false

def writeBasicTypeLe (list : List K) : Encoder :=
  writeCounted (writeLe (Scalar.cast T list.length)) writeLe list

def readBasicTypeLe : Decoder (List K) := readCounted (readLe T) (readLe K)

def writeBasicType (list : List K) : Encoder :=
  writeCounted (write (Scalar.cast T list.length) false) (fun v => write v false) list

def readBasicType : Decoder (List K) := readCounted (read T false) (read K false)

end

/-- `struct BinaryCodec`: what a message type does with a buffer, and how two
messages of the type compare. -/
class BinaryCodec (M : Type) where
  encode : M → Encoder
  decode : Decoder M
  equals : M → M → Bool

export BinaryCodec (encode decode equals)

/-- `operator==`, which `std::vector` compares elements with. -/
instance (priority := low) [BinaryCodec K] : BEq K := ⟨equals⟩

section
variable (T : Type) [Scalar T] {K : Type} [BinaryCodec K]

def writeObjectList (list : List K) : Encoder :=
  writeCounted (write (Scalar.cast T list.length) false) encode list

def readObjectList (K : Type) [BinaryCodec K] : Decoder (List K) :=
  readCounted (read T false) decode

def writeObjectListLe (list : List K) : Encoder :=
  writeCounted (writeLe (Scalar.cast T list.length)) encode list

def readObjectListLe (K : Type) [BinaryCodec K] : Decoder (List K) := readCounted (readLe T) decode

end

end FinProto
