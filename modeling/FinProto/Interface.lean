import FinProto.CodecLaws
import FinProto.Frame

/-! The whole interface of `ByteBuf`: the typed methods no codec calls, and every call as a
value, so that runs of calls can be spoken of. -/
namespace FinProto

open Wire

/-! ## The remaining methods -/

def writeF32 (val : F32) : Encoder := write val false
def writeF64 (val : F64) : Encoder := write val false

def readU8Le : Decoder UInt8 := readByte id
def readI8Le : Decoder Int8 := readByte UInt8.toInt8
def readF32 : Decoder F32 := read F32 false
def readF64 : Decoder F64 := read F64 false

def writeU8At (pos : Nat) (val : UInt8) : FrameEncoder := writeAt pos val false
def writeU8LeAt (pos : Nat) (val : UInt8) : FrameEncoder := writeLeAt pos val
def writeU16At (pos : Nat) (val : UInt16) : FrameEncoder := writeAt pos val false
def writeU16LeAt (pos : Nat) (val : UInt16) : FrameEncoder := writeLeAt pos val
def writeU64At (pos : Nat) (val : UInt64) : FrameEncoder := writeAt pos val false
def writeU64LeAt (pos : Nat) (val : UInt64) : FrameEncoder := writeLeAt pos val
def writeI8At (pos : Nat) (val : Int8) : FrameEncoder := writeAt pos val false
def writeI8LeAt (pos : Nat) (val : Int8) : FrameEncoder := writeLeAt pos val
def writeI6At (pos : Nat) (val : Int16) : FrameEncoder := writeAt pos val false
/-- The one `_le_at` that goes through `write_at`. -/
def writeI16LeAt (pos : Nat) (val : Int16) : FrameEncoder := writeAt pos val false
def writeI32At (pos : Nat) (val : Int32) : FrameEncoder := writeAt pos val false
def writeI32LeAt (pos : Nat) (val : Int32) : FrameEncoder := writeLeAt pos val
def writeI64At (pos : Nat) (val : Int64) : FrameEncoder := writeAt pos val false
def writeI64LeAt (pos : Nat) (val : Int64) : FrameEncoder := writeLeAt pos val

/-! ## The types and the methods that move them -/

/-- The types the interface has methods for. -/
inductive Primitive where
  | u8 | u16 | u32 | u64 | i8 | i16 | i32 | i64 | f32 | f64
  deriving DecidableEq

def Primitive.carrier : Primitive → Type
  | u8 => UInt8
  | u16 => UInt16
  | u32 => UInt32
  | u64 => UInt64
  | i8 => Int8
  | i16 => Int16
  | i32 => Int32
  | i64 => Int64
  | f32 => F32
  | f64 => F64

instance (t : Primitive) : Scalar t.carrier :=
  match t with
  | .u8 => inferInstanceAs (Scalar UInt8)
  | .u16 => inferInstanceAs (Scalar UInt16)
  | .u32 => inferInstanceAs (Scalar UInt32)
  | .u64 => inferInstanceAs (Scalar UInt64)
  | .i8 => inferInstanceAs (Scalar Int8)
  | .i16 => inferInstanceAs (Scalar Int16)
  | .i32 => inferInstanceAs (Scalar Int32)
  | .i64 => inferInstanceAs (Scalar Int64)
  | .f32 => inferInstanceAs (Scalar F32)
  | .f64 => inferInstanceAs (Scalar F64)

/-- Which method of a type is meant: the one named after the type, its `_le` twin, or
the template, which is told the byte order. -/
inductive Method where
  | named | namedLe
  | template (bigEndian : Bool)
  deriving DecidableEq

/-- Only the template can be told to use big-endian order. -/
def Method.bigEndian : Method → Bool
  | .template bigEndian => bigEndian
  | _ => false

def writeBy : Method → (t : Primitive) → t.carrier → Encoder
  | .named, .u8 => writeU8
  | .named, .u16 => writeU16
  | .named, .u32 => writeU32
  | .named, .u64 => writeU64
  | .named, .i8 => writeI8
  | .named, .i16 => writeI16
  | .named, .i32 => writeI32
  | .named, .i64 => writeI64
  | .named, .f32 => writeF32
  | .named, .f64 => writeF64
  | .namedLe, .u8 => writeU8Le
  | .namedLe, .u16 => writeU16Le
  | .namedLe, .u32 => writeU32Le
  | .namedLe, .u64 => writeU64Le
  | .namedLe, .i8 => writeI8Le
  | .namedLe, .i16 => writeI16Le
  | .namedLe, .i32 => writeI32Le
  | .namedLe, .i64 => writeI64Le
  | .namedLe, .f32 => writeF32Le
  | .namedLe, .f64 => writeF64Le
  | .template bigEndian, _ => fun val => write val bigEndian

def readBy : Method → (t : Primitive) → Decoder t.carrier
  | .named, .u8 => readU8
  | .named, .u16 => readU16
  | .named, .u32 => readU32
  | .named, .u64 => readU64
  | .named, .i8 => readI8
  | .named, .i16 => readI16
  | .named, .i32 => readI32
  | .named, .i64 => readI64
  | .named, .f32 => readF32
  | .named, .f64 => readF64
  | .namedLe, .u8 => readU8Le
  | .namedLe, .u16 => readU16Le
  | .namedLe, .u32 => readU32Le
  | .namedLe, .u64 => readU64Le
  | .namedLe, .i8 => readI8Le
  | .namedLe, .i16 => readI16Le
  | .namedLe, .i32 => readI32Le
  | .namedLe, .i64 => readI64Le
  | .namedLe, .f32 => readF32Le
  | .namedLe, .f64 => readF64Le
  | .template bigEndian, t => read t.carrier bigEndian

/-- There are no positional methods named after `f32` and `f64`; a floating value goes
through the template. -/
def writeAtBy : Method → (t : Primitive) → Nat → t.carrier → FrameEncoder
  | .named, .u8 => writeU8At
  | .named, .u16 => writeU16At
  | .named, .u32 => writeU32At
  | .named, .u64 => writeU64At
  | .named, .i8 => writeI8At
  | .named, .i16 => writeI6At
  | .named, .i32 => writeI32At
  | .named, .i64 => writeI64At
  | .namedLe, .u8 => writeU8LeAt
  | .namedLe, .u16 => writeU16LeAt
  | .namedLe, .u32 => writeU32LeAt
  | .namedLe, .u64 => writeU64LeAt
  | .namedLe, .i8 => writeI8LeAt
  | .namedLe, .i16 => writeI16LeAt
  | .namedLe, .i32 => writeI32LeAt
  | .namedLe, .i64 => writeI64LeAt
  | method, _ => fun pos val => writeAt pos val method.bigEndian

/-- All positional methods are the template at their type. -/
theorem writeAtBy_eq (method : Method) (t : Primitive) (pos : Nat) (val : t.carrier) :
    writeAtBy method t pos val = writeAt pos val method.bigEndian := by
  cases method with
  | named | namedLe => cases t <;> rfl
  | template bigEndian => rfl

/-- The one bounds test of both templates, and the assignments behind it. -/
theorem writeAt_eq [Scalar T] (pos : Nat) (value : T) (bigEndian : Bool) (buf : ByteBuf) :
    ∃ what, writeAt pos value bigEndian buf =
      if (pos + Scalar.size T) % 2 ^ 64 > buf.buffer.length then .error (.outOfRange what)
      else buf.patch pos (write value bigEndian).bytes := by
  cases bigEndian with
  | false => exact ⟨_, rfl⟩
  | true => exact ⟨_, rfl⟩

/-- The writers that are a bare `push_back`. -/
def Method.pushesBack : Method → Primitive → Bool
  | .template _, _ => false
  | _, .u8 => true
  | _, .i8 => true
  | _, _ => false

/-! Whatever the method, a value is spelled as its type and the byte order say. -/

theorem leBytes_u8 (val : UInt8) : Scalar.leBytes val = [val] := by
  rw [Scalar.leBytes_eq]
  change [Wire.byteAt (n := 1) val.toBitVec 0] = [val]
  rw [List.cons.injEq]
  refine ⟨?_, rfl⟩
  apply UInt8.eq_of_toBitVec_eq
  simp [Wire.byteAt]

theorem leBytes_i8 (val : Int8) : Scalar.leBytes val = [val.toUInt8] := by
  rw [← leBytes_u8, Scalar.leBytes_eq, Scalar.leBytes_eq]
  rfl

theorem bytes_writeBy (method : Method) (t : Primitive) (val : t.carrier) :
    (writeBy method t val).bytes = (write val method.bigEndian).bytes := by
  cases method with
  | named | namedLe =>
    cases t with
    | u8 => exact (leBytes_u8 val).symm
    | i8 => exact (leBytes_i8 val).symm
    | _ => rfl
  | template bigEndian => rfl

theorem length_write [Scalar T] (value : T) (bigEndian : Bool) :
    (write value bigEndian).bytes.length = Scalar.size T := by
  cases bigEndian with
  | false => exact Scalar.length_leBytes value
  | true => exact Scalar.length_beBytes value

theorem uncounted_writeBy (method : Method) (t : Primitive) (val : t.carrier) :
    (writeBy method t val).uncounted = if method.pushesBack t then 1 else 0 := by
  cases method with
  | named | namedLe => cases t <;> rfl
  | template bigEndian =>
    change (write val bigEndian).uncounted = 0
    rw [Encoder.uncounted, length_write]
    cases bigEndian with
    | false => exact Nat.sub_self _
    | true => exact Nat.sub_self _

theorem inverts_read_order (T : Type) [Scalar T] (bigEndian : Bool) :
    Inverts (read T bigEndian) (fun value => (write value bigEndian).bytes) Anything := by
  cases bigEndian with
  | false => exact inverts_readLe T
  | true => exact inverts_readBe T

/-- Every reader of a type is the inverse of every writer of the same type and order. -/
theorem inverts_readBy (method : Method) (t : Primitive) :
    Inverts (readBy method t) (fun val => (write val method.bigEndian).bytes) Anything := by
  cases method with
  | named | namedLe =>
    cases t with
    | u8 => exact inverts_readU8.congr (fun val => (leBytes_u8 val).symm) (fun _ => Iff.rfl)
    | i8 => exact inverts_readI8.congr (fun val => (leBytes_i8 val).symm) (fun _ => Iff.rfl)
    | _ => exact inverts_readLe _
  | template bigEndian => exact inverts_read_order t.carrier bigEndian

/-- A reader of exactly `n` bytes: with fewer it throws and stays where it is. -/
structure Decoder.Walks (p : Decoder α) (n : Nat) : Prop where
  short : ∀ buf, buf.readableBytes < n →
    (p.run buf).value = .error (.outOfRange "Not enough data to read") ∧ (p.run buf).state = buf
  enough : ∀ buf, n ≤ buf.readableBytes →
    (∃ a, (p.run buf).value = .ok a) ∧ (p.run buf).state = advance buf n

theorem Decoder.walks_walk {f : List UInt8 → α} {log : ByteBuf → List Access} {sound} :
    (Decoder.walk n f log sound).Walks n where
  short buf missing := ByteBuf.walk_short f (log buf) (buf.readableBytes_eq ▸ missing)
  enough buf full := by
    obtain ⟨value, state⟩ := ByteBuf.walk_enough f (log buf) (buf.readableBytes_eq ▸ full)
    exact ⟨⟨_, value⟩, state⟩

theorem walks_readBytes (len : Nat) : (readBytes len).Walks len := Decoder.walks_walk
theorem walks_readByte (f : UInt8 → α) : (readByte f).Walks 1 := Decoder.walks_walk

theorem walks_read (T : Type) [Scalar T] (bigEndian : Bool) :
    (read T bigEndian).Walks (Scalar.size T) := by
  have little : (readLe T).Walks (Scalar.size T) := Decoder.walks_walk
  have big : (readBe T).Walks (Scalar.size T) := Decoder.walks_walk
  cases bigEndian with
  | false => exact little
  | true => exact big

theorem walks_readBy (method : Method) (t : Primitive) :
    (readBy method t).Walks (Scalar.size t.carrier) := by
  cases method with
  | named | namedLe =>
    cases t with
    | u8 => exact walks_readByte _
    | i8 => exact walks_readByte _
    | _ => exact walks_read _ false
  | template bigEndian => exact walks_read t.carrier bigEndian

end FinProto
