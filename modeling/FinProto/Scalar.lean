import Mathlib.Algebra.Ring.Nat
import FinProto.Wire.LittleEndian

/-! The arithmetic types the buffer moves, as the bit patterns they have in
memory, with the promotions and shifts `write_le` and `read_le` perform on them. -/
namespace FinProto

/-- The two branches of `if constexpr (std::is_floating_point_v<T>)`, with the
signedness the integer branch depends on. -/
inductive ScalarKind where
  | unsigned | signed | floating
  deriving DecidableEq

/-- An arithmetic type `T`: `sizeof(T)` bytes holding a bit pattern. -/
class Scalar (T : Type) where
  size : Nat
  kind : ScalarKind
  toBits : T → BitVec (8 * size)
  ofBits : BitVec (8 * size) → T
  ofBits_toBits : ∀ v, ofBits (toBits v) = v
  toBits_ofBits : ∀ b, toBits (ofBits b) = b

/-- A `float` or `double`, known by its bit pattern only. -/
structure F32 where
  bits : BitVec 32

structure F64 where
  bits : BitVec 64

/-- `==` on floating patterns, `infinity` being that of positive infinity: a NaN
equals nothing and the two zeros are equal. -/
def floatEquals (infinity a b : BitVec w) : Bool :=
  let magnitude (v : BitVec w) := v <<< 1
  !(magnitude infinity).ult (magnitude a) && !(magnitude infinity).ult (magnitude b) &&
    (a == b || (magnitude a == 0 && magnitude b == 0))

instance : BEq F32 := ⟨fun a b => floatEquals 0x7F800000 a.bits b.bits⟩
instance : BEq F64 := ⟨fun a b => floatEquals 0x7FF0000000000000 a.bits b.bits⟩

instance : Scalar UInt8 :=
  ⟨1, .unsigned, UInt8.toBitVec, UInt8.ofBitVec, fun _ => rfl, fun _ => rfl⟩
instance : Scalar UInt16 :=
  ⟨2, .unsigned, UInt16.toBitVec, UInt16.ofBitVec, fun _ => rfl, fun _ => rfl⟩
instance : Scalar UInt32 :=
  ⟨4, .unsigned, UInt32.toBitVec, UInt32.ofBitVec, fun _ => rfl, fun _ => rfl⟩
instance : Scalar UInt64 :=
  ⟨8, .unsigned, UInt64.toBitVec, UInt64.ofBitVec, fun _ => rfl, fun _ => rfl⟩
instance : Scalar Int8 := ⟨1, .signed, Int8.toBitVec, Int8.ofBitVec, fun _ => rfl, fun _ => rfl⟩
instance : Scalar Int16 := ⟨2, .signed, Int16.toBitVec, Int16.ofBitVec, fun _ => rfl, fun _ => rfl⟩
instance : Scalar Int32 := ⟨4, .signed, Int32.toBitVec, Int32.ofBitVec, fun _ => rfl, fun _ => rfl⟩
instance : Scalar Int64 := ⟨8, .signed, Int64.toBitVec, Int64.ofBitVec, fun _ => rfl, fun _ => rfl⟩
instance : Scalar F32 := ⟨4, .floating, F32.bits, F32.mk, fun _ => rfl, fun _ => rfl⟩
instance : Scalar F64 := ⟨8, .floating, F64.bits, F64.mk, fun _ => rfl, fun _ => rfl⟩

namespace Scalar
variable (T : Type) [Scalar T]

/-- Operands narrower than `int` are computed in `int`. -/
def promotedWidth : Nat := max 32 (8 * size T)

/-- `int` holds every value of a narrower unsigned type, so it is signed too. -/
def promotedSigned : Bool := kind T == .signed || size T < 4

def promote (bits : BitVec (8 * size T)) : BitVec (promotedWidth T) :=
  match kind T with
  | .signed => bits.signExtend _
  | _ => bits.setWidth _

/-- `>>` on the promoted operand. -/
def shiftRight (value : BitVec (promotedWidth T)) (amount : Nat) : BitVec (promotedWidth T) :=
  if promotedSigned T then value.sshiftRight amount else value >>> amount

variable {T}

/-- The object representation `std::memcpy` copies, on a little-endian host. -/
def memory (value : T) : List UInt8 := Wire.toBytes (toBits value)

/-- `bytes[i] = static_cast<uint8_t>(value >> (i * 8))`. -/
def shiftedByte (value : T) (i : Nat) : UInt8 :=
  ⟨(shiftRight T (promote T (toBits value)) (i * 8)).setWidth 8⟩

/-- The byte array `write_le` fills. -/
def leBytes (value : T) : List UInt8 :=
  match kind T with
  | .floating => memory value
  | _ => (List.range (size T)).map (shiftedByte value)

/-- The byte array `write_be` fills. -/
def beBytes (value : T) : List UInt8 :=
  match kind T with
  | .floating => memory value
  | _ => (List.range (size T)).map (fun i => shiftedByte value (size T - 1 - i))

/-- `value |= static_cast<T>(byte) << (i * 8)`. -/
def orShifted (value : BitVec (8 * size T)) (byte : UInt8) (i : Nat) : BitVec (8 * size T) :=
  (promote T value ||| promote T (byte.toBitVec.setWidth _) <<< (i * 8)).setWidth _

/-- The value `read_le` computes from the bytes it walks over. -/
def fromLe (T : Type) [Scalar T] (bytes : List UInt8) : T :=
  match kind T with
  | .floating => ofBits (Wire.ofBytes (size T) bytes)
  | _ => ofBits ((List.range (size T)).foldl (fun value i => orShifted value (bytes.getD i 0) i) 0)

/-- The value `read_be` computes from the bytes it walks over. -/
def fromBe (T : Type) [Scalar T] (bytes : List UInt8) : T :=
  match kind T with
  | .floating => ofBits (Wire.ofBytes (size T) bytes)
  | _ => ofBits ((List.range (size T)).foldl
      (fun value i => orShifted value (bytes.getD i 0) (size T - 1 - i)) 0)

theorem width_le : 8 * size T ≤ promotedWidth T := Nat.le_max_right _ _

/-- Promotion extends the pattern without touching its own bits. -/
theorem getLsbD_promote (bits : BitVec (8 * size T)) {j : Nat} (bound : j < 8 * size T) :
    (promote T bits).getLsbD j = bits.getLsbD j := by
  have inside : j < promotedWidth T := Nat.lt_of_lt_of_le bound width_le
  unfold promote
  split
  · simp only [BitVec.getLsbD_signExtend, inside, bound, decide_true, Bool.true_and, ↓reduceIte]
  · simp only [BitVec.getLsbD_setWidth, inside, decide_true, Bool.true_and]

@[simp] theorem setWidth_promote (bits : BitVec (8 * size T)) :
    (promote T bits).setWidth (8 * size T) = bits := by
  apply BitVec.eq_of_getLsbD_eq
  intro j bound
  simp only [BitVec.getLsbD_setWidth, bound, decide_true, Bool.true_and, getLsbD_promote bits bound]

/-- The shift moves bits of the pattern itself into the low byte. -/
theorem shiftedByte_eq (value : T) {i : Nat} (bound : i < size T) :
    shiftedByte value i = Wire.byteAt (toBits value) i := by
  apply UInt8.eq_of_toBitVec_eq
  apply BitVec.eq_of_getLsbD_eq
  intro j small
  have inside : i * 8 + j < 8 * size T := by omega
  have wide : i * 8 + j < promotedWidth T := Nat.lt_of_lt_of_le inside width_le
  have kept := getLsbD_promote (toBits value) inside
  have index : 8 * i + j = i * 8 + j := by omega
  simp only [shiftedByte, shiftRight, Wire.byteAt, BitVec.getLsbD_setWidth,
    BitVec.getLsbD_extractLsb', small, decide_true, Bool.true_and, index]
  split
  · have below : ¬ promotedWidth T ≤ j := by omega
    simp only [BitVec.getLsbD_sshiftRight, below, wide, kept, decide_false, Bool.not_false,
      Bool.true_and, ↓reduceIte]
  · simp only [BitVec.getLsbD_ushiftRight, kept]

theorem leBytes_eq (value : T) : leBytes value = Wire.toBytes (toBits value) := by
  unfold leBytes
  split
  · rfl
  · apply List.map_congr_left
    intro i member
    exact shiftedByte_eq value (List.mem_range.mp member)

@[simp] theorem length_leBytes (value : T) : (leBytes value).length = size T := by
  simp [leBytes_eq]

@[simp] theorem length_beBytes (value : T) : (beBytes value).length = size T := by
  unfold beBytes
  split
  · exact Wire.length_toBytes _
  · simp

/-- Or-ing in the promoted width and cutting back is or-ing the placed byte. -/
theorem orShifted_eq (value : BitVec (8 * size T)) (bytes : List UInt8) (i : Nat) :
    orShifted value (bytes.getD i 0) i = value ||| Wire.placed (size T) bytes i := by
  have wide : 8 * size T ≤ promotedWidth T := width_le
  rw [orShifted, BitVec.setWidth_or, BitVec.setWidth_shiftLeft_of_le wide, setWidth_promote,
    setWidth_promote, Wire.placed]
  simp only [Nat.mul_comm]

theorem fromLe_eq (bytes : List UInt8) : fromLe T bytes = ofBits (Wire.ofBytes (size T) bytes) := by
  unfold fromLe
  split
  · rfl
  · exact congrArg ofBits
      (Wire.foldl_eq_ofBytes bytes (fun value i _ => orShifted_eq value bytes i))

theorem fromLe_leBytes (value : T) : fromLe T (leBytes value) = value := by
  rw [fromLe_eq, leBytes_eq, Wire.ofBytes_toBytes, ofBits_toBits]

theorem leBytes_inj {a b : T} : leBytes a = leBytes b ↔ a = b := by
  constructor
  · intro same
    rw [← fromLe_leBytes a, same, fromLe_leBytes]
  · intro same
    rw [same]

theorem leBytes_fromLe {bytes : List UInt8} (width : bytes.length = size T) :
    leBytes (fromLe T bytes) = bytes := by
  rw [fromLe_eq, leBytes_eq, toBits_ofBits, Wire.toBytes_ofBytes width]

theorem beBytes_eq (value : T) :
    beBytes value = if kind T = .floating then leBytes value else (leBytes value).reverse := by
  unfold beBytes leBytes
  split
  · rename_i floats
    simp [floats]
  · rename_i integer
    rw [if_neg integer]
    apply List.ext_getElem
    · simp
    · intro i bound _
      simp

/-- `read_be` computes what `read_le` would from the bytes in reverse. -/
theorem fromBe_eq {bytes : List UInt8} (width : bytes.length = size T) :
    fromBe T bytes = if kind T = .floating then fromLe T bytes else fromLe T bytes.reverse := by
  by_cases floats : kind T = .floating
  · rw [if_pos floats, fromLe_eq, fromBe]
    split
    · rfl
    · rename_i other
      exact absurd floats other
  · rw [if_neg floats, fromLe_eq, fromBe]
    split
    · rename_i same
      exact absurd same floats
    · apply congrArg ofBits
      apply Wire.foldl_down_eq_ofBytes
      intro value i bound
      have mirror : bytes.reverse.getD (size T - 1 - i) 0 = bytes.getD i 0 := by
        have index : bytes.length - 1 - (size T - 1 - i) = i := by omega
        have inside : size T - 1 - i < bytes.length := by omega
        rw [List.getD_eq_getElem?_getD, List.getD_eq_getElem?_getD, List.getElem?_reverse inside, index]
      rw [← mirror, orShifted_eq]

theorem fromBe_beBytes (value : T) : fromBe T (beBytes value) = value := by
  rw [fromBe_eq (length_beBytes value), beBytes_eq]
  split
  · exact fromLe_leBytes value
  · rw [List.reverse_reverse, fromLe_leBytes]

theorem beBytes_fromBe {bytes : List UInt8} (width : bytes.length = size T) :
    beBytes (fromBe T bytes) = bytes := by
  rw [fromBe_eq width, beBytes_eq]
  split
  · exact leBytes_fromLe width
  · have mirrored : bytes.reverse.length = size T := by rw [List.length_reverse, width]
    rw [leBytes_fromLe mirrored, List.reverse_reverse]

/-- `static_cast<T>` of a `size_t`. -/
def cast (T : Type) [Scalar T] (n : Nat) : T := ofBits (BitVec.ofNat _ n)

/-- An unsigned value used as a `size_t`. -/
def toSize (value : T) : Nat := (toBits value).toNat

theorem toSize_cast (n : Nat) : toSize (cast T n) = n % 2 ^ (8 * size T) := by
  simp [toSize, cast, toBits_ofBits]

theorem cast_toSize (value : T) : cast T (toSize value) = value := by
  simp [toSize, cast, ofBits_toBits]

end Scalar

end FinProto
