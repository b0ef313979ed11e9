import FinProto.Bounds
import FinProto.Equality
import FinProto.Wire.Compares

/-! `equals` where fields are floating: a comparison of numbers, so that a payload with a NaN
equals nothing and the two zeros are one. -/
namespace FinProto

open Wire

/-! ## Floating patterns -/

/-- A pattern without its sign. -/
def magnitude (bits : BitVec (w + 1)) : Nat := bits.toNat % 2 ^ w

/-- The patterns above infinity, of either sign. -/
def IsNan (infinity bits : BitVec (w + 1)) : Prop := magnitude infinity < magnitude bits

/-- The pattern with minus zero as zero. -/
def unsignedZero (bits : BitVec (w + 1)) : BitVec (w + 1) := if magnitude bits = 0 then 0 else bits

theorem toNat_shiftLeft_one (bits : BitVec (w + 1)) : (bits <<< 1).toNat = 2 * magnitude bits := by
  rw [BitVec.toNat_shiftLeft, Nat.shiftLeft_eq, magnitude, Nat.pow_one, Nat.pow_succ,
    Nat.mul_mod_mul_right, Nat.mul_comm]

theorem magnitude_zero : magnitude 0#(w + 1) = 0 := by
  simp [magnitude]

theorem unsignedZero_eq_iff (a b : BitVec (w + 1)) :
    unsignedZero a = unsignedZero b ↔ a = b ∨ (magnitude a = 0 ∧ magnitude b = 0) := by
  unfold unsignedZero
  by_cases left : magnitude a = 0
  · by_cases right : magnitude b = 0
    · simp [left, right]
    · have apart : ∀ c : BitVec (w + 1), magnitude c = 0 → c ≠ b := by
        intro c zero same
        rw [same] at zero
        exact right zero
      simp [left, right, apart _ magnitude_zero, apart a left]
  · by_cases right : magnitude b = 0
    · have apart : ∀ c : BitVec (w + 1), magnitude c = 0 → a ≠ c := by
        intro c zero same
        rw [← same] at zero
        exact left zero
      simp [left, right, apart _ magnitude_zero, apart b right]
    · simp [left, right]

theorem compares_floatEquals (infinity : BitVec (w + 1)) :
    Compares (floatEquals infinity) (fun a => ¬ IsNan infinity a) unsignedZero := by
  intro a b
  have below : ∀ v : BitVec (w + 1), (infinity <<< 1).ult (v <<< 1) = false ↔ ¬ IsNan infinity v := by
    intro v
    simp only [BitVec.ult, toNat_shiftLeft_one, IsNan, decide_eq_false_iff_not]
    omega
  have zero : ∀ v : BitVec (w + 1), v <<< 1 = 0 ↔ magnitude v = 0 := by
    intro v
    rw [← BitVec.toNat_inj, toNat_shiftLeft_one]
    simp
  simp only [floatEquals, Bool.and_eq_true, Bool.not_eq_true', below, Bool.or_eq_true, beq_iff_eq,
    zero, unsignedZero_eq_iff, and_assoc]

def F32.Number (f : F32) : Prop := ¬ IsNan 0x7F800000 f.bits
def F64.Number (f : F64) : Prop := ¬ IsNan 0x7FF0000000000000 f.bits

def F32.unsigned (f : F32) : F32 := ⟨unsignedZero f.bits⟩
def F64.unsigned (f : F64) : F64 := ⟨unsignedZero f.bits⟩

theorem F32.compares : Compares (fun a b : F32 => a == b) Number unsigned := by
  intro a b
  rw [unsigned, unsigned, F32.mk.injEq]
  exact compares_floatEquals _ a.bits b.bits

theorem F64.compares : Compares (fun a b : F64 => a == b) Number unsigned := by
  intro a b
  rw [unsigned, unsigned, F64.mk.injEq]
  exact compares_floatEquals _ a.bits b.bits

/-! ## Messages -/

/-- A class whose `equals` compares numbers as numbers and everything else as it is. -/
class ComparesNumbers (M : Type) [Message M] where
  Numeric : M → Prop := fun _ => True
  unsigned : M → M := id
  compares : Compares (equals (M := M)) Numeric unsigned
  fits_unsigned : ∀ m, fits (unsigned m) ↔ fits m
  unsigned_trimmed : ∀ m, unsigned (trimmed m) = trimmed (unsigned m)
  settled_iff : ∀ m, unsigned m = unsigned (trimmed m) ↔ trimmed m = m

export ComparesNumbers (Numeric unsigned)

/-- Trimming and unsigning do not meet. -/
theorem trimmed_unsigned_iff {M : Type} [Message M] [ComparesNumbers M] (m : M) :
    trimmed (unsigned m) = unsigned m ↔ trimmed m = m := by
  rw [← ComparesNumbers.unsigned_trimmed, eq_comm, ComparesNumbers.settled_iff]

instance (priority := low) {M : Type} [Message M] [LawfulEquals M] : ComparesNumbers M where
  compares := Compares.ofLawful LawfulEquals.equals_iff
  fits_unsigned _ := Iff.rfl
  unsigned_trimmed _ := rfl
  settled_iff _ := eq_comm

namespace Root

/-- No field of the packet and no element of its lists is a NaN. -/
structure BasicPacket.Numeric (m : BasicPacket) : Prop where
  f32 : m.fieldF32.Number
  f64 : m.fieldF64.Number
  f32List : ∀ f ∈ m.fieldF32List, f.Number
  f64List : ∀ f ∈ m.fieldF64List, f.Number

def BasicPacket.unsigned (m : BasicPacket) : BasicPacket :=
  { m with
    fieldF32 := m.fieldF32.unsigned, fieldF64 := m.fieldF64.unsigned
    fieldF32List := m.fieldF32List.map F32.unsigned
    fieldF64List := m.fieldF64List.map F64.unsigned }

theorem BasicPacket.compares_equals :
    Compares (equals (M := BasicPacket)) BasicPacket.Numeric BasicPacket.unsigned := by
  intro m o
  have f32 : (m.fieldF32 == o.fieldF32) = true ↔ _ := F32.compares m.fieldF32 o.fieldF32
  have f64 : (m.fieldF64 == o.fieldF64) = true ↔ _ := F64.compares m.fieldF64 o.fieldF64
  have f32List := F32.compares.list m.fieldF32List o.fieldF32List
  have f64List := F64.compares.list m.fieldF64List o.fieldF64List
  cases m
  cases o
  simp only [equals, Bool.and_eq_true, beq_iff_eq, f32, f64, f32List, f64List,
    BasicPacket.unsigned, BasicPacket.mk.injEq]
  constructor
  · intro alike
    refine ⟨⟨?_, ?_, ?_, ?_⟩, ⟨?_, ?_, ?_, ?_⟩, ?_⟩
    all_goals grind
  · intro alike
    obtain ⟨⟨_, _, _, _⟩, ⟨_, _, _, _⟩, _⟩ := alike
    grind

instance : ComparesNumbers BasicPacket where
  Numeric := BasicPacket.Numeric
  unsigned := BasicPacket.unsigned
  compares := BasicPacket.compares_equals
  fits_unsigned m := by simp [fits, BasicPacket.unsigned]
  unsigned_trimmed _ := rfl
  settled_iff m := by
    cases m
    simp [trimmed, BasicPacket.unsigned, eq_comm]

instance : LawfulEquals StringPacket where
  equals_iff m o := by
    cases m
    cases o
    simp [equals, and_assoc]

instance : LawfulEquals SubPacket where
  equals_iff m o := by
    cases m
    cases o
    simp [equals]

instance : LawfulEquals InerPacket where
  equals_iff m o := by
    cases m
    cases o
    simp [equals]

instance : LawfulEquals NestedPacket where
  equals_iff m o := by
    cases m
    cases o
    simp [equals, and_assoc]

instance : LawfulEquals EmptyPacket where
  equals_iff m o := by
    cases m
    cases o
    simp [equals]

instance : (type : BodyType) → ComparesNumbers (bodyTypes type).carrier
  | .basicPacket => inferInstanceAs (ComparesNumbers BasicPacket)
  | .stringPacket => inferInstanceAs (ComparesNumbers StringPacket)
  | .nestedPacket => inferInstanceAs (ComparesNumbers NestedPacket)
  | .emptyPacket => inferInstanceAs (ComparesNumbers EmptyPacket)

end Root

/-! ## Objects -/

namespace Object
variable {Tag : Type} {types : Tag → MessageType} [∀ type, ComparesNumbers (types type).carrier]

def Numeric (o : Object types) : Prop := FinProto.Numeric o.value

def unsigned (o : Object types) : Object types := ⟨o.type, FinProto.unsigned o.value⟩

theorem compares [DecidableEq Tag] :
    Compares (fun a b : Object types => a.equals b) Numeric unsigned := by
  intro a b
  obtain ⟨type, m⟩ := a
  obtain ⟨other, o⟩ := b
  dsimp only [equals]
  split
  · rename_i same
    cases same
    simp only [ComparesNumbers.compares m o, Numeric, unsigned, mk.injEq, heq_eq_eq, true_and]
  · rename_i differ
    have apart : type ≠ other := Ne.symm differ
    simp [unsigned, apart]

omit [∀ type, ComparesNumbers (types type).carrier] in
theorem trimmed_eq_iff (o : Object types) : o.trimmed = o ↔ FinProto.trimmed o.value = o.value := by
  obtain ⟨type, m⟩ := o
  simp [trimmed]

theorem canonical_unsigned_iff (o : Object types) :
    o.unsigned.trimmed = o.unsigned ∧ o.unsigned.fits ↔ o.trimmed = o ∧ o.fits := by
  rw [trimmed_eq_iff, trimmed_eq_iff]
  exact and_congr (trimmed_unsigned_iff o.value) (ComparesNumbers.fits_unsigned o.value)

theorem Canonical.unsigned {o : Object types} (canonical : o.Canonical) :
    o.unsigned.Canonical := by
  obtain ⟨settled, fit⟩ := (canonical_unsigned_iff o).mpr ⟨canonical.settled, canonical.fits⟩
  exact ⟨settled, fit⟩

theorem unsigned_eq_iff {a b : Object types} (left : a.Canonical) (right : b.Canonical) :
    a.unsigned = b.unsigned ↔ a.type = b.type ∧ a.unsigned.encoding = b.unsigned.encoding := by
  constructor
  · intro same
    have type : a.unsigned.type = b.unsigned.type := congrArg Object.type same
    exact ⟨type, congrArg encoding same⟩
  · intro alike
    obtain ⟨type, same⟩ := alike
    have first := left.unsigned
    have second := right.unsigned
    have trimmed := (encoding_eq_iff (a := a.unsigned) (b := b.unsigned) type first.fits
      second.fits).mp same
    rwa [first.settled, second.settled] at trimmed

end Object

/-- `equals` of bodies with numbers in them: reflexive where no number is a NaN, and there the
equality of what goes over the wire once minus zero is written as zero. -/
structure EqualsNumbers {Tag : Type} [DecidableEq Tag] (types : Tag → MessageType)
    (numeric : Object types → Prop) (unsigned : Object types → Object types) : Prop where
  self : ∀ a : Object types, a.equals a = true ↔ numeric a
  symm : ∀ a b : Object types, a.equals b = b.equals a
  trans : ∀ a b c : Object types, a.equals b = true → b.equals c = true → a.equals c = true
  fields : ∀ a b : Object types, a.equals b = true ↔ numeric a ∧ numeric b ∧ unsigned a = unsigned b
  wire : ∀ a b : Object types, a.Canonical → b.Canonical →
    (a.equals b = true ↔ numeric a ∧ numeric b ∧ a.type = b.type ∧
      (unsigned a).encoding = (unsigned b).encoding)

/-- The payloads without a NaN. -/
def Root.numeric : Root.Body → Prop
  | ⟨.basicPacket, (m : Root.BasicPacket)⟩ => m.Numeric
  | _ => True

/-- The payload with every minus zero as zero. -/
def Root.unsigned : Root.Body → Root.Body
  | ⟨.basicPacket, (m : Root.BasicPacket)⟩ => ⟨.basicPacket, m.unsigned⟩
  | payload => payload

theorem Root.numeric_eq : Root.numeric = Object.Numeric := by
  funext payload
  obtain ⟨type, m⟩ := payload
  cases type <;> rfl

theorem Root.unsigned_eq : Root.unsigned = Object.unsigned := by
  funext payload
  obtain ⟨type, m⟩ := payload
  cases type <;> rfl

theorem Root.equalsNumbers : EqualsNumbers Root.bodyTypes Root.numeric Root.unsigned := by
  rw [Root.numeric_eq, Root.unsigned_eq]
  exact {
    self := Object.compares.self_iff
    symm := Object.compares.symm
    trans := fun _ _ _ => Object.compares.trans
    fields := Object.compares
    wire := fun a b left right => by rw [Object.compares a b, Object.unsigned_eq_iff left right] }

end FinProto
