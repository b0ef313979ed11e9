import FinProto.Bjse.Messages
import FinProto.Rc.Messages
import FinProto.Sse.Messages
import FinProto.Szse.Messages

/-! `equals` against the wire. A class lists its fields once to compare them and once to
encode them; bodies in canonical form are equal by the one exactly when they are by the other. -/
namespace FinProto

open Wire

/-! ## Classes that compare every field -/

/-- `equals` tells any two different messages of the class apart. -/
class LawfulEquals (M : Type) [BinaryCodec M] : Prop where
  equals_iff : ∀ m o : M, equals m o = true ↔ m = o

/-- Lists of messages are compared element by element. -/
instance [BinaryCodec K] [LawfulEquals K] : LawfulBEq K where
  eq_of_beq same := (LawfulEquals.equals_iff _ _).mp same
  rfl := (LawfulEquals.equals_iff _ _).mpr rfl

theorem LawfulEquals.of_class {M : Type} [Message M]
    (fields : ∀ m o : M, equals m o = true ↔ m = o) : LawfulEquals (MessageType.mk M).carrier :=
  ⟨fields⟩

/-! ## Objects -/

namespace Object
variable {Tag : Type} {types : Tag → MessageType}

/-- What `encode` leaves in a new buffer. -/
def encoding (o : Object types) : Bytes := (o.encode.run .new).data

theorem encoding_eq (o : Object types) : o.encoding = o.encode.bytes := o.encode.buffer_run .new

/-- Fixed strings as their fields keep them, sizes that fit their prefixes, and an extension of
the class registered for its key. -/
structure Canonical (o : Object types) : Prop where
  settled : o.trimmed = o
  fits : o.fits

/-- Bodies of one class whose sizes fit are encoded alike exactly when trimming makes them the
same. -/
theorem encoding_eq_iff {a b : Object types} (type : a.type = b.type) (left : a.fits)
    (right : b.fits) : a.encoding = b.encoding ↔ a.trimmed = b.trimmed := by
  rw [encoding_eq, encoding_eq, ← a.bytes_encode_trimmed, ← b.bytes_encode_trimmed]
  constructor
  · intro same
    have first : a.trimmed.type = b.type ∧ a.trimmed.trimmed = a.trimmed ∧ a.trimmed.fits :=
      ⟨type, a.trimmed_trimmed, a.fits_trimmed.mpr left⟩
    have second : b.trimmed.type = b.type ∧ b.trimmed.trimmed = b.trimmed ∧ b.trimmed.fits :=
      ⟨rfl, b.trimmed_trimmed, b.fits_trimmed.mpr right⟩
    exact (inverts_decode b.type).injective first second same
  · intro same
    rw [same]

variable [DecidableEq Tag] [lawful : ∀ type, LawfulEquals (types type).carrier]

/-- Objects are equal when their classes are and their classes' `equals` says so. -/
@[simp] theorem equals_iff (a b : Object types) : a.equals b = true ↔ a = b := by
  obtain ⟨type, m⟩ := a
  obtain ⟨other, o⟩ := b
  unfold equals
  split
  · rename_i same
    cases same
    simp [LawfulEquals.equals_iff]
  · rename_i differ
    have apart : type ≠ other := Ne.symm differ
    simp [apart]

theorem equals_iff_encoding {a b : Object types} (left : a.Canonical) (right : b.Canonical) :
    a.equals b = true ↔ a.type = b.type ∧ a.encoding = b.encoding := by
  rw [equals_iff]
  constructor
  · intro same
    rw [same]
    exact ⟨rfl, rfl⟩
  · intro alike
    obtain ⟨type, same⟩ := alike
    have trimmed := (encoding_eq_iff type left.fits right.fits).mp same
    rwa [left.settled, right.settled] at trimmed

end Object

/-- `equals` of the bodies of one protocol is their equality on the wire. -/
structure EqualsAgrees {Tag : Type} [DecidableEq Tag] (types : Tag → MessageType) : Prop where
  wire : ∀ a b : Object types, a.Canonical → b.Canonical →
    (a.equals b = true ↔ a.type = b.type ∧ a.encoding = b.encoding)
  fields : ∀ a b : Object types, a.equals b = true ↔ a = b
  symm : ∀ a b : Object types, a.equals b = b.equals a
  trans : ∀ a b c : Object types, a.equals b = true → b.equals c = true → a.equals c = true

theorem equalsAgrees {Tag : Type} [DecidableEq Tag] (types : Tag → MessageType)
    [∀ type, LawfulEquals (types type).carrier] : EqualsAgrees types where
  wire _ _ left right := Object.equals_iff_encoding left right
  fields := Object.equals_iff
  symm a b := by
    rw [Bool.eq_iff_iff, Object.equals_iff, Object.equals_iff]
    exact eq_comm
  trans a b c first second := by
    rw [Object.equals_iff] at first second ⊢
    exact first.trans second

/-! ## The classes of the protocols -/

instance (type : Rc.BodyType) : LawfulEquals (Rc.bodyTypes type).carrier := by
  cases type
  all_goals
    apply LawfulEquals.of_class
    intro m o
    cases m
    cases o
    simp [equals, and_assoc]

instance : LawfulEquals Sse.SubExecRptSync where
  equals_iff m o := by
    cases m
    cases o
    simp [equals, and_assoc]

instance : LawfulEquals Sse.SubExecRptSyncRsp where
  equals_iff m o := by
    cases m
    cases o
    simp [equals, and_assoc]

instance (type : Sse.BodyType) : LawfulEquals (Sse.bodyTypes type).carrier := by
  cases type
  all_goals
    apply LawfulEquals.of_class
    intro m o
    cases m
    cases o
    simp [equals, and_assoc]

instance (type : Szse.ExtendType) : LawfulEquals (Szse.extendTypes type).carrier := by
  cases type
  all_goals
    apply LawfulEquals.of_class
    intro m o
    cases m
    cases o
    simp [equals, and_assoc]

instance : LawfulEquals Szse.PartitionReport where
  equals_iff m o := by
    cases m
    cases o
    simp [equals]

instance (type : Szse.BodyType) : LawfulEquals (Szse.bodyTypes type).carrier := by
  cases type
  all_goals
    apply LawfulEquals.of_class
    intro m o
    cases m
    cases o
    simp [equals, and_assoc]

instance : LawfulEquals Bjse.Quote1 where
  equals_iff m o := by
    cases m
    cases o
    simp [equals, and_assoc]

instance (type : Bjse.ExtendType) : LawfulEquals (Bjse.extendTypes type).carrier := by
  cases type
  all_goals
    apply LawfulEquals.of_class
    intro m o
    cases m
    cases o
    simp [equals, and_assoc]

instance : LawfulEquals Bjse.ReportPartitionSync where
  equals_iff m o := by
    cases m
    cases o
    simp [equals]

instance (type : Bjse.BodyType) : LawfulEquals (Bjse.bodyTypes type).carrier := by
  cases type
  all_goals
    apply LawfulEquals.of_class
    intro m o
    cases m
    cases o
    simp [equals, and_assoc]

/-- In each of the four protocols canonical bodies are equal exactly when they are of one class
and encoded alike. -/
theorem equals_agrees_with_wire :
    EqualsAgrees Rc.bodyTypes ∧ EqualsAgrees Sse.bodyTypes ∧ EqualsAgrees Szse.bodyTypes ∧
      EqualsAgrees Bjse.bodyTypes :=
  ⟨equalsAgrees _, equalsAgrees _, equalsAgrees _, equalsAgrees _⟩

end FinProto
