import FinProto.LengthField

/-! Trimming is invisible to `encode`: a trimmed message is written as the message itself
is, the bytes that `writer_index_` counts included. -/
namespace FinProto

open Wire

/-- An encoder is what it appends and how much of that it counts. -/
theorem Encoder.ext {e f : Encoder} (bytes : e.bytes = f.bytes) (counted : e.counted = f.counted) :
    e = f := by
  have run : e.run = f.run := by
    funext buf
    rw [e.run_eq, f.run_eq]
    exact ByteBuf.ext (by simp [ByteBuf.append, bytes]) rfl (by simp [ByteBuf.append, counted])
  cases e
  cases f
  cases run
  cases bytes
  cases counted
  rfl

/-- Writers of the same bytes are the same when they leave as many uncounted. -/
theorem Encoder.eq_of_uncounted {e f : Encoder} (bytes : e.bytes = f.bytes)
    (same : e.uncounted = f.uncounted) : e = f := by
  have left := e.counted_le
  have right := f.counted_le
  refine Encoder.ext bytes ?_
  simp only [Encoder.uncounted, bytes] at same left
  omega

@[simp] theorem Encoder.uncounted_writeFixedStringListLePad (T : Type) [Scalar T]
    (list : List Bytes) (n : Nat) (pad : UInt8) (left : Bool) :
    (writeFixedStringListLePad T list n pad left).uncounted = list.length * n := by
  simp [writeFixedStringListLePad, List.map_const']

/-- A class whose `encode` does not see trimming. -/
class Trims (M : Type) [Message M] : Prop where
  uncounted_trimmed : ∀ m : M, (encode (trimmed m)).uncounted = (encode m).uncounted

theorem Trims.of_class {M : Type} [Message M]
    (fields : ∀ m : M, (encode (trimmed m)).uncounted = (encode m).uncounted) :
    Trims (MessageType.mk M).carrier :=
  ⟨fields⟩

theorem encode_trimmed {M : Type} [Message M] [Trims M] (m : M) :
    encode (trimmed m) = encode m :=
  Encoder.eq_of_uncounted (bytes_encode_trimmed m) (Trims.uncounted_trimmed m)

theorem Object.encode_trimmed {Tag : Type} {types : Tag → MessageType}
    [∀ type, Trims (types type).carrier] (o : Object types) : o.trimmed.encode = o.encode :=
  FinProto.encode_trimmed o.value

/-! ## The classes of the length-prefixed protocols -/

instance (type : Rc.BodyType) : Trims (Rc.bodyTypes type).carrier := by
  cases type
  all_goals
    apply Trims.of_class
    intro m
    simp [encode, trimmed]

instance (type : Sse.BodyType) : Trims (Sse.bodyTypes type).carrier := by
  cases type
  all_goals
    apply Trims.of_class
    intro m
    simp [encode, trimmed, Function.comp_def]

instance (type : Szse.ExtendType) : Trims (Szse.extendTypes type).carrier := by
  cases type
  all_goals
    apply Trims.of_class
    intro m
    simp [encode, trimmed]

instance (type : Szse.BodyType) : Trims (Szse.bodyTypes type).carrier := by
  cases type
  all_goals
    apply Trims.of_class
    intro m
    simp [encode, trimmed, Object.encode_trimmed]

instance (type : Root.BodyType) : Trims (Root.bodyTypes type).carrier := by
  cases type
  all_goals
    apply Trims.of_class
    intro m
    simp [encode, trimmed]

end FinProto
