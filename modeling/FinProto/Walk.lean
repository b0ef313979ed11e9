import FinProto.Layouts

/-! How decodes are put together. `Along` has one rule for each way, with the layout it goes
along: what every rule keeps holds of every decode. -/
namespace FinProto

open Wire

/-- What `create` throws for a key without a registration. -/
def unknownType : Fault := .runtimeError "No such message type"

/-- A decoder put together from the reads of a `ByteBuf`, and its layout. -/
class inductive Along : {α : Type} → Decoder α → outParam (Layout UInt8) → Prop where
  | pure {α : Type} (a : α) : Along (pure a : Decoder α) .done
  | stopped {α β : Type} (k : α → Decoder β) : Along (Reader.throw unknownType >>= k) .stop
  | byte {α : Type} (f : UInt8 → α) : Along (readByte f) (.fixed 1 .done)
  | bytes (n : Nat) [NeZero n] : Along (readBytes n) (.fixed n .done)
  | scalar (T : Type) [Scalar T] [NeZero (Scalar.size T)] :
    Along (readLe T) (.fixed (Scalar.size T) .done)
  | text (T : Type) [Scalar T] [NeZero (Scalar.size T)] :
    Along (readStringLe T) (.text (announced T) .done)
  | list (T : Type) [Scalar T] [NeZero (Scalar.size T)] {α : Type} {p : Decoder α}
    {layout : Layout UInt8} (element : Along p layout) :
    Along (readCounted (readLe T) p) (.list (announced T) layout .done)
  | map {α β : Type} {p : Decoder α} {layout : Layout UInt8} (along : Along p layout)
    (g : α → β) : Along (g <$> p) layout
  | bind {α β : Type} {p : Decoder α} {k : α → Decoder β} {layout after : Layout UInt8}
    (first : Along p layout) (second : ∀ a, Along (k a) after) :
    Along (p >>= k) (layout.andThen after)
  /-- The second is selected by the value of the first. -/
  | choose {α β : Type} {p : Decoder α} {n : Nat} {f : Bytes → α} {k : α → Decoder β}
    {next : α → Layout UInt8} (takes : Takes p n f) (first : Along p (.fixed n .done))
    (second : ∀ a, Along (k a) (next a)) :
    Along (p >>= k) (.choose n fun bytes => next (f bytes))

namespace Along
variable {p : Decoder α} {k : α → Decoder β} {layout after : Layout UInt8}

/-- The layout found for a decoder, written out. -/
theorem written {found : Layout UInt8} (along : Along p found) (same : found = layout) :
    Along p layout := by
  rwa [← same]

/-- Reading a field and then the rest. -/
theorem next [first : Along p layout] (second : ∀ a, Along (k a) after) :
    Along (p >>= k) (layout.andThen after) :=
  .bind first second

/-- Reading the last field of a record. -/
theorem last [along : Along p layout] (g : α → β) :
    Along (p >>= fun a => Pure.pure (g a)) layout := by
  rw [bind_pure_comp]
  exact .map along g

theorem follows {watch : Watch ByteBuf Access} [Watched watch] (along : Along p layout) :
    Follows watch p layout := by
  induction along with
  | pure a => exact .pure a
  | stopped k => exact .stopped _
  | byte f => exact .fixed takes_walk
  | bytes n => exact .fixed (takes_readBytes n)
  | scalar T => exact follows_readLe T
  | text T => exact follows_readStringLe T
  | list T element ih => exact follows_readCounted T
  | map along g ih => exact .map g
  | bind first second ih ih' => exact .next ih'
  | choose takes first second ih ih' =>
    have silent := ih.quiet
    exact .choose takes ih'

end Along

/-! ## The readers -/

instance : NeZero (Scalar.size UInt8) := inferInstanceAs (NeZero 1)
instance : NeZero (Scalar.size UInt16) := inferInstanceAs (NeZero 2)
instance : NeZero (Scalar.size UInt32) := inferInstanceAs (NeZero 4)
instance : NeZero (Scalar.size UInt64) := inferInstanceAs (NeZero 8)
instance : NeZero (Scalar.size Int8) := inferInstanceAs (NeZero 1)
instance : NeZero (Scalar.size Int16) := inferInstanceAs (NeZero 2)
instance : NeZero (Scalar.size Int32) := inferInstanceAs (NeZero 4)
instance : NeZero (Scalar.size Int64) := inferInstanceAs (NeZero 8)
instance : NeZero (Scalar.size F32) := inferInstanceAs (NeZero 4)
instance : NeZero (Scalar.size F64) := inferInstanceAs (NeZero 8)

attribute [instance] Along.byte Along.bytes Along.scalar Along.text

section
variable (T K M : Type) [Scalar T] [Scalar K] [BinaryCodec M] [NeZero (Scalar.size T)]
  [NeZero (Scalar.size K)] (n : Nat) [NeZero n] (trimPadChar : UInt8) (padLeft : Bool)

instance along_read : Along (read T false) (.fixed (Scalar.size T) .done) := .scalar T

instance along_readFixedStringPad :
    Along (readFixedStringPad n trimPadChar padLeft) (.fixed n .done) := by
  rw [readFixedStringPad_eq]
  exact .map (.bytes n) _

instance along_readFixedString : Along (readFixedString n) (.fixed n .done) :=
  along_readFixedStringPad n space false

instance along_readString : Along (readString T) (.text (announced T) .done) := .text T

instance along_readCounted {p : Decoder α} [element : Along p layout] :
    Along (readCounted (readLe T) p) (.list (announced T) layout .done) :=
  .list T element

instance : Along (readStringListLe T K) (.list (announced T) (.text (announced K) .done) .done) :=
  along_readCounted T

instance : Along (readStringList T K) (.list (announced T) (.text (announced K) .done) .done) :=
  along_readCounted T

instance : Along (readFixedStringListLePad T n trimPadChar padLeft)
    (.list (announced T) (.fixed n .done) .done) := along_readCounted T

instance : Along (readFixedStringListPad T n trimPadChar padLeft)
    (.list (announced T) (.fixed n .done) .done) := along_readCounted T

instance : Along (readFixedStringList T n) (.list (announced T) (.fixed n .done) .done) :=
  along_readCounted T

instance : Along (readBasicTypeLe T K)
    (.list (announced T) (.fixed (Scalar.size K) .done) .done) := along_readCounted T

instance : Along (readBasicType T K)
    (.list (announced T) (.fixed (Scalar.size K) .done) .done) := along_readCounted T

instance [Along (decode (M := M)) layout] : Along (readObjectListLe T M)
    (.list (announced T) layout .done) := along_readCounted T

instance [Along (decode (M := M)) layout] : Along (readObjectList T M)
    (.list (announced T) layout .done) := along_readCounted T

/-- Reading a key and what it selects. -/
theorem along_key {k : T → Decoder α} (next : T → Layout UInt8)
    (second : ∀ key, Along (k key) (next key)) :
    Along (readLe T >>= k) (.choose (Scalar.size T) fun bytes => next (Scalar.fromLe T bytes)) :=
  .choose (takes_readLe T) (.scalar T) second

/-- Reading a string that selects what comes next. -/
theorem along_stringKey {k : Bytes → Decoder α} (next : Bytes → Layout UInt8)
    (second : ∀ key, Along (k key) (next key)) :
    Along (readFixedString n >>= k) (.choose n fun bytes => next (trimPad bytes space false)) :=
  .choose (p := readFixedStringPad n space false) (takes_readFixedStringPad n space false)
    (along_readFixedString n) second

end

instance : Along readU8 (.fixed 1 .done) := .byte id
instance : Along readI8 (.fixed 1 .done) := .byte UInt8.toInt8
instance : Along readU16 (.fixed 2 .done) := .scalar UInt16
instance : Along readU32 (.fixed 4 .done) := .scalar UInt32
instance : Along readU64 (.fixed 8 .done) := .scalar UInt64
instance : Along readI16 (.fixed 2 .done) := .scalar Int16
instance : Along readI32 (.fixed 4 .done) := .scalar Int32
instance : Along readI64 (.fixed 8 .done) := .scalar Int64
instance : Along readU16Le (.fixed 2 .done) := .scalar UInt16
instance : Along readU32Le (.fixed 4 .done) := .scalar UInt32
instance : Along readU64Le (.fixed 8 .done) := .scalar UInt64
instance : Along readI16Le (.fixed 2 .done) := .scalar Int16
instance : Along readI32Le (.fixed 4 .done) := .scalar Int32
instance : Along readI64Le (.fixed 8 .done) := .scalar Int64
instance : Along readF32Le (.fixed 4 .done) := .scalar F32
instance : Along readF64Le (.fixed 8 .done) := .scalar F64

/-! ## Objects -/

section
variable {Key Tag : Type} [BEq Key] {types : Tag → MessageType} {layout : Tag → Layout UInt8}

instance along_object (type : Tag)
    [along : Along (decode (M := (types type).carrier)) format] :
    Along (Object.decode types type) format :=
  .map along (Object.mk type)

/-- Creating an object by key and decoding into it goes along the layout of its class. -/
theorem along_create (factory : MessageFactory Key Tag)
    (classes : ∀ type, Along (decode (M := (types type).carrier)) (layout type)) (key : Key) :
    Along (factory.create key >>= Object.decode types) (created layout factory key) := by
  rw [MessageFactory.create, created]
  cases factory.find key with
  | none => exact Along.stopped _
  | some type =>
    rw [pure_bind]
    exact along_object type

end

section
variable {Tag : Type} {layout : Tag → Layout UInt8} {between : Nat}
  {factory : MessageFactory Bytes Tag}

theorem along_extended {k : Bytes → Decoder α}
    (second : ∀ applId, Along (k applId) (.skip between (created layout factory applId))) :
    Along (readFixedString 3 >>= k) (extended layout between factory) :=
  along_stringKey 3 _ second

theorem along_reportExtended {p : Decoder Int32} {q : Decoder Int64}
    [Along p (.fixed 4 .done)] [Along q (.fixed 8 .done)] {k : Int32 → Int64 → Bytes → Decoder α}
    (second : ∀ partitionNo reportIndex applId, Along (k partitionNo reportIndex applId)
      (.skip between (created layout factory applId))) :
    Along (p >>= fun partitionNo => q >>= fun reportIndex =>
      readFixedString 3 >>= k partitionNo reportIndex) (reportExtended layout between factory) := by
  apply Along.written
  case along => exact .next fun _ => .next fun _ => along_extended (second _ _)
  case same => rfl

end

end FinProto
