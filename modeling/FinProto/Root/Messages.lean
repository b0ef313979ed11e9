import FinProto.Message

/-! The payloads of `root_packet.hpp` and the factory that creates them. -/
namespace FinProto.Root

open Wire

structure BasicPacket where
  fieldI8 : Int8
  fieldI16 : Int16
  fieldI32 : Int32
  fieldI64 : Int64
  fieldChar : Bytes
  fieldU8 : UInt8
  fieldU16 : UInt16
  fieldU32 : UInt32
  fieldU64 : UInt64
  fieldF32 : F32
  fieldF64 : F64
  fieldI8List : List Int8
  fieldI16List : List Int16
  fieldI32List : List Int32
  fieldI64List : List Int64
  fieldCharList : List Bytes
  fieldU8List : List UInt8
  fieldU16List : List UInt16
  fieldU32List : List UInt32
  fieldU64List : List UInt64
  fieldF32List : List F32
  fieldF64List : List F64

instance : Message BasicPacket where
  encode m := .seq [
    writeI8 m.fieldI8, writeI16Le m.fieldI16, writeI32Le m.fieldI32, writeI64Le m.fieldI64,
    writeFixedStringPad m.fieldChar 1 zeroChar true, writeU8 m.fieldU8, writeU16Le m.fieldU16,
    writeU32Le m.fieldU32, writeU64Le m.fieldU64, writeF32Le m.fieldF32, writeF64Le m.fieldF64,
    writeBasicTypeLe UInt16 Int8 m.fieldI8List, writeBasicTypeLe UInt16 Int16 m.fieldI16List,
    writeBasicTypeLe UInt16 Int32 m.fieldI32List, writeBasicTypeLe UInt16 Int64 m.fieldI64List,
    writeFixedStringListLePad UInt16 m.fieldCharList 1 zeroChar true,
    writeBasicTypeLe UInt16 UInt8 m.fieldU8List, writeBasicTypeLe UInt16 UInt16 m.fieldU16List,
    writeBasicTypeLe UInt16 UInt32 m.fieldU32List,
    writeBasicTypeLe UInt16 UInt64 m.fieldU64List, writeBasicTypeLe UInt16 F32 m.fieldF32List,
    writeBasicTypeLe UInt16 F64 m.fieldF64List]
  decode := return {
    fieldI8 := ← readI8, fieldI16 := ← readI16Le, fieldI32 := ← readI32Le,
    fieldI64 := ← readI64Le, fieldChar := ← readFixedStringPad 1 zeroChar true,
    fieldU8 := ← readU8, fieldU16 := ← readU16Le, fieldU32 := ← readU32Le,
    fieldU64 := ← readU64Le, fieldF32 := ← readF32Le, fieldF64 := ← readF64Le,
    fieldI8List := ← readBasicTypeLe UInt16 Int8,
    fieldI16List := ← readBasicTypeLe UInt16 Int16,
    fieldI32List := ← readBasicTypeLe UInt16 Int32,
    fieldI64List := ← readBasicTypeLe UInt16 Int64,
    fieldCharList := ← readFixedStringListLePad UInt16 1 zeroChar true,
    fieldU8List := ← readBasicTypeLe UInt16 UInt8,
    fieldU16List := ← readBasicTypeLe UInt16 UInt16,
    fieldU32List := ← readBasicTypeLe UInt16 UInt32,
    fieldU64List := ← readBasicTypeLe UInt16 UInt64,
    fieldF32List := ← readBasicTypeLe UInt16 F32, fieldF64List := ← readBasicTypeLe UInt16 F64 }
  equals m o :=
    m.fieldI8 == o.fieldI8 && m.fieldI16 == o.fieldI16 && m.fieldI32 == o.fieldI32 &&
    m.fieldI64 == o.fieldI64 && m.fieldChar == o.fieldChar && m.fieldU8 == o.fieldU8 &&
    m.fieldU16 == o.fieldU16 && m.fieldU32 == o.fieldU32 && m.fieldU64 == o.fieldU64 &&
    m.fieldF32 == o.fieldF32 && m.fieldF64 == o.fieldF64 && m.fieldI8List == o.fieldI8List &&
    m.fieldI16List == o.fieldI16List && m.fieldI32List == o.fieldI32List &&
    m.fieldI64List == o.fieldI64List && m.fieldCharList == o.fieldCharList &&
    m.fieldU8List == o.fieldU8List && m.fieldU16List == o.fieldU16List &&
    m.fieldU32List == o.fieldU32List && m.fieldU64List == o.fieldU64List &&
    m.fieldF32List == o.fieldF32List && m.fieldF64List == o.fieldF64List
  trimmed m := { m with
    fieldChar := cut 1 zeroChar true m.fieldChar,
    fieldCharList := m.fieldCharList.map (cut 1 zeroChar true) }
  fits m :=
    FitsPrefix UInt16 m.fieldI8List.length ∧ FitsPrefix UInt16 m.fieldI16List.length ∧
    FitsPrefix UInt16 m.fieldI32List.length ∧ FitsPrefix UInt16 m.fieldI64List.length ∧
    FitsPrefix UInt16 m.fieldCharList.length ∧ FitsPrefix UInt16 m.fieldU8List.length ∧
    FitsPrefix UInt16 m.fieldU16List.length ∧ FitsPrefix UInt16 m.fieldU32List.length ∧
    FitsPrefix UInt16 m.fieldU64List.length ∧ FitsPrefix UInt16 m.fieldF32List.length ∧
    FitsPrefix UInt16 m.fieldF64List.length
  roundTrip := .record
    (.field BasicPacket.fieldI8 fun _ => .field BasicPacket.fieldI16 fun _ =>
    .field BasicPacket.fieldI32 fun _ => .field BasicPacket.fieldI64 fun _ =>
    .field BasicPacket.fieldChar fun _ => .field BasicPacket.fieldU8 fun _ =>
    .field BasicPacket.fieldU16 fun _ => .field BasicPacket.fieldU32 fun _ =>
    .field BasicPacket.fieldU64 fun _ => .field BasicPacket.fieldF32 fun _ =>
    .field BasicPacket.fieldF64 fun _ => .field BasicPacket.fieldI8List fun _ =>
    .field BasicPacket.fieldI16List fun _ => .field BasicPacket.fieldI32List fun _ =>
    .field BasicPacket.fieldI64List fun _ => .field BasicPacket.fieldCharList fun _ =>
    .field BasicPacket.fieldU8List fun _ => .field BasicPacket.fieldU16List fun _ =>
    .field BasicPacket.fieldU32List fun _ => .field BasicPacket.fieldU64List fun _ =>
    .field BasicPacket.fieldF32List fun _ => .field BasicPacket.fieldF64List fun _ =>
    .done fun m => by cases m; simp [and_assoc])
    (fun m => by cases m; constructor <;> simp +contextual [Anything]) (fun _ => rfl)
    (fun _ => by simp) (fun _ => by simp) (fun _ => by simp)

structure StringPacket where
  (fieldDynamicString fieldDynamicString1 fieldFixedString1 fieldFixedString10 : Bytes)
  fieldFixedString10Pad : Bytes
  (fieldDynamicStringList fieldDynamicString1List fieldFixedString1List : List Bytes)
  (fieldFixedString10List fieldFixedString10ListPad : List Bytes)

instance : Message StringPacket where
  encode m := .seq [
    writeStringLe UInt16 m.fieldDynamicString, writeStringLe UInt16 m.fieldDynamicString1,
    writeFixedStringPad m.fieldFixedString1 1 zeroChar true,
    writeFixedStringPad m.fieldFixedString10 10 zeroChar true,
    writeFixedStringPad m.fieldFixedString10Pad 10 space true,
    writeStringListLe UInt16 UInt16 m.fieldDynamicStringList,
    writeStringListLe UInt16 UInt16 m.fieldDynamicString1List,
    writeFixedStringListLePad UInt16 m.fieldFixedString1List 1 zeroChar true,
    writeFixedStringListLePad UInt16 m.fieldFixedString10List 10 zeroChar true,
    writeFixedStringListLePad UInt16 m.fieldFixedString10ListPad 10 zeroChar false]
  decode := return {
    fieldDynamicString := ← readStringLe UInt16, fieldDynamicString1 := ← readStringLe UInt16,
    fieldFixedString1 := ← readFixedStringPad 1 zeroChar true,
    fieldFixedString10 := ← readFixedStringPad 10 zeroChar true,
    fieldFixedString10Pad := ← readFixedStringPad 10 space true,
    fieldDynamicStringList := ← readStringListLe UInt16 UInt16,
    fieldDynamicString1List := ← readStringListLe UInt16 UInt16,
    fieldFixedString1List := ← readFixedStringListLePad UInt16 1 zeroChar true,
    fieldFixedString10List := ← readFixedStringListLePad UInt16 10 zeroChar true,
    fieldFixedString10ListPad := ← readFixedStringListLePad UInt16 10 zeroChar false }
  equals m o :=
    m.fieldDynamicString == o.fieldDynamicString &&
    m.fieldDynamicString1 == o.fieldDynamicString1 &&
    m.fieldFixedString1 == o.fieldFixedString1 &&
    m.fieldFixedString10 == o.fieldFixedString10 &&
    m.fieldFixedString10Pad == o.fieldFixedString10Pad &&
    m.fieldDynamicStringList == o.fieldDynamicStringList &&
    m.fieldDynamicString1List == o.fieldDynamicString1List &&
    m.fieldFixedString1List == o.fieldFixedString1List &&
    m.fieldFixedString10List == o.fieldFixedString10List &&
    m.fieldFixedString10ListPad == o.fieldFixedString10ListPad
  trimmed m := { m with
    fieldFixedString1 := cut 1 zeroChar true m.fieldFixedString1,
    fieldFixedString10 := cut 10 zeroChar true m.fieldFixedString10,
    fieldFixedString10Pad := cut 10 space true m.fieldFixedString10Pad,
    fieldFixedString1List := m.fieldFixedString1List.map (cut 1 zeroChar true),
    fieldFixedString10List := m.fieldFixedString10List.map (cut 10 zeroChar true),
    fieldFixedString10ListPad := m.fieldFixedString10ListPad.map (cut 10 zeroChar false) }
  fits m :=
    FitsPrefix UInt16 m.fieldDynamicString.length ∧
    FitsPrefix UInt16 m.fieldDynamicString1.length ∧
    FitsPrefix UInt16 m.fieldDynamicStringList.length ∧
    (∀ s ∈ m.fieldDynamicStringList, FitsPrefix UInt16 s.length) ∧
    FitsPrefix UInt16 m.fieldDynamicString1List.length ∧
    (∀ s ∈ m.fieldDynamicString1List, FitsPrefix UInt16 s.length) ∧
    FitsPrefix UInt16 m.fieldFixedString1List.length ∧
    FitsPrefix UInt16 m.fieldFixedString10List.length ∧
    FitsPrefix UInt16 m.fieldFixedString10ListPad.length
  roundTrip := .record
    (.field StringPacket.fieldDynamicString fun _ =>
    .field StringPacket.fieldDynamicString1 fun _ =>
    .field StringPacket.fieldFixedString1 fun _ =>
    .field StringPacket.fieldFixedString10 fun _ =>
    .field StringPacket.fieldFixedString10Pad fun _ =>
    .field StringPacket.fieldDynamicStringList fun _ =>
    .field StringPacket.fieldDynamicString1List fun _ =>
    .field StringPacket.fieldFixedString1List fun _ =>
    .field StringPacket.fieldFixedString10List fun _ =>
    .field StringPacket.fieldFixedString10ListPad fun _ =>
    .done fun m => by cases m; simp [and_assoc])
    (fun m => by cases m; constructor <;> simp +contextual) (fun _ => rfl)
    (fun _ => by simp) (fun _ => by simp) (fun _ => by simp)

structure SubPacket where
  fieldU32 : UInt32
  fieldI16List : List Int16

instance : Message SubPacket where
  encode m := .seq [writeU32Le m.fieldU32, writeBasicTypeLe UInt16 Int16 m.fieldI16List]
  decode := return { fieldU32 := ← readU32Le, fieldI16List := ← readBasicTypeLe UInt16 Int16 }
  equals m o := m.fieldU32 == o.fieldU32 && m.fieldI16List == o.fieldI16List
  fits m := FitsPrefix UInt16 m.fieldI16List.length
  roundTrip := .record
    (.field SubPacket.fieldU32 fun _ => .field SubPacket.fieldI16List fun _ =>
    .done fun m => by cases m; simp)
    (fun m => by cases m; simp [Anything]) (fun _ => rfl)
    (fun _ => rfl) (fun _ => rfl) (fun _ => Iff.rfl)

structure InerPacket where
  fieldU32 : UInt32
  fieldI16List : List Int16

instance : Message InerPacket where
  encode m := .seq [writeU32Le m.fieldU32, writeBasicTypeLe UInt16 Int16 m.fieldI16List]
  decode := return { fieldU32 := ← readU32Le, fieldI16List := ← readBasicTypeLe UInt16 Int16 }
  equals m o := m.fieldU32 == o.fieldU32 && m.fieldI16List == o.fieldI16List
  fits m := FitsPrefix UInt16 m.fieldI16List.length
  roundTrip := .record
    (.field InerPacket.fieldU32 fun _ => .field InerPacket.fieldI16List fun _ =>
    .done fun m => by cases m; simp)
    (fun m => by cases m; simp [Anything]) (fun _ => rfl)
    (fun _ => rfl) (fun _ => rfl) (fun _ => Iff.rfl)

structure NestedPacket where
  subPacket : SubPacket
  subPacketList : List SubPacket
  inerPacket : InerPacket

instance : Message NestedPacket where
  encode m := .seq [
    encode m.subPacket, writeObjectListLe UInt16 m.subPacketList, encode m.inerPacket]
  decode := return {
    subPacket := ← decode (M := SubPacket),
    subPacketList := ← readObjectListLe UInt16 SubPacket,
    inerPacket := ← decode (M := InerPacket) }
  equals m o :=
    m.subPacket == o.subPacket && m.subPacketList == o.subPacketList &&
    m.inerPacket == o.inerPacket
  trimmed m := {
    subPacket := trimmed m.subPacket, subPacketList := m.subPacketList.map trimmed,
    inerPacket := trimmed m.inerPacket }
  fits m :=
    fits m.subPacket ∧ FitsPrefix UInt16 m.subPacketList.length ∧
    (∀ o ∈ m.subPacketList, fits o) ∧ fits m.inerPacket
  roundTrip := .record
    (.field NestedPacket.subPacket fun _ => .field NestedPacket.subPacketList fun _ =>
    .field NestedPacket.inerPacket fun _ => .done fun m => by cases m; simp [and_assoc])
    (fun m => by cases m; constructor <;> simp +contextual) (fun _ => rfl)
    (fun _ => by simp) (fun _ => by simp) (fun _ => by simp)

structure EmptyPacket where

instance : Message EmptyPacket where
  encode _ := .seq []
  decode := return {}
  equals _ _ := true
  roundTrip := .record
    (.done fun m => by cases m; simp)
    (fun m => by cases m; simp) (fun _ => rfl)
    (fun _ => rfl) (fun _ => rfl) (fun _ => Iff.rfl)

/-- The classes `RootPacketMessageFactory` creates. -/
inductive BodyType where
  | basicPacket | stringPacket | nestedPacket | emptyPacket
  deriving DecidableEq

def bodyTypes : BodyType → MessageType
  | .basicPacket => ⟨BasicPacket⟩
  | .stringPacket => ⟨StringPacket⟩
  | .nestedPacket => ⟨NestedPacket⟩
  | .emptyPacket => ⟨EmptyPacket⟩

/-- `std::unique_ptr<codec::BinaryCodec> payload`. -/
abbrev Body := Object bodyTypes

def rootPacketMessageFactory : MessageFactory UInt16 BodyType := .registering [
  (1, .basicPacket), (2, .stringPacket), (3, .nestedPacket), (4, .emptyPacket)]

end FinProto.Root
