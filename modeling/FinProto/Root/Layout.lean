import FinProto.Walk
import FinProto.Root.Packet

/-! The layouts of `root_packet.hpp`. -/
namespace FinProto.Root

open Wire

/-- A list of elements of a fixed width behind a 16-bit count. -/
def fixedList (width : Nat) (next : Layout UInt8) : Layout UInt8 :=
  .list (announced UInt16) (.fixed width .done) next

def subPacketLayout : Layout UInt8 := .fixed 4 (fixedList 2 .done)

def bodyLayout : BodyType → Layout UInt8
  | .basicPacket => .fixed 43 (fixedList 1 (fixedList 2 (fixedList 4 (fixedList 8 (fixedList 1
    (fixedList 1 (fixedList 2 (fixedList 4 (fixedList 8 (fixedList 4 (fixedList 8 .done)))))))))))
  | .stringPacket => .text (announced UInt16) (.text (announced UInt16) (.fixed 21
    (.list (announced UInt16) (.text (announced UInt16) .done)
    (.list (announced UInt16) (.text (announced UInt16) .done)
    (fixedList 1 (fixedList 10 (fixedList 10 .done)))))))
  | .nestedPacket => .fixed 4 (fixedList 2 (.list (announced UInt16) subPacketLayout
    (.fixed 4 (fixedList 2 .done))))
  | .emptyPacket => .done

/-- The layout of the payload registered for a key. -/
def keyed (msgType : UInt16) : Layout UInt8 :=
  created bodyLayout rootPacketMessageFactory msgType

def frameLayout : Layout UInt8 :=
  .choose 2 fun msgType =>
    .skip 4 ((keyed (Scalar.fromLe UInt16 msgType)).andThen (.fixed 4 .done))

instance along_subPacket : Along (decode (M := SubPacket)) subPacketLayout := by
  apply Along.written
  case along => exact .next fun _ => .last _
  case same => rfl

instance along_inerPacket : Along (decode (M := InerPacket)) subPacketLayout := by
  apply Along.written
  case along => exact .next fun _ => .last _
  case same => rfl

theorem along_body (type : BodyType) :
    Along (decode (M := (bodyTypes type).carrier)) (bodyLayout type) := by
  cases type
  all_goals
    apply Along.written
    case along =>
      repeat (apply Along.next; intro _)
      exact Along.pure _
    case same => rfl

theorem along_frame : Along RootPacket.decode frameLayout := by
  have body : ∀ msgType, Along
      (rootPacketMessageFactory.create msgType >>= Object.decode bodyTypes) (keyed msgType) :=
    along_create rootPacketMessageFactory along_body
  apply along_key UInt16 (fun msgType => .skip 4 ((keyed msgType).andThen (.fixed 4 .done)))
  intro msgType
  apply Along.written
  case along => exact .next fun _ => .next fun _ => .last _
  case same => simp only [Layout.andThen]

end FinProto.Root
