import FinProto.Walk
import FinProto.Rc.Binary

/-! The layouts of `rc_binary.hpp`. -/
namespace FinProto.Rc

open Wire

def bodyLayout : BodyType → Layout UInt8
  | .newOrder => .text (announced UInt32) (.text (announced UInt32) (.text (announced UInt32)
    (.fixed 18 (.text (announced UInt32) .done))))
  | .orderConfirm => .text (announced UInt32) (.text (announced UInt32) (.text (announced UInt32)
    (.fixed 5 (.text (announced UInt32) .done))))
  | .executionReport => .text (announced UInt32) (.text (announced UInt32)
    (.text (announced UInt32) (.fixed 17 .done)))
  | .orderCancel => .text (announced UInt32) (.text (announced UInt32) (.text (announced UInt32)
    (.text (announced UInt32) (.text (announced UInt32) .done))))
  | .cancelReject => .text (announced UInt32) (.text (announced UInt32) (.text (announced UInt32)
    (.text (announced UInt32) (.fixed 4 .done))))
  | .riskResult => .text (announced UInt32) (.fixed 1 (.text (announced UInt32) .done))

/-- The layout of the body registered for a key. -/
def keyed (msgType : UInt32) : Layout UInt8 :=
  created bodyLayout rcBinaryMessageFactory msgType

def frameLayout : Layout UInt8 :=
  .choose 4 fun msgType => .skip 8 (keyed (Scalar.fromLe UInt32 msgType))

theorem along_body (type : BodyType) :
    Along (decode (M := (bodyTypes type).carrier)) (bodyLayout type) := by
  cases type
  all_goals
    apply Along.written
    case along =>
      repeat (apply Along.next; intro _)
      exact Along.pure _
    case same => rfl

theorem along_frame : Along RcBinary.decode frameLayout := by
  have body : ∀ msgType, Along
      (rcBinaryMessageFactory.create msgType >>= Object.decode bodyTypes) (keyed msgType) :=
    along_create rcBinaryMessageFactory along_body
  apply along_key UInt32 (fun msgType => .skip 8 (keyed msgType))
  intro msgType
  apply Along.written
  case along => exact .next fun _ => .next fun _ => .last _
  case same => simp only [Layout.andThen, Layout.skip_skip]

end FinProto.Rc
