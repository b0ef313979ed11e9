import FinProto.Walk
import FinProto.Sse.Binary

/-! The layouts of `sse_binary.hpp`. -/
namespace FinProto.Sse

open Wire

def bodyLayout : BodyType → Layout UInt8
  | .heartbeat => .done
  | .logon => .fixed 82 .done
  | .logout => .fixed 68 .done
  | .newOrderSingle => .fixed 125 .done
  | .orderCancel => .fixed 107 .done
  | .confirm => .fixed 213 .done
  | .cancelReject => .fixed 120 .done
  | .report => .fixed 213 .done
  | .orderReject => .fixed 82 .done
  | .platformState => .fixed 4 .done
  | .execRptInfo => .fixed 2 (.list (announced UInt16) (.fixed 8 .done)
    (.list (announced UInt16) (.fixed 4 .done) .done))
  | .execRptSync => .list (announced UInt16) (.fixed 20 .done) .done
  | .execRptSyncRsp => .list (announced UInt16) (.fixed 96 .done) .done
  | .execRptEndOfStream => .fixed 20 .done

/-- The layout of the body registered for a key. -/
def keyed (msgType : UInt32) : Layout UInt8 :=
  created bodyLayout sseBinaryMessageFactory msgType

def frameLayout : Layout UInt8 :=
  .choose 4 fun msgType =>
    .skip 12 ((keyed (Scalar.fromLe UInt32 msgType)).andThen (.fixed 4 .done))

/-- No message of the protocol holds a dynamic string. -/
theorem textless_frame : frameLayout.Textless := by
  have bodies : ∀ type, (bodyLayout type).Textless := by
    intro type
    cases type <;> simp [bodyLayout, Layout.Textless]
  intro msgType
  exact Layout.textless_skip 12 (Layout.textless_andThen (textless_created bodies _ _) trivial)

instance along_subExecRptSync :
    Along (decode (M := SubExecRptSync)) (.fixed 20 .done) := by
  apply Along.written
  case along =>
    repeat (apply Along.next; intro _)
    exact Along.pure _
  case same => rfl

instance along_subExecRptSyncRsp :
    Along (decode (M := SubExecRptSyncRsp)) (.fixed 96 .done) := by
  apply Along.written
  case along =>
    repeat (apply Along.next; intro _)
    exact Along.pure _
  case same => rfl

theorem along_body (type : BodyType) :
    Along (decode (M := (bodyTypes type).carrier)) (bodyLayout type) := by
  cases type
  all_goals
    apply Along.written
    case along =>
      repeat (apply Along.next; intro _)
      exact Along.pure _
    case same => rfl

theorem along_frame : Along SseBinary.decode frameLayout := by
  have body : ∀ msgType, Along
      (sseBinaryMessageFactory.create msgType >>= Object.decode bodyTypes) (keyed msgType) :=
    along_create sseBinaryMessageFactory along_body
  apply along_key UInt32 (fun msgType => .skip 12 ((keyed msgType).andThen (.fixed 4 .done)))
  intro msgType
  apply Along.written
  case along => exact .next fun _ => .next fun _ => .next fun _ => .last _
  case same => simp only [Layout.andThen, Layout.skip_skip]

end FinProto.Sse
