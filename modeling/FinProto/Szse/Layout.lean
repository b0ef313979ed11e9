import FinProto.Walk
import FinProto.Szse.Binary

/-! The layouts of `szse_binary.hpp`. -/
namespace FinProto.Szse

open Wire

def extendLayout : ExtendType → Layout UInt8
  | .extend100101 => .fixed 20 .done
  | .extend100201 => .fixed 19 .done
  | .extend100301 => .fixed 19 .done
  | .extend100501 => .fixed 9 .done
  | .extend100601 => .fixed 1 .done
  | .extend100701 => .fixed 5 .done
  | .extend101501 => .fixed 2 .done
  | .extend101601 => .fixed 6 .done
  | .extend101701 => .fixed 8 .done
  | .extend101801 => .fixed 6 .done
  | .extend102701 => .fixed 18 .done
  | .extend102801 => .fixed 18 .done
  | .extend102901 => .fixed 18 .done
  | .extend106301 => .fixed 20 .done
  | .extend103501 => .fixed 6 .done
  | .extend103701 => .fixed 1 .done
  | .extend104101 => .fixed 20 .done
  | .extend104128 => .fixed 359 .done
  | .extend104701 => .fixed 16 .done
  | .extend101401 => .fixed 43 .done
  | .extend200102 => .fixed 20 .done
  | .extend200202 => .fixed 19 .done
  | .extend200302 => .fixed 19 .done
  | .extend200502 => .fixed 9 .done
  | .extend200602 => .fixed 1 .done
  | .extend200702 => .fixed 5 .done
  | .extend201502 => .fixed 2 .done
  | .extend201602 => .fixed 6 .done
  | .extend201702 => .fixed 8 .done
  | .extend201802 => .fixed 6 .done
  | .extend202702 => .fixed 18 .done
  | .extend202802 => .fixed 18 .done
  | .extend202902 => .fixed 18 .done
  | .extend206302 => .fixed 40 (.text (announced UInt32) .done)
  | .extend203502 => .fixed 6 .done
  | .extend203702 => .fixed 1 .done
  | .extend204102 => .fixed 20 .done
  | .extend204129 => .fixed 359 .done
  | .extend204702 => .fixed 16 .done
  | .extend200402 => .fixed 43 .done
  | .extend201202 => .fixed 40 .done
  | .extend203102 => .fixed 32 .done
  | .extend200115 => .fixed 1 .done
  | .extend200215 => .fixed 4 .done
  | .extend200315 => .fixed 4 .done
  | .extend200515 => .fixed 9 .done
  | .extend200615 => .fixed 1 .done
  | .extend200715 => .fixed 9 .done
  | .extend206315 => .fixed 1 .done
  | .extend203715 => .fixed 1 .done
  | .extend204115 => .fixed 150 .done
  | .extend204130 => .fixed 476 .done
  | .extend204715 => .fixed 9 .done
  | .extend200415 => .fixed 24 .done

def bodyLayout : BodyType → Layout UInt8
  | .logon => .fixed 92 .done
  | .logout => .fixed 204 .done
  | .heartbeat => .done
  | .newOrder => extended extendLayout 86 newOrderMessageFactory
  | .executionConfirm => reportExtended extendLayout 164 executionConfirmMessageFactory
  | .executionReport => reportExtended extendLayout 147 executionReportMessageFactory
  | .orderCancelRequest => .fixed 86 .done
  | .cancelReject => .fixed 115 .done
  | .businessReject => .fixed 103 .done
  | .reportSynchronization => .list (announced UInt32) (.fixed 12 .done) .done
  | .platformStateInfo => .fixed 4 .done
  | .reportFinished => .fixed 14 .done
  | .platformPartition => .fixed 4 .done
  | .tradingSessionStatus => .fixed 42 .done

/-- `PlatformInfo`, which no factory creates. -/
def platformInfoLayout : Layout UInt8 :=
  .fixed 2 (.list (announced UInt32) (.fixed 4 .done) .done)

/-- The layout of the body registered for a key. -/
def keyed (msgType : UInt32) : Layout UInt8 :=
  created bodyLayout szseBinaryMessageFactory msgType

def frameLayout : Layout UInt8 :=
  .choose 4 fun msgType =>
    .skip 4 ((keyed (Scalar.fromLe UInt32 msgType)).andThen (.fixed 4 .done))

theorem along_extend (type : ExtendType) :
    Along (decode (M := (extendTypes type).carrier)) (extendLayout type) := by
  cases type
  all_goals
    apply Along.written
    case along =>
      repeat (apply Along.next; intro _)
      exact Along.pure _
    case same => rfl

instance along_extension (factory : MessageFactory Bytes ExtendType) (applId : Bytes) :
    Along (factory.create applId >>= Object.decode extendTypes)
      (created extendLayout factory applId) :=
  along_create factory along_extend applId

instance along_partitionReport :
    Along (decode (M := PartitionReport)) (.fixed 12 .done) := by
  apply Along.written
  case along =>
    repeat (apply Along.next; intro _)
    exact Along.pure _
  case same => rfl

instance along_platformPartition :
    Along (decode (M := PlatformPartition)) (.fixed 4 .done) := by
  apply Along.written
  case along =>
    repeat (apply Along.next; intro _)
    exact Along.pure _
  case same => rfl

theorem along_body (type : BodyType) :
    Along (decode (M := (bodyTypes type).carrier)) (bodyLayout type) := by
  cases type
  case newOrder =>
    dsimp only [bodyTypes]
    apply along_extended
    intro applId
    apply Along.written
    case along =>
      repeat
        first
        | with_reducible apply Along.last
        | apply Along.next; intro _
    case same => simp only [Layout.andThen, Layout.skip_skip]
  case executionConfirm | executionReport =>
    dsimp only [bodyTypes]
    apply along_reportExtended
    intro partitionNo reportIndex applId
    apply Along.written
    case along =>
      repeat
        first
        | with_reducible apply Along.last
        | apply Along.next; intro _
    case same => simp only [Layout.andThen, Layout.skip_skip]
  all_goals
    apply Along.written
    case along =>
      repeat (apply Along.next; intro _)
      exact Along.pure _
    case same => rfl

theorem along_platformInfo : Along (decode (M := PlatformInfo)) platformInfoLayout := by
  apply Along.written
  case along =>
    repeat (apply Along.next; intro _)
    exact Along.pure _
  case same => rfl

theorem along_frame : Along SzseBinary.decode frameLayout := by
  have body : ∀ msgType, Along
      (szseBinaryMessageFactory.create msgType >>= Object.decode bodyTypes) (keyed msgType) :=
    along_create szseBinaryMessageFactory along_body
  apply along_key UInt32 (fun msgType => .skip 4 ((keyed msgType).andThen (.fixed 4 .done)))
  intro msgType
  apply Along.written
  case along => exact .next fun _ => .next fun _ => .last _
  case same => simp only [Layout.andThen]

end FinProto.Szse
