import FinProto.Bjse.Binary
import FinProto.Bjse.Trading
import FinProto.Walk

/-! The layouts of `bjse_binary.hpp`. -/
namespace FinProto.Bjse

open Wire

def extendLayout : ExtendType → Layout UInt8
  | .extendNewOrder010 => .fixed 22 .done
  | .extendNewOrder040 => .fixed 20 .done
  | .extendNewOrder041 => .done
  | .extendNewOrder042 => .done
  | .extendNewOrder043 => .done
  | .extendNewOrder044 => .done
  | .extendNewOrder045 => .done
  | .extendNewOrder050 => .fixed 5 .done
  | .confirmExtend010 => .fixed 20 .done
  | .confirmExtend040 => .fixed 20 .done
  | .confirmExtend041 => .done
  | .confirmExtend042 => .done
  | .confirmExtend043 => .done
  | .confirmExtend044 => .done
  | .confirmExtend045 => .done
  | .confirmExtend050 => .fixed 5 .done
  | .reportExtend010 => .fixed 3 .done
  | .reportExtend040 => .fixed 1 .done
  | .reportExtend050 => .fixed 9 .done
  | .quoteExtend070 => .fixed 159 .done
  | .quoteExtend071 => .done
  | .quoteStatusReportExtend070 => .fixed 182 (.list (announced UInt16) (.fixed 26 .done) .done)
  | .quoteResponseExtend070 => .fixed 1 .done
  | .allegeQuoteExtend070 => .fixed 7 .done
  | .tradeCaptureReportExtend031 => .fixed 145 .done
  | .tradeCaptureReportExtend051 => .fixed 5 .done
  | .tradeCaptureReportExtend060 => .done
  | .tradeCaptureReportExtend061 => .done
  | .tradeCaptureReportExtend062 => .fixed 1 .done
  | .tradeCaptureReportAckExtend031 => .fixed 145 .done
  | .tradeCaptureReportAckExtend051 => .fixed 5 .done
  | .tradeCaptureReportAckExtend060 => .done
  | .tradeCaptureReportAckExtend061 => .done
  | .tradeCaptureReportAckExtend062 => .fixed 1 .done
  | .tradeCaptureConfirmExtend031 => .fixed 145 .done
  | .tradeCaptureConfirmExtend051 => .fixed 9 .done
  | .tradeCaptureConfirmExtend060 => .done
  | .tradeCaptureConfirmExtend061 => .done
  | .tradeCaptureConfirmExtend062 => .fixed 1 .done

def bodyLayout : BodyType → Layout UInt8
  | .logon => .fixed 92 .done
  | .logout => .fixed 204 .done
  | .heartbeat => .done
  | .newOrder => extended extendLayout 106 newOrderMessageFactory
  | .orderCancelRequest => .fixed 121 .done
  | .cancelReject => .fixed 150 .done
  | .executionConfirm => reportExtended extendLayout 174 executionConfirmMessageFactory
  | .executionReport => reportExtended extendLayout 157 executionReportMessageFactory
  | .reportSynchronization => .list (announced UInt16) (.fixed 12 .done) .done
  | .platformStateInfo => .fixed 4 .done
  | .reportFinished => .fixed 14 .done

/-- The message classes no factory creates. -/
inductive UnlistedType where
  | businessReject | tradingSessionStatus | platformInfo | quote | quoteStatusReport
  | quoteResponse | allegeQuote | allegeQuoteResponse | tradeCaptureReport
  | tradeCaptureReportAck | tradeCaptureConfirm
  deriving DecidableEq

def unlistedTypes : UnlistedType → MessageType
  | .businessReject => ⟨BusinessReject⟩
  | .tradingSessionStatus => ⟨TradingSessionStatus⟩
  | .platformInfo => ⟨PlatformInfo⟩
  | .quote => ⟨Quote⟩
  | .quoteStatusReport => ⟨QuoteStatusReport⟩
  | .quoteResponse => ⟨QuoteResponse⟩
  | .allegeQuote => ⟨AllegeQuote⟩
  | .allegeQuoteResponse => ⟨AllegeQuoteResponse⟩
  | .tradeCaptureReport => ⟨TradeCaptureReport⟩
  | .tradeCaptureReportAck => ⟨TradeCaptureReportAck⟩
  | .tradeCaptureConfirm => ⟨TradeCaptureConfirm⟩

def unlistedLayout : UnlistedType → Layout UInt8
  | .businessReject => .fixed 103 .done
  | .tradingSessionStatus => .fixed 21 .done
  | .platformInfo => .fixed 2 (.list (announced UInt16) (.fixed 24 .done) .done)
  | .quote => extended extendLayout 125 quoteMessageFactory
  | .quoteStatusReport => reportExtended extendLayout 139 quoteStatusReportMessageFactory
  | .quoteResponse => .choose 3 fun bytes => .fixed 112 (.list (announced UInt16) (.fixed 26 .done)
    (created extendLayout quoteResponseMessageFactory (trimPad bytes space false)))
  | .allegeQuote => reportExtended extendLayout 313 allegeQuoteMessageFactory
  | .allegeQuoteResponse => .fixed 183 .done
  | .tradeCaptureReport => extended extendLayout 146 tradeCaptureReportMessageFactory
  | .tradeCaptureReportAck => reportExtended extendLayout 188 tradeCaptureReportAckMessageFactory
  | .tradeCaptureConfirm => reportExtended extendLayout 174 tradeCaptureConfirmMessageFactory

/-- The layout of the body registered for a key. -/
def keyed (msgType : UInt32) : Layout UInt8 :=
  created bodyLayout bjseBinaryMessageFactory msgType

def frameLayout : Layout UInt8 :=
  .choose 4 fun msgType =>
    .skip 4 ((keyed (Scalar.fromLe UInt32 msgType)).andThen (.fixed 4 .done))

/-- No message of the protocol holds a dynamic string. -/
theorem textless_frame : frameLayout.Textless := by
  have extensions : ∀ type, (extendLayout type).Textless := by
    intro type
    cases type <;> simp [extendLayout, Layout.Textless]
  have bodies : ∀ type, (bodyLayout type).Textless := by
    intro type
    cases type
    case newOrder | executionConfirm | executionReport => exact textless_extended extensions _ _
    all_goals simp [bodyLayout, Layout.Textless]
  intro msgType
  exact Layout.textless_skip 4 (Layout.textless_andThen (textless_created bodies _ _) trivial)

instance along_quote1 : Along (decode (M := Quote1)) (.fixed 26 .done) := by
  apply Along.written
  case along =>
    repeat (apply Along.next; intro _)
    exact Along.pure _
  case same => rfl

instance along_reportPartitionSync :
    Along (decode (M := ReportPartitionSync)) (.fixed 12 .done) := by
  apply Along.written
  case along =>
    repeat (apply Along.next; intro _)
    exact Along.pure _
  case same => rfl

instance along_noPartitions : Along (decode (M := NoPartitions)) (.fixed 24 .done) := by
  apply Along.written
  case along =>
    repeat (apply Along.next; intro _)
    exact Along.pure _
  case same => rfl

theorem along_extend (type : ExtendType) :
    Along (decode (M := (extendTypes type).carrier)) (extendLayout type) := by
  cases type
  all_goals
    apply Along.written
    case along =>
      repeat (apply Along.next; intro _)
      exact Along.pure _
    case same => rfl

instance along_extension (factory : MessageFactory Bytes ExtendType) (applId : Bytes) :
    Along (factory.create applId >>= Object.decode extendTypes)
      (created extendLayout factory applId) :=
  along_create factory along_extend applId

theorem along_body (type : BodyType) :
    Along (decode (M := (bodyTypes type).carrier)) (bodyLayout type) := by
  cases type
  case newOrder =>
    dsimp only [bodyTypes]
    apply along_extended
    intro applId
    apply Along.written
    case along =>
      repeat
        first
        | with_reducible apply Along.last
        | apply Along.next; intro _
    case same => simp only [Layout.andThen, Layout.skip_skip]
  case executionConfirm | executionReport =>
    dsimp only [bodyTypes]
    apply along_reportExtended
    intro partitionNo reportIndex applId
    apply Along.written
    case along =>
      repeat
        first
        | with_reducible apply Along.last
        | apply Along.next; intro _
    case same => simp only [Layout.andThen, Layout.skip_skip]
  all_goals
    apply Along.written
    case along =>
      repeat (apply Along.next; intro _)
      exact Along.pure _
    case same => rfl

theorem along_frame : Along (decode (M := BjseBinary)) frameLayout := by
  have body : ∀ msgType, Along
      (bjseBinaryMessageFactory.create msgType >>= Object.decode bodyTypes) (keyed msgType) :=
    along_create bjseBinaryMessageFactory along_body
  apply along_key UInt32 (fun msgType => .skip 4 ((keyed msgType).andThen (.fixed 4 .done)))
  intro msgType
  apply Along.written
  case along => exact .next fun _ => .next fun _ => .last _
  case same => simp only [Layout.andThen]

/-! ### The classes no factory creates -/

theorem along_unlisted (type : UnlistedType) :
    Along (decode (M := (unlistedTypes type).carrier)) (unlistedLayout type) := by
  cases type
  case quote | tradeCaptureReport =>
    dsimp only [unlistedTypes]
    apply along_extended
    intro applId
    apply Along.written
    case along =>
      repeat
        first
        | with_reducible apply Along.last
        | apply Along.next; intro _
    case same => simp only [Layout.andThen, Layout.skip_skip]
  case quoteStatusReport | allegeQuote | tradeCaptureReportAck | tradeCaptureConfirm =>
    dsimp only [unlistedTypes]
    apply along_reportExtended
    intro partitionNo reportIndex applId
    apply Along.written
    case along =>
      repeat
        first
        | with_reducible apply Along.last
        | apply Along.next; intro _
    case same => simp only [Layout.andThen, Layout.skip_skip]
  -- its `applExtend` comes behind a list, not behind a run of bytes
  case quoteResponse =>
    dsimp only [unlistedTypes]
    apply along_stringKey 3 (fun applId => .fixed 112 (.list (announced UInt16) (.fixed 26 .done)
      (created extendLayout quoteResponseMessageFactory applId)))
    intro applId
    apply Along.written
    case along =>
      repeat
        first
        | with_reducible apply Along.last
        | apply Along.next; intro _
    case same => rfl
  all_goals
    apply Along.written
    case along =>
      repeat (apply Along.next; intro _)
      exact Along.pure _
    case same => rfl

end FinProto.Bjse
