import FinProto.Message

/-! The message bodies of `rc_binary.hpp` and the factory that creates them. -/
namespace FinProto.Rc

open Wire

structure NewOrder where
  (uniqueOrderId clOrdId securityId side : Bytes)
  (price orderQty : UInt64)
  (ordType account : Bytes)

instance : Message NewOrder where
  encode m := .seq [
    writeString UInt32 m.uniqueOrderId, writeString UInt32 m.clOrdId,
    writeString UInt32 m.securityId, writeFixedString m.side 1, writeU64 m.price,
    writeU64 m.orderQty, writeFixedString m.ordType 1, writeString UInt32 m.account]
  decode := return {
    uniqueOrderId := ← readString UInt32, clOrdId := ← readString UInt32,
    securityId := ← readString UInt32, side := ← readFixedString 1, price := ← readU64,
    orderQty := ← readU64, ordType := ← readFixedString 1, account := ← readString UInt32 }
  equals m o :=
    m.uniqueOrderId == o.uniqueOrderId && m.clOrdId == o.clOrdId &&
    m.securityId == o.securityId && m.side == o.side && m.price == o.price &&
    m.orderQty == o.orderQty && m.ordType == o.ordType && m.account == o.account
  trimmed m := { m with side := rtrim 1 m.side, ordType := rtrim 1 m.ordType }
  fits m :=
    FitsPrefix UInt32 m.uniqueOrderId.length ∧ FitsPrefix UInt32 m.clOrdId.length ∧
    FitsPrefix UInt32 m.securityId.length ∧ FitsPrefix UInt32 m.account.length
  roundTrip := .record
    (.field NewOrder.uniqueOrderId fun _ => .field NewOrder.clOrdId fun _ =>
    .field NewOrder.securityId fun _ => .field NewOrder.side fun _ =>
    .field NewOrder.price fun _ => .field NewOrder.orderQty fun _ =>
    .field NewOrder.ordType fun _ => .field NewOrder.account fun _ =>
    .done fun m => by cases m; simp [and_assoc])
    (fun m => by cases m; constructor <;> simp +contextual [Anything]) (fun _ => rfl)
    (fun _ => by simp) (fun _ => by simp) (fun _ => by simp)

structure OrderConfirm where
  (uniqueOrderId uniqueOrigOrderId clOrdId execType : Bytes)
  ordRejReason : UInt32
  ordCnfmId : Bytes

instance : Message OrderConfirm where
  encode m := .seq [
    writeString UInt32 m.uniqueOrderId, writeString UInt32 m.uniqueOrigOrderId,
    writeString UInt32 m.clOrdId, writeFixedString m.execType 1, writeU32 m.ordRejReason,
    writeString UInt32 m.ordCnfmId]
  decode := return {
    uniqueOrderId := ← readString UInt32, uniqueOrigOrderId := ← readString UInt32,
    clOrdId := ← readString UInt32, execType := ← readFixedString 1, ordRejReason := ← readU32,
    ordCnfmId := ← readString UInt32 }
  equals m o :=
    m.uniqueOrderId == o.uniqueOrderId && m.uniqueOrigOrderId == o.uniqueOrigOrderId &&
    m.clOrdId == o.clOrdId && m.execType == o.execType && m.ordRejReason == o.ordRejReason &&
    m.ordCnfmId == o.ordCnfmId
  trimmed m := { m with execType := rtrim 1 m.execType }
  fits m :=
    FitsPrefix UInt32 m.uniqueOrderId.length ∧ FitsPrefix UInt32 m.uniqueOrigOrderId.length ∧
    FitsPrefix UInt32 m.clOrdId.length ∧ FitsPrefix UInt32 m.ordCnfmId.length
  roundTrip := .record
    (.field OrderConfirm.uniqueOrderId fun _ => .field OrderConfirm.uniqueOrigOrderId fun _ =>
    .field OrderConfirm.clOrdId fun _ => .field OrderConfirm.execType fun _ =>
    .field OrderConfirm.ordRejReason fun _ => .field OrderConfirm.ordCnfmId fun _ =>
    .done fun m => by cases m; simp [and_assoc])
    (fun m => by cases m; constructor <;> simp +contextual [Anything]) (fun _ => rfl)
    (fun _ => by simp) (fun _ => by simp) (fun _ => by simp)

structure ExecutionReport where
  (uniqueOrderId clOrdId ordCnfmId : Bytes)
  (lastPx lastQty : UInt64)
  ordStatus : Bytes

instance : Message ExecutionReport where
  encode m := .seq [
    writeString UInt32 m.uniqueOrderId, writeString UInt32 m.clOrdId,
    writeString UInt32 m.ordCnfmId, writeU64 m.lastPx, writeU64 m.lastQty,
    writeFixedString m.ordStatus 1]
  decode := return {
    uniqueOrderId := ← readString UInt32, clOrdId := ← readString UInt32,
    ordCnfmId := ← readString UInt32, lastPx := ← readU64, lastQty := ← readU64,
    ordStatus := ← readFixedString 1 }
  equals m o :=
    m.uniqueOrderId == o.uniqueOrderId && m.clOrdId == o.clOrdId &&
    m.ordCnfmId == o.ordCnfmId && m.lastPx == o.lastPx && m.lastQty == o.lastQty &&
    m.ordStatus == o.ordStatus
  trimmed m := { m with ordStatus := rtrim 1 m.ordStatus }
  fits m :=
    FitsPrefix UInt32 m.uniqueOrderId.length ∧ FitsPrefix UInt32 m.clOrdId.length ∧
    FitsPrefix UInt32 m.ordCnfmId.length
  roundTrip := .record
    (.field ExecutionReport.uniqueOrderId fun _ => .field ExecutionReport.clOrdId fun _ =>
    .field ExecutionReport.ordCnfmId fun _ => .field ExecutionReport.lastPx fun _ =>
    .field ExecutionReport.lastQty fun _ => .field ExecutionReport.ordStatus fun _ =>
    .done fun m => by cases m; simp [and_assoc])
    (fun m => by cases m; constructor <;> simp +contextual [Anything]) (fun _ => rfl)
    (fun _ => by simp) (fun _ => by simp) (fun _ => by simp)

structure OrderCancel where
  (uniqueOrderId uniqueOrigOrderId clOrdId origClOrdId securityId : Bytes)

instance : Message OrderCancel where
  encode m := .seq [
    writeString UInt32 m.uniqueOrderId, writeString UInt32 m.uniqueOrigOrderId,
    writeString UInt32 m.clOrdId, writeString UInt32 m.origClOrdId,
    writeString UInt32 m.securityId]
  decode := return {
    uniqueOrderId := ← readString UInt32, uniqueOrigOrderId := ← readString UInt32,
    clOrdId := ← readString UInt32, origClOrdId := ← readString UInt32,
    securityId := ← readString UInt32 }
  equals m o :=
    m.uniqueOrderId == o.uniqueOrderId && m.uniqueOrigOrderId == o.uniqueOrigOrderId &&
    m.clOrdId == o.clOrdId && m.origClOrdId == o.origClOrdId && m.securityId == o.securityId
  fits m :=
    FitsPrefix UInt32 m.uniqueOrderId.length ∧ FitsPrefix UInt32 m.uniqueOrigOrderId.length ∧
    FitsPrefix UInt32 m.clOrdId.length ∧ FitsPrefix UInt32 m.origClOrdId.length ∧
    FitsPrefix UInt32 m.securityId.length
  roundTrip := .record
    (.field OrderCancel.uniqueOrderId fun _ => .field OrderCancel.uniqueOrigOrderId fun _ =>
    .field OrderCancel.clOrdId fun _ => .field OrderCancel.origClOrdId fun _ =>
    .field OrderCancel.securityId fun _ => .done fun m => by cases m; simp [and_assoc])
    (fun m => by cases m; simp) (fun _ => rfl)
    (fun _ => rfl) (fun _ => rfl) (fun _ => Iff.rfl)

structure CancelReject where
  (uniqueOrderId uniqueOrigOrderId clOrdId origClOrdId : Bytes)
  cxlRejReason : UInt32

instance : Message CancelReject where
  encode m := .seq [
    writeString UInt32 m.uniqueOrderId, writeString UInt32 m.uniqueOrigOrderId,
    writeString UInt32 m.clOrdId, writeString UInt32 m.origClOrdId, writeU32 m.cxlRejReason]
  decode := return {
    uniqueOrderId := ← readString UInt32, uniqueOrigOrderId := ← readString UInt32,
    clOrdId := ← readString UInt32, origClOrdId := ← readString UInt32,
    cxlRejReason := ← readU32 }
  equals m o :=
    m.uniqueOrderId == o.uniqueOrderId && m.uniqueOrigOrderId == o.uniqueOrigOrderId &&
    m.clOrdId == o.clOrdId && m.origClOrdId == o.origClOrdId && m.cxlRejReason == o.cxlRejReason
  fits m :=
    FitsPrefix UInt32 m.uniqueOrderId.length ∧ FitsPrefix UInt32 m.uniqueOrigOrderId.length ∧
    FitsPrefix UInt32 m.clOrdId.length ∧ FitsPrefix UInt32 m.origClOrdId.length
  roundTrip := .record
    (.field CancelReject.uniqueOrderId fun _ => .field CancelReject.uniqueOrigOrderId fun _ =>
    .field CancelReject.clOrdId fun _ => .field CancelReject.origClOrdId fun _ =>
    .field CancelReject.cxlRejReason fun _ => .done fun m => by cases m; simp [and_assoc])
    (fun m => by cases m; simp [Anything]) (fun _ => rfl)
    (fun _ => rfl) (fun _ => rfl) (fun _ => Iff.rfl)

structure RiskResult where
  uniqueOrderId : Bytes
  riskStatus : UInt8
  riskReason : Bytes

instance : Message RiskResult where
  encode m := .seq [
    writeString UInt32 m.uniqueOrderId, writeU8 m.riskStatus, writeString UInt32 m.riskReason]
  decode := return {
    uniqueOrderId := ← readString UInt32, riskStatus := ← readU8,
    riskReason := ← readString UInt32 }
  equals m o :=
    m.uniqueOrderId == o.uniqueOrderId && m.riskStatus == o.riskStatus &&
    m.riskReason == o.riskReason
  fits m := FitsPrefix UInt32 m.uniqueOrderId.length ∧ FitsPrefix UInt32 m.riskReason.length
  roundTrip := .record
    (.field RiskResult.uniqueOrderId fun _ => .field RiskResult.riskStatus fun _ =>
    .field RiskResult.riskReason fun _ => .done fun m => by cases m; simp [and_assoc])
    (fun m => by cases m; simp [Anything]) (fun _ => rfl)
    (fun _ => rfl) (fun _ => rfl) (fun _ => Iff.rfl)

/-- The classes `RcBinaryMessageFactory` creates. -/
inductive BodyType where
  | newOrder | orderConfirm | executionReport | orderCancel | cancelReject | riskResult
  deriving DecidableEq

def bodyTypes : BodyType → MessageType
  | .newOrder => ⟨NewOrder⟩
  | .orderConfirm => ⟨OrderConfirm⟩
  | .executionReport => ⟨ExecutionReport⟩
  | .orderCancel => ⟨OrderCancel⟩
  | .cancelReject => ⟨CancelReject⟩
  | .riskResult => ⟨RiskResult⟩

/-- `std::unique_ptr<codec::BinaryCodec> body`. -/
abbrev Body := Object bodyTypes

def rcBinaryMessageFactory : MessageFactory UInt32 BodyType := .registering [
  (100101, .newOrder), (200102, .orderConfirm), (200115, .executionReport),
  (190007, .orderCancel), (290008, .cancelReject), (800001, .riskResult)]

end FinProto.Rc
