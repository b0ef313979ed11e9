import FinProto.Message

/-! The `applExtend` classes of `bjse_binary.hpp` and the factories that create them. -/
namespace FinProto.Bjse

open Wire

structure ExtendNewOrder010 where
  (stopPx minQty : Int64)
  maxPriceLevels : UInt16
  (timeInForce cashMargin settlType settlPeriod : Bytes)

instance : Message ExtendNewOrder010 where
  encode m := .seq [
    writeI64Le m.stopPx, writeI64Le m.minQty, writeU16Le m.maxPriceLevels,
    writeFixedString m.timeInForce 1, writeFixedString m.cashMargin 1,
    writeFixedString m.settlType 1, writeFixedString m.settlPeriod 1]
  decode := return {
    stopPx := ← readI64Le, minQty := ← readI64Le, maxPriceLevels := ← readU16Le,
    timeInForce := ← readFixedString 1, cashMargin := ← readFixedString 1,
    settlType := ← readFixedString 1, settlPeriod := ← readFixedString 1 }
  equals m o :=
    m.stopPx == o.stopPx && m.minQty == o.minQty && m.maxPriceLevels == o.maxPriceLevels &&
    m.timeInForce == o.timeInForce && m.cashMargin == o.cashMargin &&
    m.settlType == o.settlType && m.settlPeriod == o.settlPeriod
  trimmed m := { m with
    timeInForce := rtrim 1 m.timeInForce, cashMargin := rtrim 1 m.cashMargin,
    settlType := rtrim 1 m.settlType, settlPeriod := rtrim 1 m.settlPeriod }
  roundTrip := .record
    (.field ExtendNewOrder010.stopPx fun _ => .field ExtendNewOrder010.minQty fun _ =>
    .field ExtendNewOrder010.maxPriceLevels fun _ =>
    .field ExtendNewOrder010.timeInForce fun _ => .field ExtendNewOrder010.cashMargin fun _ =>
    .field ExtendNewOrder010.settlType fun _ => .field ExtendNewOrder010.settlPeriod fun _ =>
    .done fun m => by cases m; simp [and_assoc])
    (fun m => by cases m; simp [Anything]) (fun _ => rfl)
    (fun _ => by simp) (fun _ => by simp) (fun _ => Iff.rfl)

structure ExtendNewOrder040 where
  (stopPx minQty : Int64)
  maxPriceLevels : UInt16
  (timeInForce cashMargin : Bytes)

instance : Message ExtendNewOrder040 where
  encode m := .seq [
    writeI64Le m.stopPx, writeI64Le m.minQty, writeU16Le m.maxPriceLevels,
    writeFixedString m.timeInForce 1, writeFixedString m.cashMargin 1]
  decode := return {
    stopPx := ← readI64Le, minQty := ← readI64Le, maxPriceLevels := ← readU16Le,
    timeInForce := ← readFixedString 1, cashMargin := ← readFixedString 1 }
  equals m o :=
    m.stopPx == o.stopPx && m.minQty == o.minQty && m.maxPriceLevels == o.maxPriceLevels &&
    m.timeInForce == o.timeInForce && m.cashMargin == o.cashMargin
  trimmed m := { m with
    timeInForce := rtrim 1 m.timeInForce, cashMargin := rtrim 1 m.cashMargin }
  roundTrip := .record
    (.field ExtendNewOrder040.stopPx fun _ => .field ExtendNewOrder040.minQty fun _ =>
    .field ExtendNewOrder040.maxPriceLevels fun _ =>
    .field ExtendNewOrder040.timeInForce fun _ => .field ExtendNewOrder040.cashMargin fun _ =>
    .done fun m => by cases m; simp [and_assoc])
    (fun m => by cases m; simp [Anything]) (fun _ => rfl)
    (fun _ => by simp) (fun _ => by simp) (fun _ => Iff.rfl)

structure ExtendNewOrder041 where

instance : Message ExtendNewOrder041 where
  encode _ := .seq []
  decode := return {}
  equals _ _ := true
  roundTrip := .record
    (.done fun m => by cases m; simp)
    (fun m => by cases m; simp) (fun _ => rfl)
    (fun _ => rfl) (fun _ => rfl) (fun _ => Iff.rfl)

/-- Declared with the fields and layout of an earlier class; `ExtendType` tells the classes apart. -/
abbrev ExtendNewOrder042 := ExtendNewOrder041

abbrev ExtendNewOrder043 := ExtendNewOrder041

abbrev ExtendNewOrder044 := ExtendNewOrder041

abbrev ExtendNewOrder045 := ExtendNewOrder041

structure ExtendNewOrder050 where
  expirationDays : UInt16
  expirationType : UInt8
  shareProperty : Bytes

instance : Message ExtendNewOrder050 where
  encode m := .seq [
    writeU16Le m.expirationDays, writeU8 m.expirationType, writeFixedString m.shareProperty 2]
  decode := return {
    expirationDays := ← readU16Le, expirationType := ← readU8,
    shareProperty := ← readFixedString 2 }
  equals m o :=
    m.expirationDays == o.expirationDays && m.expirationType == o.expirationType &&
    m.shareProperty == o.shareProperty
  trimmed m := { m with shareProperty := rtrim 2 m.shareProperty }
  roundTrip := .record
    (.field ExtendNewOrder050.expirationDays fun _ =>
    .field ExtendNewOrder050.expirationType fun _ =>
    .field ExtendNewOrder050.shareProperty fun _ => .done fun m => by cases m; simp [and_assoc])
    (fun m => by cases m; simp [Anything]) (fun _ => rfl)
    (fun _ => by simp) (fun _ => by simp) (fun _ => Iff.rfl)

abbrev ConfirmExtend010 := ExtendNewOrder040

abbrev ConfirmExtend040 := ExtendNewOrder040

abbrev ConfirmExtend041 := ExtendNewOrder041

abbrev ConfirmExtend042 := ExtendNewOrder041

abbrev ConfirmExtend043 := ExtendNewOrder041

abbrev ConfirmExtend044 := ExtendNewOrder041

abbrev ConfirmExtend045 := ExtendNewOrder041

abbrev ConfirmExtend050 := ExtendNewOrder050

structure ReportExtend010 where
  (cashMargin settlType settlPeriod : Bytes)

instance : Message ReportExtend010 where
  encode m := .seq [
    writeFixedString m.cashMargin 1, writeFixedString m.settlType 1,
    writeFixedString m.settlPeriod 1]
  decode := return {
    cashMargin := ← readFixedString 1, settlType := ← readFixedString 1,
    settlPeriod := ← readFixedString 1 }
  equals m o :=
    m.cashMargin == o.cashMargin && m.settlType == o.settlType && m.settlPeriod == o.settlPeriod
  trimmed m := {
    cashMargin := rtrim 1 m.cashMargin, settlType := rtrim 1 m.settlType,
    settlPeriod := rtrim 1 m.settlPeriod }
  roundTrip := .record
    (.field ReportExtend010.cashMargin fun _ => .field ReportExtend010.settlType fun _ =>
    .field ReportExtend010.settlPeriod fun _ => .done fun m => by cases m; simp [and_assoc])
    (fun m => by cases m; simp) (fun _ => rfl)
    (fun _ => by simp) (fun _ => by simp) (fun _ => Iff.rfl)

structure ReportExtend040 where
  cashMargin : Bytes

instance : Message ReportExtend040 where
  encode m := .seq [writeFixedString m.cashMargin 1]
  decode := return { cashMargin := ← readFixedString 1 }
  equals m o := m.cashMargin == o.cashMargin
  trimmed m := { cashMargin := rtrim 1 m.cashMargin }
  roundTrip := .record
    (.field ReportExtend040.cashMargin fun _ => .done fun m => by cases m; simp)
    (fun m => by cases m; simp) (fun _ => rfl)
    (fun _ => by simp) (fun _ => by simp) (fun _ => Iff.rfl)

structure ReportExtend050 where
  expirationDays : UInt16
  expirationType : UInt8
  maturityDate : UInt32
  shareProperty : Bytes

instance : Message ReportExtend050 where
  encode m := .seq [
    writeU16Le m.expirationDays, writeU8 m.expirationType, writeU32Le m.maturityDate,
    writeFixedString m.shareProperty 2]
  decode := return {
    expirationDays := ← readU16Le, expirationType := ← readU8, maturityDate := ← readU32Le,
    shareProperty := ← readFixedString 2 }
  equals m o :=
    m.expirationDays == o.expirationDays && m.expirationType == o.expirationType &&
    m.maturityDate == o.maturityDate && m.shareProperty == o.shareProperty
  trimmed m := { m with shareProperty := rtrim 2 m.shareProperty }
  roundTrip := .record
    (.field ReportExtend050.expirationDays fun _ =>
    .field ReportExtend050.expirationType fun _ => .field ReportExtend050.maturityDate fun _ =>
    .field ReportExtend050.shareProperty fun _ => .done fun m => by cases m; simp [and_assoc])
    (fun m => by cases m; simp [Anything]) (fun _ => rfl)
    (fun _ => by simp) (fun _ => by simp) (fun _ => Iff.rfl)

structure QuoteExtend070 where
  (branchId quoteId quoteRespId : Bytes)
  privateQuote : UInt8
  validUntilTime : Int64
  priceType : UInt8
  (cashMargin counterPartyPbuid memo : Bytes)

instance : Message QuoteExtend070 where
  encode m := .seq [
    writeFixedString m.branchId 2, writeFixedString m.quoteId 10,
    writeFixedString m.quoteRespId 10, writeU8 m.privateQuote, writeI64Le m.validUntilTime,
    writeU8 m.priceType, writeFixedString m.cashMargin 1,
    writeFixedString m.counterPartyPbuid 6, writeFixedString m.memo 120]
  decode := return {
    branchId := ← readFixedString 2, quoteId := ← readFixedString 10,
    quoteRespId := ← readFixedString 10, privateQuote := ← readU8,
    validUntilTime := ← readI64Le, priceType := ← readU8, cashMargin := ← readFixedString 1,
    counterPartyPbuid := ← readFixedString 6, memo := ← readFixedString 120 }
  equals m o :=
    m.branchId == o.branchId && m.quoteId == o.quoteId && m.quoteRespId == o.quoteRespId &&
    m.privateQuote == o.privateQuote && m.validUntilTime == o.validUntilTime &&
    m.priceType == o.priceType && m.cashMargin == o.cashMargin &&
    m.counterPartyPbuid == o.counterPartyPbuid && m.memo == o.memo
  trimmed m := { m with
    branchId := rtrim 2 m.branchId, quoteId := rtrim 10 m.quoteId,
    quoteRespId := rtrim 10 m.quoteRespId, cashMargin := rtrim 1 m.cashMargin,
    counterPartyPbuid := rtrim 6 m.counterPartyPbuid, memo := rtrim 120 m.memo }
  roundTrip := .record
    (.field QuoteExtend070.branchId fun _ => .field QuoteExtend070.quoteId fun _ =>
    .field QuoteExtend070.quoteRespId fun _ => .field QuoteExtend070.privateQuote fun _ =>
    .field QuoteExtend070.validUntilTime fun _ => .field QuoteExtend070.priceType fun _ =>
    .field QuoteExtend070.cashMargin fun _ => .field QuoteExtend070.counterPartyPbuid fun _ =>
    .field QuoteExtend070.memo fun _ => .done fun m => by cases m; simp [and_assoc])
    (fun m => by cases m; simp [Anything]) (fun _ => rfl)
    (fun _ => by simp) (fun _ => by simp) (fun _ => Iff.rfl)

abbrev QuoteExtend071 := ExtendNewOrder041

structure Quote1 where
  quoteId : Bytes
  (quotePrice quoteQty : Int64)

instance : Message Quote1 where
  encode m := .seq [
    writeFixedString m.quoteId 10, writeI64Le m.quotePrice, writeI64Le m.quoteQty]
  decode := return {
    quoteId := ← readFixedString 10, quotePrice := ← readI64Le, quoteQty := ← readI64Le }
  equals m o :=
    m.quoteId == o.quoteId && m.quotePrice == o.quotePrice && m.quoteQty == o.quoteQty
  trimmed m := { m with quoteId := rtrim 10 m.quoteId }
  roundTrip := .record
    (.field Quote1.quoteId fun _ => .field Quote1.quotePrice fun _ =>
    .field Quote1.quoteQty fun _ => .done fun m => by cases m; simp [and_assoc])
    (fun m => by cases m; simp [Anything]) (fun _ => rfl)
    (fun _ => by simp) (fun _ => by simp) (fun _ => Iff.rfl)

structure QuoteStatusReportExtend070 where
  (branchId orderId execId quoteRespId : Bytes)
  privateQuote : UInt8
  side : Bytes
  priceType : UInt8
  validUntilTime : Int64
  (cashMargin counterPartyPbuid memo : Bytes)
  quote1 : List Quote1

instance : Message QuoteStatusReportExtend070 where
  encode m := .seq [
    writeFixedString m.branchId 2, writeFixedString m.orderId 16, writeFixedString m.execId 16,
    writeFixedString m.quoteRespId 10, writeU8 m.privateQuote, writeFixedString m.side 1,
    writeU8 m.priceType, writeI64Le m.validUntilTime, writeFixedString m.cashMargin 1,
    writeFixedString m.counterPartyPbuid 6, writeFixedString m.memo 120,
    writeObjectListLe UInt16 m.quote1]
  decode := return {
    branchId := ← readFixedString 2, orderId := ← readFixedString 16,
    execId := ← readFixedString 16, quoteRespId := ← readFixedString 10,
    privateQuote := ← readU8, side := ← readFixedString 1, priceType := ← readU8,
    validUntilTime := ← readI64Le, cashMargin := ← readFixedString 1,
    counterPartyPbuid := ← readFixedString 6, memo := ← readFixedString 120,
    quote1 := ← readObjectListLe UInt16 Quote1 }
  equals m o :=
    m.branchId == o.branchId && m.orderId == o.orderId && m.execId == o.execId &&
    m.quoteRespId == o.quoteRespId && m.privateQuote == o.privateQuote && m.side == o.side &&
    m.priceType == o.priceType && m.validUntilTime == o.validUntilTime &&
    m.cashMargin == o.cashMargin && m.counterPartyPbuid == o.counterPartyPbuid &&
    m.memo == o.memo && m.quote1 == o.quote1
  trimmed m := { m with
    branchId := rtrim 2 m.branchId, orderId := rtrim 16 m.orderId, execId := rtrim 16 m.execId,
    quoteRespId := rtrim 10 m.quoteRespId, side := rtrim 1 m.side,
    cashMargin := rtrim 1 m.cashMargin, counterPartyPbuid := rtrim 6 m.counterPartyPbuid,
    memo := rtrim 120 m.memo, quote1 := m.quote1.map trimmed }
  fits m := FitsPrefix UInt16 m.quote1.length ∧ (∀ o ∈ m.quote1, fits o)
  roundTrip := .record
    (.field QuoteStatusReportExtend070.branchId fun _ =>
    .field QuoteStatusReportExtend070.orderId fun _ =>
    .field QuoteStatusReportExtend070.execId fun _ =>
    .field QuoteStatusReportExtend070.quoteRespId fun _ =>
    .field QuoteStatusReportExtend070.privateQuote fun _ =>
    .field QuoteStatusReportExtend070.side fun _ =>
    .field QuoteStatusReportExtend070.priceType fun _ =>
    .field QuoteStatusReportExtend070.validUntilTime fun _ =>
    .field QuoteStatusReportExtend070.cashMargin fun _ =>
    .field QuoteStatusReportExtend070.counterPartyPbuid fun _ =>
    .field QuoteStatusReportExtend070.memo fun _ =>
    .field QuoteStatusReportExtend070.quote1 fun _ =>
    .done fun m => by cases m; simp [and_assoc])
    (fun m => by cases m; simp [Anything, and_assoc]) (fun _ => rfl)
    (fun _ => by simp) (fun _ => by simp) (fun _ => by simp)

abbrev Quote2 := Quote1

abbrev QuoteResponseExtend070 := ReportExtend040

structure AllegeQuoteExtend070 where
  (cashMargin counterPartyPbuid : Bytes)

instance : Message AllegeQuoteExtend070 where
  encode m := .seq [writeFixedString m.cashMargin 1, writeFixedString m.counterPartyPbuid 6]
  decode := return {
    cashMargin := ← readFixedString 1, counterPartyPbuid := ← readFixedString 6 }
  equals m o := m.cashMargin == o.cashMargin && m.counterPartyPbuid == o.counterPartyPbuid
  trimmed m := {
    cashMargin := rtrim 1 m.cashMargin, counterPartyPbuid := rtrim 6 m.counterPartyPbuid }
  roundTrip := .record
    (.field AllegeQuoteExtend070.cashMargin fun _ =>
    .field AllegeQuoteExtend070.counterPartyPbuid fun _ => .done fun m => by cases m; simp)
    (fun m => by cases m; simp) (fun _ => rfl)
    (fun _ => by simp) (fun _ => by simp) (fun _ => Iff.rfl)

structure TradeCaptureReportExtend031 where
  (memberId traderCode counterPartyMemberId counterPartyTraderCode settlType settlPeriod : Bytes)
  (cashMargin memo : Bytes)

instance : Message TradeCaptureReportExtend031 where
  encode m := .seq [
    writeFixedString m.memberId 6, writeFixedString m.traderCode 5,
    writeFixedString m.counterPartyMemberId 6, writeFixedString m.counterPartyTraderCode 5,
    writeFixedString m.settlType 1, writeFixedString m.settlPeriod 1,
    writeFixedString m.cashMargin 1, writeFixedString m.memo 120]
  decode := return {
    memberId := ← readFixedString 6, traderCode := ← readFixedString 5,
    counterPartyMemberId := ← readFixedString 6, counterPartyTraderCode := ← readFixedString 5,
    settlType := ← readFixedString 1, settlPeriod := ← readFixedString 1,
    cashMargin := ← readFixedString 1, memo := ← readFixedString 120 }
  equals m o :=
    m.memberId == o.memberId && m.traderCode == o.traderCode &&
    m.counterPartyMemberId == o.counterPartyMemberId &&
    m.counterPartyTraderCode == o.counterPartyTraderCode && m.settlType == o.settlType &&
    m.settlPeriod == o.settlPeriod && m.cashMargin == o.cashMargin && m.memo == o.memo
  trimmed m := {
    memberId := rtrim 6 m.memberId, traderCode := rtrim 5 m.traderCode,
    counterPartyMemberId := rtrim 6 m.counterPartyMemberId,
    counterPartyTraderCode := rtrim 5 m.counterPartyTraderCode,
    settlType := rtrim 1 m.settlType, settlPeriod := rtrim 1 m.settlPeriod,
    cashMargin := rtrim 1 m.cashMargin, memo := rtrim 120 m.memo }
  roundTrip := .record
    (.field TradeCaptureReportExtend031.memberId fun _ =>
    .field TradeCaptureReportExtend031.traderCode fun _ =>
    .field TradeCaptureReportExtend031.counterPartyMemberId fun _ =>
    .field TradeCaptureReportExtend031.counterPartyTraderCode fun _ =>
    .field TradeCaptureReportExtend031.settlType fun _ =>
    .field TradeCaptureReportExtend031.settlPeriod fun _ =>
    .field TradeCaptureReportExtend031.cashMargin fun _ =>
    .field TradeCaptureReportExtend031.memo fun _ =>
    .done fun m => by cases m; simp [and_assoc])
    (fun m => by cases m; simp) (fun _ => rfl)
    (fun _ => by simp) (fun _ => by simp) (fun _ => Iff.rfl)

abbrev TradeCaptureReportExtend051 := ExtendNewOrder050

abbrev TradeCaptureReportExtend060 := ExtendNewOrder041

abbrev TradeCaptureReportExtend061 := ExtendNewOrder041

abbrev TradeCaptureReportExtend062 := ReportExtend040

abbrev TradeCaptureReportAckExtend031 := TradeCaptureReportExtend031

abbrev TradeCaptureReportAckExtend051 := ExtendNewOrder050

abbrev TradeCaptureReportAckExtend060 := ExtendNewOrder041

abbrev TradeCaptureReportAckExtend061 := ExtendNewOrder041

abbrev TradeCaptureReportAckExtend062 := ReportExtend040

abbrev TradeCaptureConfirmExtend031 := TradeCaptureReportExtend031

abbrev TradeCaptureConfirmExtend051 := ReportExtend050

abbrev TradeCaptureConfirmExtend060 := ExtendNewOrder041

abbrev TradeCaptureConfirmExtend061 := ExtendNewOrder041

abbrev TradeCaptureConfirmExtend062 := ReportExtend040

/-- The classes an `applExtend` can belong to. -/
inductive ExtendType where
  | extendNewOrder010 | extendNewOrder040 | extendNewOrder041 | extendNewOrder042
  | extendNewOrder043 | extendNewOrder044 | extendNewOrder045 | extendNewOrder050
  | confirmExtend010 | confirmExtend040 | confirmExtend041 | confirmExtend042 | confirmExtend043
  | confirmExtend044 | confirmExtend045 | confirmExtend050 | reportExtend010 | reportExtend040
  | reportExtend050 | quoteExtend070 | quoteExtend071 | quoteStatusReportExtend070
  | quoteResponseExtend070 | allegeQuoteExtend070 | tradeCaptureReportExtend031
  | tradeCaptureReportExtend051 | tradeCaptureReportExtend060 | tradeCaptureReportExtend061
  | tradeCaptureReportExtend062 | tradeCaptureReportAckExtend031
  | tradeCaptureReportAckExtend051 | tradeCaptureReportAckExtend060
  | tradeCaptureReportAckExtend061 | tradeCaptureReportAckExtend062
  | tradeCaptureConfirmExtend031 | tradeCaptureConfirmExtend051 | tradeCaptureConfirmExtend060
  | tradeCaptureConfirmExtend061 | tradeCaptureConfirmExtend062
  deriving DecidableEq

def extendTypes : ExtendType → MessageType
  | .extendNewOrder010 => ⟨ExtendNewOrder010⟩
  | .extendNewOrder040 => ⟨ExtendNewOrder040⟩
  | .extendNewOrder041 => ⟨ExtendNewOrder041⟩
  | .extendNewOrder042 => ⟨ExtendNewOrder042⟩
  | .extendNewOrder043 => ⟨ExtendNewOrder043⟩
  | .extendNewOrder044 => ⟨ExtendNewOrder044⟩
  | .extendNewOrder045 => ⟨ExtendNewOrder045⟩
  | .extendNewOrder050 => ⟨ExtendNewOrder050⟩
  | .confirmExtend010 => ⟨ConfirmExtend010⟩
  | .confirmExtend040 => ⟨ConfirmExtend040⟩
  | .confirmExtend041 => ⟨ConfirmExtend041⟩
  | .confirmExtend042 => ⟨ConfirmExtend042⟩
  | .confirmExtend043 => ⟨ConfirmExtend043⟩
  | .confirmExtend044 => ⟨ConfirmExtend044⟩
  | .confirmExtend045 => ⟨ConfirmExtend045⟩
  | .confirmExtend050 => ⟨ConfirmExtend050⟩
  | .reportExtend010 => ⟨ReportExtend010⟩
  | .reportExtend040 => ⟨ReportExtend040⟩
  | .reportExtend050 => ⟨ReportExtend050⟩
  | .quoteExtend070 => ⟨QuoteExtend070⟩
  | .quoteExtend071 => ⟨QuoteExtend071⟩
  | .quoteStatusReportExtend070 => ⟨QuoteStatusReportExtend070⟩
  | .quoteResponseExtend070 => ⟨QuoteResponseExtend070⟩
  | .allegeQuoteExtend070 => ⟨AllegeQuoteExtend070⟩
  | .tradeCaptureReportExtend031 => ⟨TradeCaptureReportExtend031⟩
  | .tradeCaptureReportExtend051 => ⟨TradeCaptureReportExtend051⟩
  | .tradeCaptureReportExtend060 => ⟨TradeCaptureReportExtend060⟩
  | .tradeCaptureReportExtend061 => ⟨TradeCaptureReportExtend061⟩
  | .tradeCaptureReportExtend062 => ⟨TradeCaptureReportExtend062⟩
  | .tradeCaptureReportAckExtend031 => ⟨TradeCaptureReportAckExtend031⟩
  | .tradeCaptureReportAckExtend051 => ⟨TradeCaptureReportAckExtend051⟩
  | .tradeCaptureReportAckExtend060 => ⟨TradeCaptureReportAckExtend060⟩
  | .tradeCaptureReportAckExtend061 => ⟨TradeCaptureReportAckExtend061⟩
  | .tradeCaptureReportAckExtend062 => ⟨TradeCaptureReportAckExtend062⟩
  | .tradeCaptureConfirmExtend031 => ⟨TradeCaptureConfirmExtend031⟩
  | .tradeCaptureConfirmExtend051 => ⟨TradeCaptureConfirmExtend051⟩
  | .tradeCaptureConfirmExtend060 => ⟨TradeCaptureConfirmExtend060⟩
  | .tradeCaptureConfirmExtend061 => ⟨TradeCaptureConfirmExtend061⟩
  | .tradeCaptureConfirmExtend062 => ⟨TradeCaptureConfirmExtend062⟩

/-- `std::unique_ptr<codec::BinaryCodec> applExtend`. -/
abbrev ApplExtend := Object extendTypes

def newOrderMessageFactory : MessageFactory Bytes ExtendType := .registering [
  (ascii "010", .extendNewOrder010), (ascii "040", .extendNewOrder040),
  (ascii "041", .extendNewOrder041), (ascii "042", .extendNewOrder042),
  (ascii "043", .extendNewOrder043), (ascii "044", .extendNewOrder044),
  (ascii "045", .extendNewOrder045), (ascii "050", .extendNewOrder050)]

def executionConfirmMessageFactory : MessageFactory Bytes ExtendType := .registering [
  (ascii "010", .confirmExtend010), (ascii "040", .confirmExtend040),
  (ascii "041", .confirmExtend041), (ascii "042", .confirmExtend042),
  (ascii "043", .confirmExtend043), (ascii "044", .confirmExtend044),
  (ascii "045", .confirmExtend045), (ascii "050", .confirmExtend050)]

def executionReportMessageFactory : MessageFactory Bytes ExtendType := .registering [
  (ascii "010", .reportExtend010), (ascii "040", .reportExtend040),
  (ascii "050", .reportExtend050)]

def quoteMessageFactory : MessageFactory Bytes ExtendType := .registering [
  (ascii "070", .quoteExtend070), (ascii "071", .quoteExtend071)]

def quoteStatusReportMessageFactory : MessageFactory Bytes ExtendType := .registering [
  (ascii "070", .quoteStatusReportExtend070)]

def quoteResponseMessageFactory : MessageFactory Bytes ExtendType := .registering [
  (ascii "070", .quoteResponseExtend070)]

def allegeQuoteMessageFactory : MessageFactory Bytes ExtendType := .registering [
  (ascii "070", .allegeQuoteExtend070)]

def tradeCaptureReportMessageFactory : MessageFactory Bytes ExtendType := .registering [
  (ascii "031", .tradeCaptureReportExtend031), (ascii "051", .tradeCaptureReportExtend051),
  (ascii "060", .tradeCaptureReportExtend060), (ascii "061", .tradeCaptureReportExtend061),
  (ascii "062", .tradeCaptureReportExtend062)]

def tradeCaptureReportAckMessageFactory : MessageFactory Bytes ExtendType := .registering [
  (ascii "031", .tradeCaptureReportAckExtend031),
  (ascii "051", .tradeCaptureReportAckExtend051),
  (ascii "060", .tradeCaptureReportAckExtend060),
  (ascii "061", .tradeCaptureReportAckExtend061), (ascii "062", .tradeCaptureReportAckExtend062)]

def tradeCaptureConfirmMessageFactory : MessageFactory Bytes ExtendType := .registering [
  (ascii "031", .tradeCaptureConfirmExtend031), (ascii "051", .tradeCaptureConfirmExtend051),
  (ascii "060", .tradeCaptureConfirmExtend060), (ascii "061", .tradeCaptureConfirmExtend061),
  (ascii "062", .tradeCaptureConfirmExtend062)]

end FinProto.Bjse
