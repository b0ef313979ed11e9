import FinProto.Message

/-! The `applExtend` classes of `szse_binary.hpp` and the factories that create them. -/
namespace FinProto.Szse

open Wire

structure Extend100101 where
  (stopPx minQty : Int64)
  maxPriceLevels : UInt16
  (timeInForce cashMargin : Bytes)

instance : Message Extend100101 where
  encode m := .seq [
    writeI64 m.stopPx, writeI64 m.minQty, writeU16 m.maxPriceLevels,
    writeFixedString m.timeInForce 1, writeFixedString m.cashMargin 1]
  decode := return {
    stopPx := ← readI64, minQty := ← readI64, maxPriceLevels := ← readU16,
    timeInForce := ← readFixedString 1, cashMargin := ← readFixedString 1 }
  equals m o :=
    m.stopPx == o.stopPx && m.minQty == o.minQty && m.maxPriceLevels == o.maxPriceLevels &&
    m.timeInForce == o.timeInForce && m.cashMargin == o.cashMargin
  trimmed m := { m with
    timeInForce := rtrim 1 m.timeInForce, cashMargin := rtrim 1 m.cashMargin }
  roundTrip := .record
    (.field Extend100101.stopPx fun _ => .field Extend100101.minQty fun _ =>
    .field Extend100101.maxPriceLevels fun _ => .field Extend100101.timeInForce fun _ =>
    .field Extend100101.cashMargin fun _ => .done fun m => by cases m; simp [and_assoc])
    (fun m => by cases m; simp [Anything]) (fun _ => rfl)
    (fun _ => by simp) (fun _ => by simp) (fun _ => Iff.rfl)

structure Extend100201 where
  (stopPx minQty : Int64)
  maxPriceLevels : UInt16
  timeInForce : Bytes

instance : Message Extend100201 where
  encode m := .seq [
    writeI64 m.stopPx, writeI64 m.minQty, writeU16 m.maxPriceLevels,
    writeFixedString m.timeInForce 1]
  decode := return {
    stopPx := ← readI64, minQty := ← readI64, maxPriceLevels := ← readU16,
    timeInForce := ← readFixedString 1 }
  equals m o :=
    m.stopPx == o.stopPx && m.minQty == o.minQty && m.maxPriceLevels == o.maxPriceLevels &&
    m.timeInForce == o.timeInForce
  trimmed m := { m with timeInForce := rtrim 1 m.timeInForce }
  roundTrip := .record
    (.field Extend100201.stopPx fun _ => .field Extend100201.minQty fun _ =>
    .field Extend100201.maxPriceLevels fun _ => .field Extend100201.timeInForce fun _ =>
    .done fun m => by cases m; simp [and_assoc])
    (fun m => by cases m; simp [Anything]) (fun _ => rfl)
    (fun _ => by simp) (fun _ => by simp) (fun _ => Iff.rfl)

/-- Declared with the fields and layout of an earlier class; `ExtendType` tells the classes apart. -/
abbrev Extend100301 := Extend100201

structure Extend100501 where
  (confirmId cashMargin : Bytes)

instance : Message Extend100501 where
  encode m := .seq [writeFixedString m.confirmId 8, writeFixedString m.cashMargin 1]
  decode := return { confirmId := ← readFixedString 8, cashMargin := ← readFixedString 1 }
  equals m o := m.confirmId == o.confirmId && m.cashMargin == o.cashMargin
  trimmed m := { confirmId := rtrim 8 m.confirmId, cashMargin := rtrim 1 m.cashMargin }
  roundTrip := .record
    (.field Extend100501.confirmId fun _ => .field Extend100501.cashMargin fun _ =>
    .done fun m => by cases m; simp)
    (fun m => by cases m; simp) (fun _ => rfl)
    (fun _ => by simp) (fun _ => by simp) (fun _ => Iff.rfl)

structure Extend100601 where
  cashMargin : Bytes

instance : Message Extend100601 where
  encode m := .seq [writeFixedString m.cashMargin 1]
  decode := return { cashMargin := ← readFixedString 1 }
  equals m o := m.cashMargin == o.cashMargin
  trimmed m := { cashMargin := rtrim 1 m.cashMargin }
  roundTrip := .record
    (.field Extend100601.cashMargin fun _ => .done fun m => by cases m; simp)
    (fun m => by cases m; simp) (fun _ => rfl)
    (fun _ => by simp) (fun _ => by simp) (fun _ => Iff.rfl)

structure Extend100701 where
  expirationDays : UInt16
  expirationType : UInt8
  shareProperty : Bytes

instance : Message Extend100701 where
  encode m := .seq [
    writeU16 m.expirationDays, writeU8 m.expirationType, writeFixedString m.shareProperty 2]
  decode := return {
    expirationDays := ← readU16, expirationType := ← readU8,
    shareProperty := ← readFixedString 2 }
  equals m o :=
    m.expirationDays == o.expirationDays && m.expirationType == o.expirationType &&
    m.shareProperty == o.shareProperty
  trimmed m := { m with shareProperty := rtrim 2 m.shareProperty }
  roundTrip := .record
    (.field Extend100701.expirationDays fun _ => .field Extend100701.expirationType fun _ =>
    .field Extend100701.shareProperty fun _ => .done fun m => by cases m; simp [and_assoc])
    (fun m => by cases m; simp [Anything]) (fun _ => rfl)
    (fun _ => by simp) (fun _ => by simp) (fun _ => Iff.rfl)

structure Extend101501 where
  shareProperty : Bytes

instance : Message Extend101501 where
  encode m := .seq [writeFixedString m.shareProperty 2]
  decode := return { shareProperty := ← readFixedString 2 }
  equals m o := m.shareProperty == o.shareProperty
  trimmed m := { shareProperty := rtrim 2 m.shareProperty }
  roundTrip := .record
    (.field Extend101501.shareProperty fun _ => .done fun m => by cases m; simp)
    (fun m => by cases m; simp) (fun _ => rfl)
    (fun _ => by simp) (fun _ => by simp) (fun _ => Iff.rfl)

structure Extend101601 where
  contractAccountCode : Bytes

instance : Message Extend101601 where
  encode m := .seq [writeFixedString m.contractAccountCode 6]
  decode := return { contractAccountCode := ← readFixedString 6 }
  equals m o := m.contractAccountCode == o.contractAccountCode
  trimmed m := { contractAccountCode := rtrim 6 m.contractAccountCode }
  roundTrip := .record
    (.field Extend101601.contractAccountCode fun _ => .done fun m => by cases m; simp)
    (fun m => by cases m; simp) (fun _ => rfl)
    (fun _ => by simp) (fun _ => by simp) (fun _ => Iff.rfl)

structure Extend101701 where
  cashOrderQty : Int64

instance : Message Extend101701 where
  encode m := .seq [writeI64 m.cashOrderQty]
  decode := return { cashOrderQty := ← readI64 }
  equals m o := m.cashOrderQty == o.cashOrderQty
  roundTrip := .record
    (.field Extend101701.cashOrderQty fun _ => .done fun m => by cases m; simp)
    (fun m => by cases m; simp [Anything]) (fun _ => rfl)
    (fun _ => rfl) (fun _ => rfl) (fun _ => Iff.rfl)

structure Extend101801 where
  tenderer : Bytes

instance : Message Extend101801 where
  encode m := .seq [writeFixedString m.tenderer 6]
  decode := return { tenderer := ← readFixedString 6 }
  equals m o := m.tenderer == o.tenderer
  trimmed m := { tenderer := rtrim 6 m.tenderer }
  roundTrip := .record
    (.field Extend101801.tenderer fun _ => .done fun m => by cases m; simp)
    (fun m => by cases m; simp) (fun _ => rfl)
    (fun _ => by simp) (fun _ => by simp) (fun _ => Iff.rfl)

structure Extend102701 where
  (disposalPbu disposalAccountId : Bytes)

instance : Message Extend102701 where
  encode m := .seq [writeFixedString m.disposalPbu 6, writeFixedString m.disposalAccountId 12]
  decode := return {
    disposalPbu := ← readFixedString 6, disposalAccountId := ← readFixedString 12 }
  equals m o := m.disposalPbu == o.disposalPbu && m.disposalAccountId == o.disposalAccountId
  trimmed m := {
    disposalPbu := rtrim 6 m.disposalPbu, disposalAccountId := rtrim 12 m.disposalAccountId }
  roundTrip := .record
    (.field Extend102701.disposalPbu fun _ => .field Extend102701.disposalAccountId fun _ =>
    .done fun m => by cases m; simp)
    (fun m => by cases m; simp) (fun _ => rfl)
    (fun _ => by simp) (fun _ => by simp) (fun _ => Iff.rfl)

structure Extend102801 where
  (lenderPbu lenderAccountId : Bytes)

instance : Message Extend102801 where
  encode m := .seq [writeFixedString m.lenderPbu 6, writeFixedString m.lenderAccountId 12]
  decode := return { lenderPbu := ← readFixedString 6, lenderAccountId := ← readFixedString 12 }
  equals m o := m.lenderPbu == o.lenderPbu && m.lenderAccountId == o.lenderAccountId
  trimmed m := {
    lenderPbu := rtrim 6 m.lenderPbu, lenderAccountId := rtrim 12 m.lenderAccountId }
  roundTrip := .record
    (.field Extend102801.lenderPbu fun _ => .field Extend102801.lenderAccountId fun _ =>
    .done fun m => by cases m; simp)
    (fun m => by cases m; simp) (fun _ => rfl)
    (fun _ => by simp) (fun _ => by simp) (fun _ => Iff.rfl)

structure Extend102901 where
  (deductionPbu deductionAccountId : Bytes)

instance : Message Extend102901 where
  encode m := .seq [writeFixedString m.deductionPbu 6, writeFixedString m.deductionAccountId 12]
  decode := return {
    deductionPbu := ← readFixedString 6, deductionAccountId := ← readFixedString 12 }
  equals m o := m.deductionPbu == o.deductionPbu && m.deductionAccountId == o.deductionAccountId
  trimmed m := {
    deductionPbu := rtrim 6 m.deductionPbu, deductionAccountId := rtrim 12 m.deductionAccountId }
  roundTrip := .record
    (.field Extend102901.deductionPbu fun _ => .field Extend102901.deductionAccountId fun _ =>
    .done fun m => by cases m; simp)
    (fun m => by cases m; simp) (fun _ => rfl)
    (fun _ => by simp) (fun _ => by simp) (fun _ => Iff.rfl)

structure Extend106301 where
  (stopPx minQty : Int64)
  maxPriceLevels : UInt16
  (timeInForce lotType : Bytes)

instance : Message Extend106301 where
  encode m := .seq [
    writeI64 m.stopPx, writeI64 m.minQty, writeU16 m.maxPriceLevels,
    writeFixedString m.timeInForce 1, writeFixedString m.lotType 1]
  decode := return {
    stopPx := ← readI64, minQty := ← readI64, maxPriceLevels := ← readU16,
    timeInForce := ← readFixedString 1, lotType := ← readFixedString 1 }
  equals m o :=
    m.stopPx == o.stopPx && m.minQty == o.minQty && m.maxPriceLevels == o.maxPriceLevels &&
    m.timeInForce == o.timeInForce && m.lotType == o.lotType
  trimmed m := { m with timeInForce := rtrim 1 m.timeInForce, lotType := rtrim 1 m.lotType }
  roundTrip := .record
    (.field Extend106301.stopPx fun _ => .field Extend106301.minQty fun _ =>
    .field Extend106301.maxPriceLevels fun _ => .field Extend106301.timeInForce fun _ =>
    .field Extend106301.lotType fun _ => .done fun m => by cases m; simp [and_assoc])
    (fun m => by cases m; simp [Anything]) (fun _ => rfl)
    (fun _ => by simp) (fun _ => by simp) (fun _ => Iff.rfl)

abbrev Extend103501 := Extend101601

abbrev Extend103701 := Extend100601

abbrev Extend104101 := Extend100101

structure Extend104128 where
  (memberId investorType investorId investorName traderCode secondaryOrderId : Bytes)
  (bidTransType bidExecInstType : UInt16)
  (lowLimitPrice highLimitPrice minQty : Int64)
  tradeDate : UInt32
  settlType : UInt16
  (settlPeriod preTradeAnonymity : UInt8)
  (cashMargin memo : Bytes)

instance : Message Extend104128 where
  encode m := .seq [
    writeFixedString m.memberId 6, writeFixedString m.investorType 2,
    writeFixedString m.investorId 10, writeFixedString m.investorName 120,
    writeFixedString m.traderCode 8, writeFixedString m.secondaryOrderId 16,
    writeU16 m.bidTransType, writeU16 m.bidExecInstType, writeI64 m.lowLimitPrice,
    writeI64 m.highLimitPrice, writeI64 m.minQty, writeU32 m.tradeDate, writeU16 m.settlType,
    writeU8 m.settlPeriod, writeU8 m.preTradeAnonymity, writeFixedString m.cashMargin 1,
    writeFixedString m.memo 160]
  decode := return {
    memberId := ← readFixedString 6, investorType := ← readFixedString 2,
    investorId := ← readFixedString 10, investorName := ← readFixedString 120,
    traderCode := ← readFixedString 8, secondaryOrderId := ← readFixedString 16,
    bidTransType := ← readU16, bidExecInstType := ← readU16, lowLimitPrice := ← readI64,
    highLimitPrice := ← readI64, minQty := ← readI64, tradeDate := ← readU32,
    settlType := ← readU16, settlPeriod := ← readU8, preTradeAnonymity := ← readU8,
    cashMargin := ← readFixedString 1, memo := ← readFixedString 160 }
  equals m o :=
    m.memberId == o.memberId && m.investorType == o.investorType &&
    m.investorId == o.investorId && m.investorName == o.investorName &&
    m.traderCode == o.traderCode && m.secondaryOrderId == o.secondaryOrderId &&
    m.bidTransType == o.bidTransType && m.bidExecInstType == o.bidExecInstType &&
    m.lowLimitPrice == o.lowLimitPrice && m.highLimitPrice == o.highLimitPrice &&
    m.minQty == o.minQty && m.tradeDate == o.tradeDate && m.settlType == o.settlType &&
    m.settlPeriod == o.settlPeriod && m.preTradeAnonymity == o.preTradeAnonymity &&
    m.cashMargin == o.cashMargin && m.memo == o.memo
  trimmed m := { m with
    memberId := rtrim 6 m.memberId, investorType := rtrim 2 m.investorType,
    investorId := rtrim 10 m.investorId, investorName := rtrim 120 m.investorName,
    traderCode := rtrim 8 m.traderCode, secondaryOrderId := rtrim 16 m.secondaryOrderId,
    cashMargin := rtrim 1 m.cashMargin, memo := rtrim 160 m.memo }
  roundTrip := .record
    (.field Extend104128.memberId fun _ => .field Extend104128.investorType fun _ =>
    .field Extend104128.investorId fun _ => .field Extend104128.investorName fun _ =>
    .field Extend104128.traderCode fun _ => .field Extend104128.secondaryOrderId fun _ =>
    .field Extend104128.bidTransType fun _ => .field Extend104128.bidExecInstType fun _ =>
    .field Extend104128.lowLimitPrice fun _ => .field Extend104128.highLimitPrice fun _ =>
    .field Extend104128.minQty fun _ => .field Extend104128.tradeDate fun _ =>
    .field Extend104128.settlType fun _ => .field Extend104128.settlPeriod fun _ =>
    .field Extend104128.preTradeAnonymity fun _ => .field Extend104128.cashMargin fun _ =>
    .field Extend104128.memo fun _ => .done fun m => by cases m; simp [and_assoc])
    (fun m => by cases m; simp [Anything]) (fun _ => rfl)
    (fun _ => by simp) (fun _ => by simp) (fun _ => Iff.rfl)

structure Extend104701 where
  secondaryOrderId : Bytes

instance : Message Extend104701 where
  encode m := .seq [writeFixedString m.secondaryOrderId 16]
  decode := return { secondaryOrderId := ← readFixedString 16 }
  equals m o := m.secondaryOrderId == o.secondaryOrderId
  trimmed m := { secondaryOrderId := rtrim 16 m.secondaryOrderId }
  roundTrip := .record
    (.field Extend104701.secondaryOrderId fun _ => .done fun m => by cases m; simp)
    (fun m => by cases m; simp) (fun _ => rfl)
    (fun _ => by simp) (fun _ => by simp) (fun _ => Iff.rfl)

structure Extend101401 where
  (stopPx minQty : Int64)
  maxPriceLevels : UInt16
  (timeInForce positionEffect : Bytes)
  coveredOrUncovered : UInt8
  (contractAccountCode secondaryOrderId : Bytes)

instance : Message Extend101401 where
  encode m := .seq [
    writeI64 m.stopPx, writeI64 m.minQty, writeU16 m.maxPriceLevels,
    writeFixedString m.timeInForce 1, writeFixedString m.positionEffect 1,
    writeU8 m.coveredOrUncovered, writeFixedString m.contractAccountCode 6,
    writeFixedString m.secondaryOrderId 16]
  decode := return {
    stopPx := ← readI64, minQty := ← readI64, maxPriceLevels := ← readU16,
    timeInForce := ← readFixedString 1, positionEffect := ← readFixedString 1,
    coveredOrUncovered := ← readU8, contractAccountCode := ← readFixedString 6,
    secondaryOrderId := ← readFixedString 16 }
  equals m o :=
    m.stopPx == o.stopPx && m.minQty == o.minQty && m.maxPriceLevels == o.maxPriceLevels &&
    m.timeInForce == o.timeInForce && m.positionEffect == o.positionEffect &&
    m.coveredOrUncovered == o.coveredOrUncovered &&
    m.contractAccountCode == o.contractAccountCode && m.secondaryOrderId == o.secondaryOrderId
  trimmed m := { m with
    timeInForce := rtrim 1 m.timeInForce, positionEffect := rtrim 1 m.positionEffect,
    contractAccountCode := rtrim 6 m.contractAccountCode,
    secondaryOrderId := rtrim 16 m.secondaryOrderId }
  roundTrip := .record
    (.field Extend101401.stopPx fun _ => .field Extend101401.minQty fun _ =>
    .field Extend101401.maxPriceLevels fun _ => .field Extend101401.timeInForce fun _ =>
    .field Extend101401.positionEffect fun _ => .field Extend101401.coveredOrUncovered fun _ =>
    .field Extend101401.contractAccountCode fun _ =>
    .field Extend101401.secondaryOrderId fun _ => .done fun m => by cases m; simp [and_assoc])
    (fun m => by cases m; simp [Anything]) (fun _ => rfl)
    (fun _ => by simp) (fun _ => by simp) (fun _ => Iff.rfl)

abbrev Extend200102 := Extend100101

abbrev Extend200202 := Extend100201

abbrev Extend200302 := Extend100201

abbrev Extend200502 := Extend100501

abbrev Extend200602 := Extend100601

abbrev Extend200702 := Extend100701

abbrev Extend201502 := Extend101501

abbrev Extend201602 := Extend101601

abbrev Extend201702 := Extend101701

abbrev Extend201802 := Extend101801

abbrev Extend202702 := Extend102701

abbrev Extend202802 := Extend102801

abbrev Extend202902 := Extend102901

structure Extend206302 where
  rejectText : Bytes
  (stopPx minQty : Int64)
  maxPriceLevels : UInt16
  (timeInForce lotType : Bytes)
  imcrejectTextLen : UInt32
  imcrejectText : Bytes

instance : Message Extend206302 where
  encode m := .seq [
    writeFixedString m.rejectText 16, writeI64 m.stopPx, writeI64 m.minQty,
    writeU16 m.maxPriceLevels, writeFixedString m.timeInForce 1, writeFixedString m.lotType 1,
    writeU32 m.imcrejectTextLen, writeString UInt32 m.imcrejectText]
  decode := return {
    rejectText := ← readFixedString 16, stopPx := ← readI64, minQty := ← readI64,
    maxPriceLevels := ← readU16, timeInForce := ← readFixedString 1,
    lotType := ← readFixedString 1, imcrejectTextLen := ← readU32,
    imcrejectText := ← readString UInt32 }
  equals m o :=
    m.rejectText == o.rejectText && m.stopPx == o.stopPx && m.minQty == o.minQty &&
    m.maxPriceLevels == o.maxPriceLevels && m.timeInForce == o.timeInForce &&
    m.lotType == o.lotType && m.imcrejectTextLen == o.imcrejectTextLen &&
    m.imcrejectText == o.imcrejectText
  trimmed m := { m with
    rejectText := rtrim 16 m.rejectText, timeInForce := rtrim 1 m.timeInForce,
    lotType := rtrim 1 m.lotType }
  fits m := FitsPrefix UInt32 m.imcrejectText.length
  roundTrip := .record
    (.field Extend206302.rejectText fun _ => .field Extend206302.stopPx fun _ =>
    .field Extend206302.minQty fun _ => .field Extend206302.maxPriceLevels fun _ =>
    .field Extend206302.timeInForce fun _ => .field Extend206302.lotType fun _ =>
    .field Extend206302.imcrejectTextLen fun _ => .field Extend206302.imcrejectText fun _ =>
    .done fun m => by cases m; simp [and_assoc])
    (fun m => by cases m; simp [Anything, and_assoc]) (fun _ => rfl)
    (fun _ => by simp) (fun _ => by simp) (fun _ => by simp)

abbrev Extend203502 := Extend101601

abbrev Extend203702 := Extend100601

abbrev Extend204102 := Extend100101

abbrev Extend204129 := Extend104128

abbrev Extend204702 := Extend104701

abbrev Extend200402 := Extend101401

structure Extend201202 where
  insufficientSecurityId : Bytes
  noSecurity : UInt32
  (underlyingSecurityId underlyingSecurityIdsource : Bytes)
  (deliveryQty substCash : Int64)

instance : Message Extend201202 where
  encode m := .seq [
    writeFixedString m.insufficientSecurityId 8, writeU32 m.noSecurity,
    writeFixedString m.underlyingSecurityId 8, writeFixedString m.underlyingSecurityIdsource 4,
    writeI64 m.deliveryQty, writeI64 m.substCash]
  decode := return {
    insufficientSecurityId := ← readFixedString 8, noSecurity := ← readU32,
    underlyingSecurityId := ← readFixedString 8,
    underlyingSecurityIdsource := ← readFixedString 4, deliveryQty := ← readI64,
    substCash := ← readI64 }
  equals m o :=
    m.insufficientSecurityId == o.insufficientSecurityId && m.noSecurity == o.noSecurity &&
    m.underlyingSecurityId == o.underlyingSecurityId &&
    m.underlyingSecurityIdsource == o.underlyingSecurityIdsource &&
    m.deliveryQty == o.deliveryQty && m.substCash == o.substCash
  trimmed m := { m with
    insufficientSecurityId := rtrim 8 m.insufficientSecurityId,
    underlyingSecurityId := rtrim 8 m.underlyingSecurityId,
    underlyingSecurityIdsource := rtrim 4 m.underlyingSecurityIdsource }
  roundTrip := .record
    (.field Extend201202.insufficientSecurityId fun _ => .field Extend201202.noSecurity fun _ =>
    .field Extend201202.underlyingSecurityId fun _ =>
    .field Extend201202.underlyingSecurityIdsource fun _ =>
    .field Extend201202.deliveryQty fun _ => .field Extend201202.substCash fun _ =>
    .done fun m => by cases m; simp [and_assoc])
    (fun m => by cases m; simp [Anything]) (fun _ => rfl)
    (fun _ => by simp) (fun _ => by simp) (fun _ => Iff.rfl)

structure Extend203102 where
  insufficientSecurityId : Bytes
  noSecurity : UInt32
  (underlyingSecurityId underlyingSecurityIdsource : Bytes)
  deliveryQty : Int64

instance : Message Extend203102 where
  encode m := .seq [
    writeFixedString m.insufficientSecurityId 8, writeU32 m.noSecurity,
    writeFixedString m.underlyingSecurityId 8, writeFixedString m.underlyingSecurityIdsource 4,
    writeI64 m.deliveryQty]
  decode := return {
    insufficientSecurityId := ← readFixedString 8, noSecurity := ← readU32,
    underlyingSecurityId := ← readFixedString 8,
    underlyingSecurityIdsource := ← readFixedString 4, deliveryQty := ← readI64 }
  equals m o :=
    m.insufficientSecurityId == o.insufficientSecurityId && m.noSecurity == o.noSecurity &&
    m.underlyingSecurityId == o.underlyingSecurityId &&
    m.underlyingSecurityIdsource == o.underlyingSecurityIdsource &&
    m.deliveryQty == o.deliveryQty
  trimmed m := { m with
    insufficientSecurityId := rtrim 8 m.insufficientSecurityId,
    underlyingSecurityId := rtrim 8 m.underlyingSecurityId,
    underlyingSecurityIdsource := rtrim 4 m.underlyingSecurityIdsource }
  roundTrip := .record
    (.field Extend203102.insufficientSecurityId fun _ => .field Extend203102.noSecurity fun _ =>
    .field Extend203102.underlyingSecurityId fun _ =>
    .field Extend203102.underlyingSecurityIdsource fun _ =>
    .field Extend203102.deliveryQty fun _ => .done fun m => by cases m; simp [and_assoc])
    (fun m => by cases m; simp [Anything]) (fun _ => rfl)
    (fun _ => by simp) (fun _ => by simp) (fun _ => Iff.rfl)

abbrev Extend200115 := Extend100601

structure Extend200215 where
  maturityDate : UInt32

instance : Message Extend200215 where
  encode m := .seq [writeU32 m.maturityDate]
  decode := return { maturityDate := ← readU32 }
  equals m o := m.maturityDate == o.maturityDate
  roundTrip := .record
    (.field Extend200215.maturityDate fun _ => .done fun m => by cases m; simp)
    (fun m => by cases m; simp [Anything]) (fun _ => rfl)
    (fun _ => rfl) (fun _ => rfl) (fun _ => Iff.rfl)

abbrev Extend200315 := Extend200215

abbrev Extend200515 := Extend100501

abbrev Extend200615 := Extend100601

structure Extend200715 where
  expirationDays : UInt16
  expirationType : UInt8
  maturityDate : UInt32
  shareProperty : Bytes

instance : Message Extend200715 where
  encode m := .seq [
    writeU16 m.expirationDays, writeU8 m.expirationType, writeU32 m.maturityDate,
    writeFixedString m.shareProperty 2]
  decode := return {
    expirationDays := ← readU16, expirationType := ← readU8, maturityDate := ← readU32,
    shareProperty := ← readFixedString 2 }
  equals m o :=
    m.expirationDays == o.expirationDays && m.expirationType == o.expirationType &&
    m.maturityDate == o.maturityDate && m.shareProperty == o.shareProperty
  trimmed m := { m with shareProperty := rtrim 2 m.shareProperty }
  roundTrip := .record
    (.field Extend200715.expirationDays fun _ => .field Extend200715.expirationType fun _ =>
    .field Extend200715.maturityDate fun _ => .field Extend200715.shareProperty fun _ =>
    .done fun m => by cases m; simp [and_assoc])
    (fun m => by cases m; simp [Anything]) (fun _ => rfl)
    (fun _ => by simp) (fun _ => by simp) (fun _ => Iff.rfl)

abbrev Extend206315 := Extend100601

abbrev Extend203715 := Extend100601

structure Extend204115 where
  cashMargin : Bytes
  settlType : UInt16
  settlPeriod : UInt8
  (counterpartyMemberId counterpartyInvestorType counterpartyInvestorId : Bytes)
  (counterpartyInvestorName counterpartyTraderCode : Bytes)

instance : Message Extend204115 where
  encode m := .seq [
    writeFixedString m.cashMargin 1, writeU16 m.settlType, writeU8 m.settlPeriod,
    writeFixedString m.counterpartyMemberId 6, writeFixedString m.counterpartyInvestorType 2,
    writeFixedString m.counterpartyInvestorId 10,
    writeFixedString m.counterpartyInvestorName 120, writeFixedString m.counterpartyTraderCode 8]
  decode := return {
    cashMargin := ← readFixedString 1, settlType := ← readU16, settlPeriod := ← readU8,
    counterpartyMemberId := ← readFixedString 6,
    counterpartyInvestorType := ← readFixedString 2,
    counterpartyInvestorId := ← readFixedString 10,
    counterpartyInvestorName := ← readFixedString 120,
    counterpartyTraderCode := ← readFixedString 8 }
  equals m o :=
    m.cashMargin == o.cashMargin && m.settlType == o.settlType &&
    m.settlPeriod == o.settlPeriod && m.counterpartyMemberId == o.counterpartyMemberId &&
    m.counterpartyInvestorType == o.counterpartyInvestorType &&
    m.counterpartyInvestorId == o.counterpartyInvestorId &&
    m.counterpartyInvestorName == o.counterpartyInvestorName &&
    m.counterpartyTraderCode == o.counterpartyTraderCode
  trimmed m := { m with
    cashMargin := rtrim 1 m.cashMargin, counterpartyMemberId := rtrim 6 m.counterpartyMemberId,
    counterpartyInvestorType := rtrim 2 m.counterpartyInvestorType,
    counterpartyInvestorId := rtrim 10 m.counterpartyInvestorId,
    counterpartyInvestorName := rtrim 120 m.counterpartyInvestorName,
    counterpartyTraderCode := rtrim 8 m.counterpartyTraderCode }
  roundTrip := .record
    (.field Extend204115.cashMargin fun _ => .field Extend204115.settlType fun _ =>
    .field Extend204115.settlPeriod fun _ => .field Extend204115.counterpartyMemberId fun _ =>
    .field Extend204115.counterpartyInvestorType fun _ =>
    .field Extend204115.counterpartyInvestorId fun _ =>
    .field Extend204115.counterpartyInvestorName fun _ =>
    .field Extend204115.counterpartyTraderCode fun _ =>
    .done fun m => by cases m; simp [and_assoc])
    (fun m => by cases m; simp [Anything]) (fun _ => rfl)
    (fun _ => by simp) (fun _ => by simp) (fun _ => Iff.rfl)

structure Extend204130 where
  (memberId investorType investorId investorName traderCode counterpartyMemberId : Bytes)
  (counterpartyInvestorType counterpartyInvestorId counterpartyInvestorName : Bytes)
  (counterpartyTraderCode secondaryOrderId : Bytes)
  (bidTransType bidExecInstType settlType : UInt16)
  settlPeriod : UInt8
  (cashMargin memo : Bytes)

instance : Message Extend204130 where
  encode m := .seq [
    writeFixedString m.memberId 6, writeFixedString m.investorType 2,
    writeFixedString m.investorId 10, writeFixedString m.investorName 120,
    writeFixedString m.traderCode 8, writeFixedString m.counterpartyMemberId 6,
    writeFixedString m.counterpartyInvestorType 2, writeFixedString m.counterpartyInvestorId 10,
    writeFixedString m.counterpartyInvestorName 120,
    writeFixedString m.counterpartyTraderCode 8, writeFixedString m.secondaryOrderId 16,
    writeU16 m.bidTransType, writeU16 m.bidExecInstType, writeU16 m.settlType,
    writeU8 m.settlPeriod, writeFixedString m.cashMargin 1, writeFixedString m.memo 160]
  decode := return {
    memberId := ← readFixedString 6, investorType := ← readFixedString 2,
    investorId := ← readFixedString 10, investorName := ← readFixedString 120,
    traderCode := ← readFixedString 8, counterpartyMemberId := ← readFixedString 6,
    counterpartyInvestorType := ← readFixedString 2,
    counterpartyInvestorId := ← readFixedString 10,
    counterpartyInvestorName := ← readFixedString 120,
    counterpartyTraderCode := ← readFixedString 8, secondaryOrderId := ← readFixedString 16,
    bidTransType := ← readU16, bidExecInstType := ← readU16, settlType := ← readU16,
    settlPeriod := ← readU8, cashMargin := ← readFixedString 1, memo := ← readFixedString 160 }
  equals m o :=
    m.memberId == o.memberId && m.investorType == o.investorType &&
    m.investorId == o.investorId && m.investorName == o.investorName &&
    m.traderCode == o.traderCode && m.counterpartyMemberId == o.counterpartyMemberId &&
    m.counterpartyInvestorType == o.counterpartyInvestorType &&
    m.counterpartyInvestorId == o.counterpartyInvestorId &&
    m.counterpartyInvestorName == o.counterpartyInvestorName &&
    m.counterpartyTraderCode == o.counterpartyTraderCode &&
    m.secondaryOrderId == o.secondaryOrderId && m.bidTransType == o.bidTransType &&
    m.bidExecInstType == o.bidExecInstType && m.settlType == o.settlType &&
    m.settlPeriod == o.settlPeriod && m.cashMargin == o.cashMargin && m.memo == o.memo
  trimmed m := { m with
    memberId := rtrim 6 m.memberId, investorType := rtrim 2 m.investorType,
    investorId := rtrim 10 m.investorId, investorName := rtrim 120 m.investorName,
    traderCode := rtrim 8 m.traderCode, counterpartyMemberId := rtrim 6 m.counterpartyMemberId,
    counterpartyInvestorType := rtrim 2 m.counterpartyInvestorType,
    counterpartyInvestorId := rtrim 10 m.counterpartyInvestorId,
    counterpartyInvestorName := rtrim 120 m.counterpartyInvestorName,
    counterpartyTraderCode := rtrim 8 m.counterpartyTraderCode,
    secondaryOrderId := rtrim 16 m.secondaryOrderId, cashMargin := rtrim 1 m.cashMargin,
    memo := rtrim 160 m.memo }
  roundTrip := .record
    (.field Extend204130.memberId fun _ => .field Extend204130.investorType fun _ =>
    .field Extend204130.investorId fun _ => .field Extend204130.investorName fun _ =>
    .field Extend204130.traderCode fun _ => .field Extend204130.counterpartyMemberId fun _ =>
    .field Extend204130.counterpartyInvestorType fun _ =>
    .field Extend204130.counterpartyInvestorId fun _ =>
    .field Extend204130.counterpartyInvestorName fun _ =>
    .field Extend204130.counterpartyTraderCode fun _ =>
    .field Extend204130.secondaryOrderId fun _ => .field Extend204130.bidTransType fun _ =>
    .field Extend204130.bidExecInstType fun _ => .field Extend204130.settlType fun _ =>
    .field Extend204130.settlPeriod fun _ => .field Extend204130.cashMargin fun _ =>
    .field Extend204130.memo fun _ => .done fun m => by cases m; simp [and_assoc])
    (fun m => by cases m; simp [Anything]) (fun _ => rfl)
    (fun _ => by simp) (fun _ => by simp) (fun _ => Iff.rfl)

abbrev Extend204715 := Extend200715

structure Extend200415 where
  positionEffect : Bytes
  coveredOrUncovered : UInt8
  (contractAccountCode secondaryOrderId : Bytes)

instance : Message Extend200415 where
  encode m := .seq [
    writeFixedString m.positionEffect 1, writeU8 m.coveredOrUncovered,
    writeFixedString m.contractAccountCode 6, writeFixedString m.secondaryOrderId 16]
  decode := return {
    positionEffect := ← readFixedString 1, coveredOrUncovered := ← readU8,
    contractAccountCode := ← readFixedString 6, secondaryOrderId := ← readFixedString 16 }
  equals m o :=
    m.positionEffect == o.positionEffect && m.coveredOrUncovered == o.coveredOrUncovered &&
    m.contractAccountCode == o.contractAccountCode && m.secondaryOrderId == o.secondaryOrderId
  trimmed m := { m with
    positionEffect := rtrim 1 m.positionEffect,
    contractAccountCode := rtrim 6 m.contractAccountCode,
    secondaryOrderId := rtrim 16 m.secondaryOrderId }
  roundTrip := .record
    (.field Extend200415.positionEffect fun _ => .field Extend200415.coveredOrUncovered fun _ =>
    .field Extend200415.contractAccountCode fun _ =>
    .field Extend200415.secondaryOrderId fun _ => .done fun m => by cases m; simp [and_assoc])
    (fun m => by cases m; simp [Anything]) (fun _ => rfl)
    (fun _ => by simp) (fun _ => by simp) (fun _ => Iff.rfl)

/-- The classes an `applExtend` can belong to. -/
inductive ExtendType where
  | extend100101 | extend100201 | extend100301 | extend100501 | extend100601 | extend100701
  | extend101501 | extend101601 | extend101701 | extend101801 | extend102701 | extend102801
  | extend102901 | extend106301 | extend103501 | extend103701 | extend104101 | extend104128
  | extend104701 | extend101401 | extend200102 | extend200202 | extend200302 | extend200502
  | extend200602 | extend200702 | extend201502 | extend201602 | extend201702 | extend201802
  | extend202702 | extend202802 | extend202902 | extend206302 | extend203502 | extend203702
  | extend204102 | extend204129 | extend204702 | extend200402 | extend201202 | extend203102
  | extend200115 | extend200215 | extend200315 | extend200515 | extend200615 | extend200715
  | extend206315 | extend203715 | extend204115 | extend204130 | extend204715 | extend200415
  deriving DecidableEq

def extendTypes : ExtendType → MessageType
  | .extend100101 => ⟨Extend100101⟩
  | .extend100201 => ⟨Extend100201⟩
  | .extend100301 => ⟨Extend100301⟩
  | .extend100501 => ⟨Extend100501⟩
  | .extend100601 => ⟨Extend100601⟩
  | .extend100701 => ⟨Extend100701⟩
  | .extend101501 => ⟨Extend101501⟩
  | .extend101601 => ⟨Extend101601⟩
  | .extend101701 => ⟨Extend101701⟩
  | .extend101801 => ⟨Extend101801⟩
  | .extend102701 => ⟨Extend102701⟩
  | .extend102801 => ⟨Extend102801⟩
  | .extend102901 => ⟨Extend102901⟩
  | .extend106301 => ⟨Extend106301⟩
  | .extend103501 => ⟨Extend103501⟩
  | .extend103701 => ⟨Extend103701⟩
  | .extend104101 => ⟨Extend104101⟩
  | .extend104128 => ⟨Extend104128⟩
  | .extend104701 => ⟨Extend104701⟩
  | .extend101401 => ⟨Extend101401⟩
  | .extend200102 => ⟨Extend200102⟩
  | .extend200202 => ⟨Extend200202⟩
  | .extend200302 => ⟨Extend200302⟩
  | .extend200502 => ⟨Extend200502⟩
  | .extend200602 => ⟨Extend200602⟩
  | .extend200702 => ⟨Extend200702⟩
  | .extend201502 => ⟨Extend201502⟩
  | .extend201602 => ⟨Extend201602⟩
  | .extend201702 => ⟨Extend201702⟩
  | .extend201802 => ⟨Extend201802⟩
  | .extend202702 => ⟨Extend202702⟩
  | .extend202802 => ⟨Extend202802⟩
  | .extend202902 => ⟨Extend202902⟩
  | .extend206302 => ⟨Extend206302⟩
  | .extend203502 => ⟨Extend203502⟩
  | .extend203702 => ⟨Extend203702⟩
  | .extend204102 => ⟨Extend204102⟩
  | .extend204129 => ⟨Extend204129⟩
  | .extend204702 => ⟨Extend204702⟩
  | .extend200402 => ⟨Extend200402⟩
  | .extend201202 => ⟨Extend201202⟩
  | .extend203102 => ⟨Extend203102⟩
  | .extend200115 => ⟨Extend200115⟩
  | .extend200215 => ⟨Extend200215⟩
  | .extend200315 => ⟨Extend200315⟩
  | .extend200515 => ⟨Extend200515⟩
  | .extend200615 => ⟨Extend200615⟩
  | .extend200715 => ⟨Extend200715⟩
  | .extend206315 => ⟨Extend206315⟩
  | .extend203715 => ⟨Extend203715⟩
  | .extend204115 => ⟨Extend204115⟩
  | .extend204130 => ⟨Extend204130⟩
  | .extend204715 => ⟨Extend204715⟩
  | .extend200415 => ⟨Extend200415⟩

/-- `std::unique_ptr<codec::BinaryCodec> applExtend`. -/
abbrev ApplExtend := Object extendTypes

def newOrderMessageFactory : MessageFactory Bytes ExtendType := .registering [
  (ascii "010", .extend100101), (ascii "020", .extend100201), (ascii "030", .extend100301),
  (ascii "051", .extend100501), (ascii "052", .extend100501), (ascii "060", .extend100601),
  (ascii "061", .extend100601), (ascii "070", .extend100701), (ascii "150", .extend101501),
  (ascii "151", .extend101501), (ascii "152", .extend101501), (ascii "160", .extend101601),
  (ascii "170", .extend101701), (ascii "180", .extend101801), (ascii "181", .extend101801),
  (ascii "270", .extend102701), (ascii "271", .extend102701), (ascii "280", .extend102801),
  (ascii "281", .extend102801), (ascii "290", .extend102901), (ascii "291", .extend102901),
  (ascii "630", .extend106301), (ascii "350", .extend103501), (ascii "351", .extend103501),
  (ascii "370", .extend103701), (ascii "410", .extend104101), (ascii "417", .extend104128),
  (ascii "470", .extend104701)]

def executionConfirmMessageFactory : MessageFactory Bytes ExtendType := .registering [
  (ascii "010", .extend200102), (ascii "020", .extend200202), (ascii "030", .extend200302),
  (ascii "051", .extend200502), (ascii "052", .extend200502), (ascii "060", .extend200602),
  (ascii "061", .extend200602), (ascii "070", .extend200702), (ascii "150", .extend201502),
  (ascii "151", .extend201502), (ascii "152", .extend201502), (ascii "160", .extend201602),
  (ascii "170", .extend201702), (ascii "180", .extend201802), (ascii "181", .extend201802),
  (ascii "270", .extend202702), (ascii "271", .extend202702), (ascii "280", .extend202802),
  (ascii "281", .extend202802), (ascii "290", .extend202902), (ascii "291", .extend202902),
  (ascii "630", .extend206302), (ascii "350", .extend203502), (ascii "351", .extend203502),
  (ascii "370", .extend203702), (ascii "410", .extend204102), (ascii "417", .extend204129),
  (ascii "470", .extend204702)]

def executionReportMessageFactory : MessageFactory Bytes ExtendType := .registering [
  (ascii "010", .extend200115), (ascii "020", .extend200215), (ascii "030", .extend200315),
  (ascii "051", .extend200515), (ascii "052", .extend200515), (ascii "056", .extend200515),
  (ascii "057", .extend200515), (ascii "060", .extend200615), (ascii "061", .extend200615),
  (ascii "070", .extend200715), (ascii "630", .extend206315), (ascii "370", .extend203715),
  (ascii "410", .extend204115), (ascii "412", .extend204115), (ascii "413", .extend204115),
  (ascii "415", .extend204115), (ascii "416", .extend204115), (ascii "417", .extend204130),
  (ascii "470", .extend204715)]

end FinProto.Szse
