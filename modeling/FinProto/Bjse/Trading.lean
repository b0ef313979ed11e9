import FinProto.Bjse.Extensions

/-! The quote and trade capture bodies of `bjse_binary.hpp`, which no factory
registers. -/
namespace FinProto.Bjse

open Wire

structure Quote where
  (applId submittingPbuid securityId securityIdsource : Bytes)
  ownerType : UInt16
  clearingFirm : Bytes
  transactTime : Int64
  (userInfo quoteMsgId accountId quoteReqId : Bytes)
  quoteType : UInt8
  (bidPx offerPx bidSize offerSize : Int64)
  applExtend : ApplExtend

instance : Message Quote where
  encode m := .seq [
    writeFixedString m.applId 3, writeFixedString m.submittingPbuid 6,
    writeFixedString m.securityId 8, writeFixedString m.securityIdsource 4,
    writeU16Le m.ownerType, writeFixedString m.clearingFirm 2, writeI64Le m.transactTime,
    writeFixedString m.userInfo 32, writeFixedString m.quoteMsgId 10,
    writeFixedString m.accountId 10, writeFixedString m.quoteReqId 10, writeU8 m.quoteType,
    writeI64Le m.bidPx, writeI64Le m.offerPx, writeI64Le m.bidSize, writeI64Le m.offerSize,
    m.applExtend.encode]
  decode := do
    let applId ← readFixedString 3
    return {
      applId, submittingPbuid := ← readFixedString 6, securityId := ← readFixedString 8,
      securityIdsource := ← readFixedString 4, ownerType := ← readU16Le,
      clearingFirm := ← readFixedString 2, transactTime := ← readI64Le,
      userInfo := ← readFixedString 32, quoteMsgId := ← readFixedString 10,
      accountId := ← readFixedString 10, quoteReqId := ← readFixedString 10,
      quoteType := ← readU8, bidPx := ← readI64Le, offerPx := ← readI64Le,
      bidSize := ← readI64Le, offerSize := ← readI64Le,
      applExtend := ← quoteMessageFactory.create applId >>= Object.decode extendTypes }
  equals m o :=
    m.applId == o.applId && m.submittingPbuid == o.submittingPbuid &&
    m.securityId == o.securityId && m.securityIdsource == o.securityIdsource &&
    m.ownerType == o.ownerType && m.clearingFirm == o.clearingFirm &&
    m.transactTime == o.transactTime && m.userInfo == o.userInfo &&
    m.quoteMsgId == o.quoteMsgId && m.accountId == o.accountId &&
    m.quoteReqId == o.quoteReqId && m.quoteType == o.quoteType && m.bidPx == o.bidPx &&
    m.offerPx == o.offerPx && m.bidSize == o.bidSize && m.offerSize == o.offerSize &&
    m.applExtend.equals o.applExtend
  trimmed m := { m with
    applId := rtrim 3 m.applId, submittingPbuid := rtrim 6 m.submittingPbuid,
    securityId := rtrim 8 m.securityId, securityIdsource := rtrim 4 m.securityIdsource,
    clearingFirm := rtrim 2 m.clearingFirm, userInfo := rtrim 32 m.userInfo,
    quoteMsgId := rtrim 10 m.quoteMsgId, accountId := rtrim 10 m.accountId,
    quoteReqId := rtrim 10 m.quoteReqId, applExtend := m.applExtend.trimmed }
  fits m :=
    quoteMessageFactory.find (rtrim 3 m.applId) = some m.applExtend.type ∧ m.applExtend.fits
  roundTrip := .record
    (.field Quote.applId fun _ => .field Quote.submittingPbuid fun _ =>
    .field Quote.securityId fun _ => .field Quote.securityIdsource fun _ =>
    .field Quote.ownerType fun _ => .field Quote.clearingFirm fun _ =>
    .field Quote.transactTime fun _ => .field Quote.userInfo fun _ =>
    .field Quote.quoteMsgId fun _ => .field Quote.accountId fun _ =>
    .field Quote.quoteReqId fun _ => .field Quote.quoteType fun _ => .field Quote.bidPx fun _ =>
    .field Quote.offerPx fun _ => .field Quote.bidSize fun _ => .field Quote.offerSize fun _ =>
    MessageFactory.inverts_field Quote.applExtend Quote.applId (by simp +contextual) fun _ =>
    .done fun m => by cases m; simp [and_assoc])
    (fun m => by cases m; constructor <;> simp +contextual [Anything]) (fun _ => rfl)
    (fun _ => by simp) (fun _ => by simp) (fun _ => by simp)

structure QuoteStatusReport where
  partitionNo : Int32
  reportIndex : Int64
  (applId reportingPbuid submittingPbuid securityId securityIdsource : Bytes)
  ownerType : UInt16
  clearingFirm : Bytes
  transactTime : Int64
  (userInfo quoteMsgId accountId quoteReqId : Bytes)
  quoteRjectReason : UInt64
  quoteType : UInt8
  (bidPx offerPx bidSize offerSize : Int64)
  applExtend : ApplExtend

instance : Message QuoteStatusReport where
  encode m := .seq [
    writeI32Le m.partitionNo, writeI64Le m.reportIndex, writeFixedString m.applId 3,
    writeFixedString m.reportingPbuid 6, writeFixedString m.submittingPbuid 6,
    writeFixedString m.securityId 8, writeFixedString m.securityIdsource 4,
    writeU16Le m.ownerType, writeFixedString m.clearingFirm 2, writeI64Le m.transactTime,
    writeFixedString m.userInfo 32, writeFixedString m.quoteMsgId 10,
    writeFixedString m.accountId 10, writeFixedString m.quoteReqId 10,
    writeU64Le m.quoteRjectReason, writeU8 m.quoteType, writeI64Le m.bidPx,
    writeI64Le m.offerPx, writeI64Le m.bidSize, writeI64Le m.offerSize, m.applExtend.encode]
  decode := do
    let partitionNo ← readI32Le
    let reportIndex ← readI64Le
    let applId ← readFixedString 3
    return {
      partitionNo, reportIndex, applId, reportingPbuid := ← readFixedString 6,
      submittingPbuid := ← readFixedString 6, securityId := ← readFixedString 8,
      securityIdsource := ← readFixedString 4, ownerType := ← readU16Le,
      clearingFirm := ← readFixedString 2, transactTime := ← readI64Le,
      userInfo := ← readFixedString 32, quoteMsgId := ← readFixedString 10,
      accountId := ← readFixedString 10, quoteReqId := ← readFixedString 10,
      quoteRjectReason := ← readU64Le, quoteType := ← readU8, bidPx := ← readI64Le,
      offerPx := ← readI64Le, bidSize := ← readI64Le, offerSize := ← readI64Le,
      applExtend := ← quoteStatusReportMessageFactory.create applId >>= Object.decode extendTypes }
  equals m o :=
    m.partitionNo == o.partitionNo && m.reportIndex == o.reportIndex && m.applId == o.applId &&
    m.reportingPbuid == o.reportingPbuid && m.submittingPbuid == o.submittingPbuid &&
    m.securityId == o.securityId && m.securityIdsource == o.securityIdsource &&
    m.ownerType == o.ownerType && m.clearingFirm == o.clearingFirm &&
    m.transactTime == o.transactTime && m.userInfo == o.userInfo &&
    m.quoteMsgId == o.quoteMsgId && m.accountId == o.accountId &&
    m.quoteReqId == o.quoteReqId && m.quoteRjectReason == o.quoteRjectReason &&
    m.quoteType == o.quoteType && m.bidPx == o.bidPx && m.offerPx == o.offerPx &&
    m.bidSize == o.bidSize && m.offerSize == o.offerSize && m.applExtend.equals o.applExtend
  trimmed m := { m with
    applId := rtrim 3 m.applId, reportingPbuid := rtrim 6 m.reportingPbuid,
    submittingPbuid := rtrim 6 m.submittingPbuid, securityId := rtrim 8 m.securityId,
    securityIdsource := rtrim 4 m.securityIdsource, clearingFirm := rtrim 2 m.clearingFirm,
    userInfo := rtrim 32 m.userInfo, quoteMsgId := rtrim 10 m.quoteMsgId,
    accountId := rtrim 10 m.accountId, quoteReqId := rtrim 10 m.quoteReqId,
    applExtend := m.applExtend.trimmed }
  fits m :=
    quoteStatusReportMessageFactory.find (rtrim 3 m.applId) = some m.applExtend.type ∧
    m.applExtend.fits
  roundTrip := .record
    (.field QuoteStatusReport.partitionNo fun _ => .field QuoteStatusReport.reportIndex fun _ =>
    .field QuoteStatusReport.applId fun _ => .field QuoteStatusReport.reportingPbuid fun _ =>
    .field QuoteStatusReport.submittingPbuid fun _ =>
    .field QuoteStatusReport.securityId fun _ =>
    .field QuoteStatusReport.securityIdsource fun _ =>
    .field QuoteStatusReport.ownerType fun _ => .field QuoteStatusReport.clearingFirm fun _ =>
    .field QuoteStatusReport.transactTime fun _ => .field QuoteStatusReport.userInfo fun _ =>
    .field QuoteStatusReport.quoteMsgId fun _ => .field QuoteStatusReport.accountId fun _ =>
    .field QuoteStatusReport.quoteReqId fun _ =>
    .field QuoteStatusReport.quoteRjectReason fun _ =>
    .field QuoteStatusReport.quoteType fun _ => .field QuoteStatusReport.bidPx fun _ =>
    .field QuoteStatusReport.offerPx fun _ => .field QuoteStatusReport.bidSize fun _ =>
    .field QuoteStatusReport.offerSize fun _ =>
    MessageFactory.inverts_field QuoteStatusReport.applExtend QuoteStatusReport.applId
      (by simp +contextual) fun _ =>
    .done fun m => by cases m; simp [and_assoc])
    (fun m => by cases m; constructor <;> simp +contextual [Anything]) (fun _ => rfl)
    (fun _ => by simp) (fun _ => by simp) (fun _ => by simp)

structure QuoteResponse where
  (applId reportingPbuid submittingPbuid securityId securityIdsource : Bytes)
  ownerType : UInt16
  clearingFirm : Bytes
  transactTime : Int64
  (userInfo clOrdId accountId branchId quoteRespId : Bytes)
  quoteRespType : UInt8
  side : Bytes
  validUntilTime : Int64
  (quoteType priceType : UInt8)
  quote2 : List Quote2
  applExtend : ApplExtend

instance : Message QuoteResponse where
  encode m := .seq [
    writeFixedString m.applId 3, writeFixedString m.reportingPbuid 6,
    writeFixedString m.submittingPbuid 6, writeFixedString m.securityId 8,
    writeFixedString m.securityIdsource 4, writeU16Le m.ownerType,
    writeFixedString m.clearingFirm 2, writeI64Le m.transactTime,
    writeFixedString m.userInfo 32, writeFixedString m.clOrdId 10,
    writeFixedString m.accountId 10, writeFixedString m.branchId 2,
    writeFixedString m.quoteRespId 10, writeU8 m.quoteRespType, writeFixedString m.side 1,
    writeI64Le m.validUntilTime, writeU8 m.quoteType, writeU8 m.priceType,
    writeObjectListLe UInt16 m.quote2, m.applExtend.encode]
  decode := do
    let applId ← readFixedString 3
    return {
      applId, reportingPbuid := ← readFixedString 6, submittingPbuid := ← readFixedString 6,
      securityId := ← readFixedString 8, securityIdsource := ← readFixedString 4,
      ownerType := ← readU16Le, clearingFirm := ← readFixedString 2,
      transactTime := ← readI64Le, userInfo := ← readFixedString 32,
      clOrdId := ← readFixedString 10, accountId := ← readFixedString 10,
      branchId := ← readFixedString 2, quoteRespId := ← readFixedString 10,
      quoteRespType := ← readU8, side := ← readFixedString 1, validUntilTime := ← readI64Le,
      quoteType := ← readU8, priceType := ← readU8, quote2 := ← readObjectListLe UInt16 Quote2,
      applExtend := ← quoteResponseMessageFactory.create applId >>= Object.decode extendTypes }
  equals m o :=
    m.applId == o.applId && m.reportingPbuid == o.reportingPbuid &&
    m.submittingPbuid == o.submittingPbuid && m.securityId == o.securityId &&
    m.securityIdsource == o.securityIdsource && m.ownerType == o.ownerType &&
    m.clearingFirm == o.clearingFirm && m.transactTime == o.transactTime &&
    m.userInfo == o.userInfo && m.clOrdId == o.clOrdId && m.accountId == o.accountId &&
    m.branchId == o.branchId && m.quoteRespId == o.quoteRespId &&
    m.quoteRespType == o.quoteRespType && m.side == o.side &&
    m.validUntilTime == o.validUntilTime && m.quoteType == o.quoteType &&
    m.priceType == o.priceType && m.quote2 == o.quote2 && m.applExtend.equals o.applExtend
  trimmed m := { m with
    applId := rtrim 3 m.applId, reportingPbuid := rtrim 6 m.reportingPbuid,
    submittingPbuid := rtrim 6 m.submittingPbuid, securityId := rtrim 8 m.securityId,
    securityIdsource := rtrim 4 m.securityIdsource, clearingFirm := rtrim 2 m.clearingFirm,
    userInfo := rtrim 32 m.userInfo, clOrdId := rtrim 10 m.clOrdId,
    accountId := rtrim 10 m.accountId, branchId := rtrim 2 m.branchId,
    quoteRespId := rtrim 10 m.quoteRespId, side := rtrim 1 m.side,
    quote2 := m.quote2.map trimmed, applExtend := m.applExtend.trimmed }
  fits m :=
    quoteResponseMessageFactory.find (rtrim 3 m.applId) = some m.applExtend.type ∧
    FitsPrefix UInt16 m.quote2.length ∧ (∀ o ∈ m.quote2, fits o) ∧ m.applExtend.fits
  roundTrip := .record
    (.field QuoteResponse.applId fun _ => .field QuoteResponse.reportingPbuid fun _ =>
    .field QuoteResponse.submittingPbuid fun _ => .field QuoteResponse.securityId fun _ =>
    .field QuoteResponse.securityIdsource fun _ => .field QuoteResponse.ownerType fun _ =>
    .field QuoteResponse.clearingFirm fun _ => .field QuoteResponse.transactTime fun _ =>
    .field QuoteResponse.userInfo fun _ => .field QuoteResponse.clOrdId fun _ =>
    .field QuoteResponse.accountId fun _ => .field QuoteResponse.branchId fun _ =>
    .field QuoteResponse.quoteRespId fun _ => .field QuoteResponse.quoteRespType fun _ =>
    .field QuoteResponse.side fun _ => .field QuoteResponse.validUntilTime fun _ =>
    .field QuoteResponse.quoteType fun _ => .field QuoteResponse.priceType fun _ =>
    .field QuoteResponse.quote2 fun _ =>
    MessageFactory.inverts_field QuoteResponse.applExtend QuoteResponse.applId
      (by simp +contextual) fun _ =>
    .done fun m => by cases m; simp [and_assoc])
    (fun m => by cases m; constructor <;> simp +contextual [Anything]) (fun _ => rfl)
    (fun _ => by simp) (fun _ => by simp) (fun _ => by simp)

structure AllegeQuote where
  partitionNo : Int32
  reportIndex : Int64
  (applId reportingPbuid submittingPbuid securityId securityIdsource : Bytes)
  ownerType : UInt16
  clearingFirm : Bytes
  transactTime : Int64
  (userInfo orderId execId clOrdId accountId quoteReqId quoteId quoteRespId : Bytes)
  quoteType : UInt8
  (bidPx offerPx bidSize offerSize : Int64)
  privateQuote : UInt8
  validUntilTime : Int64
  priceType : UInt8
  memo : Bytes
  applExtend : ApplExtend

instance : Message AllegeQuote where
  encode m := .seq [
    writeI32Le m.partitionNo, writeI64Le m.reportIndex, writeFixedString m.applId 3,
    writeFixedString m.reportingPbuid 6, writeFixedString m.submittingPbuid 6,
    writeFixedString m.securityId 8, writeFixedString m.securityIdsource 4,
    writeU16Le m.ownerType, writeFixedString m.clearingFirm 2, writeI64Le m.transactTime,
    writeFixedString m.userInfo 32, writeFixedString m.orderId 16, writeFixedString m.execId 16,
    writeFixedString m.clOrdId 10, writeFixedString m.accountId 10,
    writeFixedString m.quoteReqId 10, writeFixedString m.quoteId 10,
    writeFixedString m.quoteRespId 10, writeU8 m.quoteType, writeI64Le m.bidPx,
    writeI64Le m.offerPx, writeI64Le m.bidSize, writeI64Le m.offerSize, writeU8 m.privateQuote,
    writeI64Le m.validUntilTime, writeU8 m.priceType, writeFixedString m.memo 120,
    m.applExtend.encode]
  decode := do
    let partitionNo ← readI32Le
    let reportIndex ← readI64Le
    let applId ← readFixedString 3
    return {
      partitionNo, reportIndex, applId, reportingPbuid := ← readFixedString 6,
      submittingPbuid := ← readFixedString 6, securityId := ← readFixedString 8,
      securityIdsource := ← readFixedString 4, ownerType := ← readU16Le,
      clearingFirm := ← readFixedString 2, transactTime := ← readI64Le,
      userInfo := ← readFixedString 32, orderId := ← readFixedString 16,
      execId := ← readFixedString 16, clOrdId := ← readFixedString 10,
      accountId := ← readFixedString 10, quoteReqId := ← readFixedString 10,
      quoteId := ← readFixedString 10, quoteRespId := ← readFixedString 10,
      quoteType := ← readU8, bidPx := ← readI64Le, offerPx := ← readI64Le,
      bidSize := ← readI64Le, offerSize := ← readI64Le, privateQuote := ← readU8,
      validUntilTime := ← readI64Le, priceType := ← readU8, memo := ← readFixedString 120,
      applExtend := ← allegeQuoteMessageFactory.create applId >>= Object.decode extendTypes }
  equals m o :=
    m.partitionNo == o.partitionNo && m.reportIndex == o.reportIndex && m.applId == o.applId &&
    m.reportingPbuid == o.reportingPbuid && m.submittingPbuid == o.submittingPbuid &&
    m.securityId == o.securityId && m.securityIdsource == o.securityIdsource &&
    m.ownerType == o.ownerType && m.clearingFirm == o.clearingFirm &&
    m.transactTime == o.transactTime && m.userInfo == o.userInfo && m.orderId == o.orderId &&
    m.execId == o.execId && m.clOrdId == o.clOrdId && m.accountId == o.accountId &&
    m.quoteReqId == o.quoteReqId && m.quoteId == o.quoteId && m.quoteRespId == o.quoteRespId &&
    m.quoteType == o.quoteType && m.bidPx == o.bidPx && m.offerPx == o.offerPx &&
    m.bidSize == o.bidSize && m.offerSize == o.offerSize && m.privateQuote == o.privateQuote &&
    m.validUntilTime == o.validUntilTime && m.priceType == o.priceType && m.memo == o.memo &&
    m.applExtend.equals o.applExtend
  trimmed m := { m with
    applId := rtrim 3 m.applId, reportingPbuid := rtrim 6 m.reportingPbuid,
    submittingPbuid := rtrim 6 m.submittingPbuid, securityId := rtrim 8 m.securityId,
    securityIdsource := rtrim 4 m.securityIdsource, clearingFirm := rtrim 2 m.clearingFirm,
    userInfo := rtrim 32 m.userInfo, orderId := rtrim 16 m.orderId, execId := rtrim 16 m.execId,
    clOrdId := rtrim 10 m.clOrdId, accountId := rtrim 10 m.accountId,
    quoteReqId := rtrim 10 m.quoteReqId, quoteId := rtrim 10 m.quoteId,
    quoteRespId := rtrim 10 m.quoteRespId, memo := rtrim 120 m.memo,
    applExtend := m.applExtend.trimmed }
  fits m :=
    allegeQuoteMessageFactory.find (rtrim 3 m.applId) = some m.applExtend.type ∧
    m.applExtend.fits
  roundTrip := .record
    (.field AllegeQuote.partitionNo fun _ => .field AllegeQuote.reportIndex fun _ =>
    .field AllegeQuote.applId fun _ => .field AllegeQuote.reportingPbuid fun _ =>
    .field AllegeQuote.submittingPbuid fun _ => .field AllegeQuote.securityId fun _ =>
    .field AllegeQuote.securityIdsource fun _ => .field AllegeQuote.ownerType fun _ =>
    .field AllegeQuote.clearingFirm fun _ => .field AllegeQuote.transactTime fun _ =>
    .field AllegeQuote.userInfo fun _ => .field AllegeQuote.orderId fun _ =>
    .field AllegeQuote.execId fun _ => .field AllegeQuote.clOrdId fun _ =>
    .field AllegeQuote.accountId fun _ => .field AllegeQuote.quoteReqId fun _ =>
    .field AllegeQuote.quoteId fun _ => .field AllegeQuote.quoteRespId fun _ =>
    .field AllegeQuote.quoteType fun _ => .field AllegeQuote.bidPx fun _ =>
    .field AllegeQuote.offerPx fun _ => .field AllegeQuote.bidSize fun _ =>
    .field AllegeQuote.offerSize fun _ => .field AllegeQuote.privateQuote fun _ =>
    .field AllegeQuote.validUntilTime fun _ => .field AllegeQuote.priceType fun _ =>
    .field AllegeQuote.memo fun _ =>
    MessageFactory.inverts_field AllegeQuote.applExtend AllegeQuote.applId
      (by simp +contextual) fun _ =>
    .done fun m => by cases m; simp [and_assoc])
    (fun m => by cases m; constructor <;> simp +contextual [Anything]) (fun _ => rfl)
    (fun _ => by simp) (fun _ => by simp) (fun _ => by simp)

structure AllegeQuoteResponse where
  partitionNo : Int32
  reportIndex : Int64
  (applId reportingPbuid submittingPbuid securityId securityIdsource : Bytes)
  ownerType : UInt16
  clearingFirm : Bytes
  transactTime : Int64
  (userInfo orderId execId clOrdId accountId quoteId quoteRespId : Bytes)
  (quoteRespType privateQuote : UInt8)
  (orderQty price validUntilTime : Int64)
  (quoteType priceType : UInt8)

instance : Message AllegeQuoteResponse where
  encode m := .seq [
    writeI32Le m.partitionNo, writeI64Le m.reportIndex, writeFixedString m.applId 3,
    writeFixedString m.reportingPbuid 6, writeFixedString m.submittingPbuid 6,
    writeFixedString m.securityId 8, writeFixedString m.securityIdsource 4,
    writeU16Le m.ownerType, writeFixedString m.clearingFirm 2, writeI64Le m.transactTime,
    writeFixedString m.userInfo 32, writeFixedString m.orderId 16, writeFixedString m.execId 16,
    writeFixedString m.clOrdId 10, writeFixedString m.accountId 10,
    writeFixedString m.quoteId 10, writeFixedString m.quoteRespId 10, writeU8 m.quoteRespType,
    writeU8 m.privateQuote, writeI64Le m.orderQty, writeI64Le m.price,
    writeI64Le m.validUntilTime, writeU8 m.quoteType, writeU8 m.priceType]
  decode := return {
    partitionNo := ← readI32Le, reportIndex := ← readI64Le, applId := ← readFixedString 3,
    reportingPbuid := ← readFixedString 6, submittingPbuid := ← readFixedString 6,
    securityId := ← readFixedString 8, securityIdsource := ← readFixedString 4,
    ownerType := ← readU16Le, clearingFirm := ← readFixedString 2, transactTime := ← readI64Le,
    userInfo := ← readFixedString 32, orderId := ← readFixedString 16,
    execId := ← readFixedString 16, clOrdId := ← readFixedString 10,
    accountId := ← readFixedString 10, quoteId := ← readFixedString 10,
    quoteRespId := ← readFixedString 10, quoteRespType := ← readU8, privateQuote := ← readU8,
    orderQty := ← readI64Le, price := ← readI64Le, validUntilTime := ← readI64Le,
    quoteType := ← readU8, priceType := ← readU8 }
  equals m o :=
    m.partitionNo == o.partitionNo && m.reportIndex == o.reportIndex && m.applId == o.applId &&
    m.reportingPbuid == o.reportingPbuid && m.submittingPbuid == o.submittingPbuid &&
    m.securityId == o.securityId && m.securityIdsource == o.securityIdsource &&
    m.ownerType == o.ownerType && m.clearingFirm == o.clearingFirm &&
    m.transactTime == o.transactTime && m.userInfo == o.userInfo && m.orderId == o.orderId &&
    m.execId == o.execId && m.clOrdId == o.clOrdId && m.accountId == o.accountId &&
    m.quoteId == o.quoteId && m.quoteRespId == o.quoteRespId &&
    m.quoteRespType == o.quoteRespType && m.privateQuote == o.privateQuote &&
    m.orderQty == o.orderQty && m.price == o.price && m.validUntilTime == o.validUntilTime &&
    m.quoteType == o.quoteType && m.priceType == o.priceType
  trimmed m := { m with
    applId := rtrim 3 m.applId, reportingPbuid := rtrim 6 m.reportingPbuid,
    submittingPbuid := rtrim 6 m.submittingPbuid, securityId := rtrim 8 m.securityId,
    securityIdsource := rtrim 4 m.securityIdsource, clearingFirm := rtrim 2 m.clearingFirm,
    userInfo := rtrim 32 m.userInfo, orderId := rtrim 16 m.orderId, execId := rtrim 16 m.execId,
    clOrdId := rtrim 10 m.clOrdId, accountId := rtrim 10 m.accountId,
    quoteId := rtrim 10 m.quoteId, quoteRespId := rtrim 10 m.quoteRespId }
  roundTrip := .record
    (.field AllegeQuoteResponse.partitionNo fun _ =>
    .field AllegeQuoteResponse.reportIndex fun _ => .field AllegeQuoteResponse.applId fun _ =>
    .field AllegeQuoteResponse.reportingPbuid fun _ =>
    .field AllegeQuoteResponse.submittingPbuid fun _ =>
    .field AllegeQuoteResponse.securityId fun _ =>
    .field AllegeQuoteResponse.securityIdsource fun _ =>
    .field AllegeQuoteResponse.ownerType fun _ =>
    .field AllegeQuoteResponse.clearingFirm fun _ =>
    .field AllegeQuoteResponse.transactTime fun _ =>
    .field AllegeQuoteResponse.userInfo fun _ => .field AllegeQuoteResponse.orderId fun _ =>
    .field AllegeQuoteResponse.execId fun _ => .field AllegeQuoteResponse.clOrdId fun _ =>
    .field AllegeQuoteResponse.accountId fun _ => .field AllegeQuoteResponse.quoteId fun _ =>
    .field AllegeQuoteResponse.quoteRespId fun _ =>
    .field AllegeQuoteResponse.quoteRespType fun _ =>
    .field AllegeQuoteResponse.privateQuote fun _ =>
    .field AllegeQuoteResponse.orderQty fun _ => .field AllegeQuoteResponse.price fun _ =>
    .field AllegeQuoteResponse.validUntilTime fun _ =>
    .field AllegeQuoteResponse.quoteType fun _ => .field AllegeQuoteResponse.priceType fun _ =>
    .done fun m => by cases m; simp [and_assoc])
    (fun m => by cases m; simp [Anything]) (fun _ => rfl)
    (fun _ => by simp) (fun _ => by simp) (fun _ => Iff.rfl)

structure TradeCaptureReport where
  (applId submittingPbuid securityId securityIdsource : Bytes)
  ownerType : UInt16
  clearingFirm : Bytes
  transactTime : Int64
  (userInfo tradeReportId : Bytes)
  (tradeReportType tradeReportTransType : UInt8)
  (tradeHandlingInstr tradeReportRefId : Bytes)
  (lastPx lastQty : Int64)
  (trdType trdSubType : UInt16)
  confirmId : UInt32
  (side pbuid accountId branchId counterPartyPbuid counterPartyAccountId : Bytes)
  counterPartyBranchId : Bytes
  applExtend : ApplExtend

instance : Message TradeCaptureReport where
  encode m := .seq [
    writeFixedString m.applId 3, writeFixedString m.submittingPbuid 6,
    writeFixedString m.securityId 8, writeFixedString m.securityIdsource 4,
    writeU16Le m.ownerType, writeFixedString m.clearingFirm 2, writeI64Le m.transactTime,
    writeFixedString m.userInfo 32, writeFixedString m.tradeReportId 10,
    writeU8 m.tradeReportType, writeU8 m.tradeReportTransType,
    writeFixedString m.tradeHandlingInstr 1, writeFixedString m.tradeReportRefId 10,
    writeI64Le m.lastPx, writeI64Le m.lastQty, writeU16Le m.trdType, writeU16Le m.trdSubType,
    writeU32Le m.confirmId, writeFixedString m.side 1, writeFixedString m.pbuid 6,
    writeFixedString m.accountId 10, writeFixedString m.branchId 2,
    writeFixedString m.counterPartyPbuid 6, writeFixedString m.counterPartyAccountId 10,
    writeFixedString m.counterPartyBranchId 2, m.applExtend.encode]
  decode := do
    let applId ← readFixedString 3
    return {
      applId, submittingPbuid := ← readFixedString 6, securityId := ← readFixedString 8,
      securityIdsource := ← readFixedString 4, ownerType := ← readU16Le,
      clearingFirm := ← readFixedString 2, transactTime := ← readI64Le,
      userInfo := ← readFixedString 32, tradeReportId := ← readFixedString 10,
      tradeReportType := ← readU8, tradeReportTransType := ← readU8,
      tradeHandlingInstr := ← readFixedString 1, tradeReportRefId := ← readFixedString 10,
      lastPx := ← readI64Le, lastQty := ← readI64Le, trdType := ← readU16Le,
      trdSubType := ← readU16Le, confirmId := ← readU32Le, side := ← readFixedString 1,
      pbuid := ← readFixedString 6, accountId := ← readFixedString 10,
      branchId := ← readFixedString 2, counterPartyPbuid := ← readFixedString 6,
      counterPartyAccountId := ← readFixedString 10,
      counterPartyBranchId := ← readFixedString 2,
      applExtend := ← tradeCaptureReportMessageFactory.create applId >>= Object.decode extendTypes }
  equals m o :=
    m.applId == o.applId && m.submittingPbuid == o.submittingPbuid &&
    m.securityId == o.securityId && m.securityIdsource == o.securityIdsource &&
    m.ownerType == o.ownerType && m.clearingFirm == o.clearingFirm &&
    m.transactTime == o.transactTime && m.userInfo == o.userInfo &&
    m.tradeReportId == o.tradeReportId && m.tradeReportType == o.tradeReportType &&
    m.tradeReportTransType == o.tradeReportTransType &&
    m.tradeHandlingInstr == o.tradeHandlingInstr && m.tradeReportRefId == o.tradeReportRefId &&
    m.lastPx == o.lastPx && m.lastQty == o.lastQty && m.trdType == o.trdType &&
    m.trdSubType == o.trdSubType && m.confirmId == o.confirmId && m.side == o.side &&
    m.pbuid == o.pbuid && m.accountId == o.accountId && m.branchId == o.branchId &&
    m.counterPartyPbuid == o.counterPartyPbuid &&
    m.counterPartyAccountId == o.counterPartyAccountId &&
    m.counterPartyBranchId == o.counterPartyBranchId && m.applExtend.equals o.applExtend
  trimmed m := { m with
    applId := rtrim 3 m.applId, submittingPbuid := rtrim 6 m.submittingPbuid,
    securityId := rtrim 8 m.securityId, securityIdsource := rtrim 4 m.securityIdsource,
    clearingFirm := rtrim 2 m.clearingFirm, userInfo := rtrim 32 m.userInfo,
    tradeReportId := rtrim 10 m.tradeReportId,
    tradeHandlingInstr := rtrim 1 m.tradeHandlingInstr,
    tradeReportRefId := rtrim 10 m.tradeReportRefId, side := rtrim 1 m.side,
    pbuid := rtrim 6 m.pbuid, accountId := rtrim 10 m.accountId, branchId := rtrim 2 m.branchId,
    counterPartyPbuid := rtrim 6 m.counterPartyPbuid,
    counterPartyAccountId := rtrim 10 m.counterPartyAccountId,
    counterPartyBranchId := rtrim 2 m.counterPartyBranchId, applExtend := m.applExtend.trimmed }
  fits m :=
    tradeCaptureReportMessageFactory.find (rtrim 3 m.applId) = some m.applExtend.type ∧
    m.applExtend.fits
  roundTrip := .record
    (.field TradeCaptureReport.applId fun _ =>
    .field TradeCaptureReport.submittingPbuid fun _ =>
    .field TradeCaptureReport.securityId fun _ =>
    .field TradeCaptureReport.securityIdsource fun _ =>
    .field TradeCaptureReport.ownerType fun _ => .field TradeCaptureReport.clearingFirm fun _ =>
    .field TradeCaptureReport.transactTime fun _ => .field TradeCaptureReport.userInfo fun _ =>
    .field TradeCaptureReport.tradeReportId fun _ =>
    .field TradeCaptureReport.tradeReportType fun _ =>
    .field TradeCaptureReport.tradeReportTransType fun _ =>
    .field TradeCaptureReport.tradeHandlingInstr fun _ =>
    .field TradeCaptureReport.tradeReportRefId fun _ =>
    .field TradeCaptureReport.lastPx fun _ => .field TradeCaptureReport.lastQty fun _ =>
    .field TradeCaptureReport.trdType fun _ => .field TradeCaptureReport.trdSubType fun _ =>
    .field TradeCaptureReport.confirmId fun _ => .field TradeCaptureReport.side fun _ =>
    .field TradeCaptureReport.pbuid fun _ => .field TradeCaptureReport.accountId fun _ =>
    .field TradeCaptureReport.branchId fun _ =>
    .field TradeCaptureReport.counterPartyPbuid fun _ =>
    .field TradeCaptureReport.counterPartyAccountId fun _ =>
    .field TradeCaptureReport.counterPartyBranchId fun _ =>
    MessageFactory.inverts_field TradeCaptureReport.applExtend TradeCaptureReport.applId
      (by simp +contextual) fun _ =>
    .done fun m => by cases m; simp [and_assoc])
    (fun m => by cases m; constructor <;> simp +contextual [Anything]) (fun _ => rfl)
    (fun _ => by simp) (fun _ => by simp) (fun _ => by simp)

structure TradeCaptureReportAck where
  partitionNo : Int32
  reportIndex : Int64
  (applId reportingPbuid submittingPbuid securityId securityIdsource : Bytes)
  ownerType : UInt16
  clearingFirm : Bytes
  transactTime : Int64
  (userInfo tradeId tradeReportId : Bytes)
  (tradeReportType tradeReportTransType : UInt8)
  (tradeHandlingInstr tradeReportRefId : Bytes)
  (trdAckStatus trdRptStatus : UInt8)
  tradeReportRejectReason : UInt16
  (lastPx lastQty : Int64)
  (trdType trdSubType : UInt16)
  confirmId : UInt32
  (execId side pbuid accountId branchId counterPartyPbuid counterPartyAccountId : Bytes)
  counterPartyBranchId : Bytes
  applExtend : ApplExtend

instance : Message TradeCaptureReportAck where
  encode m := .seq [
    writeI32Le m.partitionNo, writeI64Le m.reportIndex, writeFixedString m.applId 3,
    writeFixedString m.reportingPbuid 6, writeFixedString m.submittingPbuid 6,
    writeFixedString m.securityId 8, writeFixedString m.securityIdsource 4,
    writeU16Le m.ownerType, writeFixedString m.clearingFirm 2, writeI64Le m.transactTime,
    writeFixedString m.userInfo 32, writeFixedString m.tradeId 16,
    writeFixedString m.tradeReportId 10, writeU8 m.tradeReportType,
    writeU8 m.tradeReportTransType, writeFixedString m.tradeHandlingInstr 1,
    writeFixedString m.tradeReportRefId 10, writeU8 m.trdAckStatus, writeU8 m.trdRptStatus,
    writeU16Le m.tradeReportRejectReason, writeI64Le m.lastPx, writeI64Le m.lastQty,
    writeU16Le m.trdType, writeU16Le m.trdSubType, writeU32Le m.confirmId,
    writeFixedString m.execId 16, writeFixedString m.side 1, writeFixedString m.pbuid 6,
    writeFixedString m.accountId 10, writeFixedString m.branchId 2,
    writeFixedString m.counterPartyPbuid 6, writeFixedString m.counterPartyAccountId 10,
    writeFixedString m.counterPartyBranchId 2, m.applExtend.encode]
  decode := do
    let partitionNo ← readI32Le
    let reportIndex ← readI64Le
    let applId ← readFixedString 3
    return {
      partitionNo, reportIndex, applId, reportingPbuid := ← readFixedString 6,
      submittingPbuid := ← readFixedString 6, securityId := ← readFixedString 8,
      securityIdsource := ← readFixedString 4, ownerType := ← readU16Le,
      clearingFirm := ← readFixedString 2, transactTime := ← readI64Le,
      userInfo := ← readFixedString 32, tradeId := ← readFixedString 16,
      tradeReportId := ← readFixedString 10, tradeReportType := ← readU8,
      tradeReportTransType := ← readU8, tradeHandlingInstr := ← readFixedString 1,
      tradeReportRefId := ← readFixedString 10, trdAckStatus := ← readU8,
      trdRptStatus := ← readU8, tradeReportRejectReason := ← readU16Le, lastPx := ← readI64Le,
      lastQty := ← readI64Le, trdType := ← readU16Le, trdSubType := ← readU16Le,
      confirmId := ← readU32Le, execId := ← readFixedString 16, side := ← readFixedString 1,
      pbuid := ← readFixedString 6, accountId := ← readFixedString 10,
      branchId := ← readFixedString 2, counterPartyPbuid := ← readFixedString 6,
      counterPartyAccountId := ← readFixedString 10,
      counterPartyBranchId := ← readFixedString 2,
      applExtend := ← tradeCaptureReportAckMessageFactory.create applId >>= Object.decode extendTypes }
  equals m o :=
    m.partitionNo == o.partitionNo && m.reportIndex == o.reportIndex && m.applId == o.applId &&
    m.reportingPbuid == o.reportingPbuid && m.submittingPbuid == o.submittingPbuid &&
    m.securityId == o.securityId && m.securityIdsource == o.securityIdsource &&
    m.ownerType == o.ownerType && m.clearingFirm == o.clearingFirm &&
    m.transactTime == o.transactTime && m.userInfo == o.userInfo && m.tradeId == o.tradeId &&
    m.tradeReportId == o.tradeReportId && m.tradeReportType == o.tradeReportType &&
    m.tradeReportTransType == o.tradeReportTransType &&
    m.tradeHandlingInstr == o.tradeHandlingInstr && m.tradeReportRefId == o.tradeReportRefId &&
    m.trdAckStatus == o.trdAckStatus && m.trdRptStatus == o.trdRptStatus &&
    m.tradeReportRejectReason == o.tradeReportRejectReason && m.lastPx == o.lastPx &&
    m.lastQty == o.lastQty && m.trdType == o.trdType && m.trdSubType == o.trdSubType &&
    m.confirmId == o.confirmId && m.execId == o.execId && m.side == o.side &&
    m.pbuid == o.pbuid && m.accountId == o.accountId && m.branchId == o.branchId &&
    m.counterPartyPbuid == o.counterPartyPbuid &&
    m.counterPartyAccountId == o.counterPartyAccountId &&
    m.counterPartyBranchId == o.counterPartyBranchId && m.applExtend.equals o.applExtend
  trimmed m := { m with
    applId := rtrim 3 m.applId, reportingPbuid := rtrim 6 m.reportingPbuid,
    submittingPbuid := rtrim 6 m.submittingPbuid, securityId := rtrim 8 m.securityId,
    securityIdsource := rtrim 4 m.securityIdsource, clearingFirm := rtrim 2 m.clearingFirm,
    userInfo := rtrim 32 m.userInfo, tradeId := rtrim 16 m.tradeId,
    tradeReportId := rtrim 10 m.tradeReportId,
    tradeHandlingInstr := rtrim 1 m.tradeHandlingInstr,
    tradeReportRefId := rtrim 10 m.tradeReportRefId, execId := rtrim 16 m.execId,
    side := rtrim 1 m.side, pbuid := rtrim 6 m.pbuid, accountId := rtrim 10 m.accountId,
    branchId := rtrim 2 m.branchId, counterPartyPbuid := rtrim 6 m.counterPartyPbuid,
    counterPartyAccountId := rtrim 10 m.counterPartyAccountId,
    counterPartyBranchId := rtrim 2 m.counterPartyBranchId, applExtend := m.applExtend.trimmed }
  fits m :=
    tradeCaptureReportAckMessageFactory.find (rtrim 3 m.applId) = some m.applExtend.type ∧
    m.applExtend.fits
  roundTrip := .record
    (.field TradeCaptureReportAck.partitionNo fun _ =>
    .field TradeCaptureReportAck.reportIndex fun _ =>
    .field TradeCaptureReportAck.applId fun _ =>
    .field TradeCaptureReportAck.reportingPbuid fun _ =>
    .field TradeCaptureReportAck.submittingPbuid fun _ =>
    .field TradeCaptureReportAck.securityId fun _ =>
    .field TradeCaptureReportAck.securityIdsource fun _ =>
    .field TradeCaptureReportAck.ownerType fun _ =>
    .field TradeCaptureReportAck.clearingFirm fun _ =>
    .field TradeCaptureReportAck.transactTime fun _ =>
    .field TradeCaptureReportAck.userInfo fun _ => .field TradeCaptureReportAck.tradeId fun _ =>
    .field TradeCaptureReportAck.tradeReportId fun _ =>
    .field TradeCaptureReportAck.tradeReportType fun _ =>
    .field TradeCaptureReportAck.tradeReportTransType fun _ =>
    .field TradeCaptureReportAck.tradeHandlingInstr fun _ =>
    .field TradeCaptureReportAck.tradeReportRefId fun _ =>
    .field TradeCaptureReportAck.trdAckStatus fun _ =>
    .field TradeCaptureReportAck.trdRptStatus fun _ =>
    .field TradeCaptureReportAck.tradeReportRejectReason fun _ =>
    .field TradeCaptureReportAck.lastPx fun _ => .field TradeCaptureReportAck.lastQty fun _ =>
    .field TradeCaptureReportAck.trdType fun _ =>
    .field TradeCaptureReportAck.trdSubType fun _ =>
    .field TradeCaptureReportAck.confirmId fun _ => .field TradeCaptureReportAck.execId fun _ =>
    .field TradeCaptureReportAck.side fun _ => .field TradeCaptureReportAck.pbuid fun _ =>
    .field TradeCaptureReportAck.accountId fun _ =>
    .field TradeCaptureReportAck.branchId fun _ =>
    .field TradeCaptureReportAck.counterPartyPbuid fun _ =>
    .field TradeCaptureReportAck.counterPartyAccountId fun _ =>
    .field TradeCaptureReportAck.counterPartyBranchId fun _ =>
    MessageFactory.inverts_field TradeCaptureReportAck.applExtend TradeCaptureReportAck.applId
      (by simp +contextual) fun _ =>
    .done fun m => by cases m; simp [and_assoc])
    (fun m => by cases m; constructor <;> simp +contextual [Anything]) (fun _ => rfl)
    (fun _ => by simp) (fun _ => by simp) (fun _ => by simp)

structure TradeCaptureConfirm where
  partitionNo : Int32
  reportIndex : Int64
  (applId reportingPbuid submittingPbuid securityId securityIdsource : Bytes)
  ownerType : UInt16
  clearingFirm : Bytes
  transactTime : Int64
  (userInfo tradeId tradeReportId : Bytes)
  (tradeReportType tradeReportTransType : UInt8)
  tradeHandlingInstr : Bytes
  (lastPx lastQty : Int64)
  (trdType trdSubType : UInt16)
  confirmId : UInt32
  (execId side pbuid accountId branchId counterPartyPbuid counterPartyAccountId : Bytes)
  counterPartyBranchId : Bytes
  applExtend : ApplExtend

instance : Message TradeCaptureConfirm where
  encode m := .seq [
    writeI32Le m.partitionNo, writeI64Le m.reportIndex, writeFixedString m.applId 3,
    writeFixedString m.reportingPbuid 6, writeFixedString m.submittingPbuid 6,
    writeFixedString m.securityId 8, writeFixedString m.securityIdsource 4,
    writeU16Le m.ownerType, writeFixedString m.clearingFirm 2, writeI64Le m.transactTime,
    writeFixedString m.userInfo 32, writeFixedString m.tradeId 16,
    writeFixedString m.tradeReportId 10, writeU8 m.tradeReportType,
    writeU8 m.tradeReportTransType, writeFixedString m.tradeHandlingInstr 1,
    writeI64Le m.lastPx, writeI64Le m.lastQty, writeU16Le m.trdType, writeU16Le m.trdSubType,
    writeU32Le m.confirmId, writeFixedString m.execId 16, writeFixedString m.side 1,
    writeFixedString m.pbuid 6, writeFixedString m.accountId 10, writeFixedString m.branchId 2,
    writeFixedString m.counterPartyPbuid 6, writeFixedString m.counterPartyAccountId 10,
    writeFixedString m.counterPartyBranchId 2, m.applExtend.encode]
  decode := do
    let partitionNo ← readI32Le
    let reportIndex ← readI64Le
    let applId ← readFixedString 3
    return {
      partitionNo, reportIndex, applId, reportingPbuid := ← readFixedString 6,
      submittingPbuid := ← readFixedString 6, securityId := ← readFixedString 8,
      securityIdsource := ← readFixedString 4, ownerType := ← readU16Le,
      clearingFirm := ← readFixedString 2, transactTime := ← readI64Le,
      userInfo := ← readFixedString 32, tradeId := ← readFixedString 16,
      tradeReportId := ← readFixedString 10, tradeReportType := ← readU8,
      tradeReportTransType := ← readU8, tradeHandlingInstr := ← readFixedString 1,
      lastPx := ← readI64Le, lastQty := ← readI64Le, trdType := ← readU16Le,
      trdSubType := ← readU16Le, confirmId := ← readU32Le, execId := ← readFixedString 16,
      side := ← readFixedString 1, pbuid := ← readFixedString 6,
      accountId := ← readFixedString 10, branchId := ← readFixedString 2,
      counterPartyPbuid := ← readFixedString 6, counterPartyAccountId := ← readFixedString 10,
      counterPartyBranchId := ← readFixedString 2,
      applExtend := ← tradeCaptureConfirmMessageFactory.create applId >>= Object.decode extendTypes }
  equals m o :=
    m.partitionNo == o.partitionNo && m.reportIndex == o.reportIndex && m.applId == o.applId &&
    m.reportingPbuid == o.reportingPbuid && m.submittingPbuid == o.submittingPbuid &&
    m.securityId == o.securityId && m.securityIdsource == o.securityIdsource &&
    m.ownerType == o.ownerType && m.clearingFirm == o.clearingFirm &&
    m.transactTime == o.transactTime && m.userInfo == o.userInfo && m.tradeId == o.tradeId &&
    m.tradeReportId == o.tradeReportId && m.tradeReportType == o.tradeReportType &&
    m.tradeReportTransType == o.tradeReportTransType &&
    m.tradeHandlingInstr == o.tradeHandlingInstr && m.lastPx == o.lastPx &&
    m.lastQty == o.lastQty && m.trdType == o.trdType && m.trdSubType == o.trdSubType &&
    m.confirmId == o.confirmId && m.execId == o.execId && m.side == o.side &&
    m.pbuid == o.pbuid && m.accountId == o.accountId && m.branchId == o.branchId &&
    m.counterPartyPbuid == o.counterPartyPbuid &&
    m.counterPartyAccountId == o.counterPartyAccountId &&
    m.counterPartyBranchId == o.counterPartyBranchId && m.applExtend.equals o.applExtend
  trimmed m := { m with
    applId := rtrim 3 m.applId, reportingPbuid := rtrim 6 m.reportingPbuid,
    submittingPbuid := rtrim 6 m.submittingPbuid, securityId := rtrim 8 m.securityId,
    securityIdsource := rtrim 4 m.securityIdsource, clearingFirm := rtrim 2 m.clearingFirm,
    userInfo := rtrim 32 m.userInfo, tradeId := rtrim 16 m.tradeId,
    tradeReportId := rtrim 10 m.tradeReportId,
    tradeHandlingInstr := rtrim 1 m.tradeHandlingInstr, execId := rtrim 16 m.execId,
    side := rtrim 1 m.side, pbuid := rtrim 6 m.pbuid, accountId := rtrim 10 m.accountId,
    branchId := rtrim 2 m.branchId, counterPartyPbuid := rtrim 6 m.counterPartyPbuid,
    counterPartyAccountId := rtrim 10 m.counterPartyAccountId,
    counterPartyBranchId := rtrim 2 m.counterPartyBranchId, applExtend := m.applExtend.trimmed }
  fits m :=
    tradeCaptureConfirmMessageFactory.find (rtrim 3 m.applId) = some m.applExtend.type ∧
    m.applExtend.fits
  roundTrip := .record
    (.field TradeCaptureConfirm.partitionNo fun _ =>
    .field TradeCaptureConfirm.reportIndex fun _ => .field TradeCaptureConfirm.applId fun _ =>
    .field TradeCaptureConfirm.reportingPbuid fun _ =>
    .field TradeCaptureConfirm.submittingPbuid fun _ =>
    .field TradeCaptureConfirm.securityId fun _ =>
    .field TradeCaptureConfirm.securityIdsource fun _ =>
    .field TradeCaptureConfirm.ownerType fun _ =>
    .field TradeCaptureConfirm.clearingFirm fun _ =>
    .field TradeCaptureConfirm.transactTime fun _ =>
    .field TradeCaptureConfirm.userInfo fun _ => .field TradeCaptureConfirm.tradeId fun _ =>
    .field TradeCaptureConfirm.tradeReportId fun _ =>
    .field TradeCaptureConfirm.tradeReportType fun _ =>
    .field TradeCaptureConfirm.tradeReportTransType fun _ =>
    .field TradeCaptureConfirm.tradeHandlingInstr fun _ =>
    .field TradeCaptureConfirm.lastPx fun _ => .field TradeCaptureConfirm.lastQty fun _ =>
    .field TradeCaptureConfirm.trdType fun _ => .field TradeCaptureConfirm.trdSubType fun _ =>
    .field TradeCaptureConfirm.confirmId fun _ => .field TradeCaptureConfirm.execId fun _ =>
    .field TradeCaptureConfirm.side fun _ => .field TradeCaptureConfirm.pbuid fun _ =>
    .field TradeCaptureConfirm.accountId fun _ => .field TradeCaptureConfirm.branchId fun _ =>
    .field TradeCaptureConfirm.counterPartyPbuid fun _ =>
    .field TradeCaptureConfirm.counterPartyAccountId fun _ =>
    .field TradeCaptureConfirm.counterPartyBranchId fun _ =>
    MessageFactory.inverts_field TradeCaptureConfirm.applExtend TradeCaptureConfirm.applId
      (by simp +contextual) fun _ =>
    .done fun m => by cases m; simp [and_assoc])
    (fun m => by cases m; constructor <;> simp +contextual [Anything]) (fun _ => rfl)
    (fun _ => by simp) (fun _ => by simp) (fun _ => by simp)

end FinProto.Bjse
