import FinProto.Szse.Extensions

/-! The message bodies of `szse_binary.hpp` and the factory that creates them. -/
namespace FinProto.Szse

open Wire

structure Logon where
  (senderCompId targetCompId : Bytes)
  heartBtint : Int32
  (password defaultApplVerId : Bytes)

instance : Message Logon where
  encode m := .seq [
    writeFixedString m.senderCompId 20, writeFixedString m.targetCompId 20,
    writeI32 m.heartBtint, writeFixedString m.password 16,
    writeFixedString m.defaultApplVerId 32]
  decode := return {
    senderCompId := ← readFixedString 20, targetCompId := ← readFixedString 20,
    heartBtint := ← readI32, password := ← readFixedString 16,
    defaultApplVerId := ← readFixedString 32 }
  equals m o :=
    m.senderCompId == o.senderCompId && m.targetCompId == o.targetCompId &&
    m.heartBtint == o.heartBtint && m.password == o.password &&
    m.defaultApplVerId == o.defaultApplVerId
  trimmed m := { m with
    senderCompId := rtrim 20 m.senderCompId, targetCompId := rtrim 20 m.targetCompId,
    password := rtrim 16 m.password, defaultApplVerId := rtrim 32 m.defaultApplVerId }
  roundTrip := .record
    (.field Logon.senderCompId fun _ => .field Logon.targetCompId fun _ =>
    .field Logon.heartBtint fun _ => .field Logon.password fun _ =>
    .field Logon.defaultApplVerId fun _ => .done fun m => by cases m; simp [and_assoc])
    (fun m => by cases m; simp [Anything]) (fun _ => rfl)
    (fun _ => by simp) (fun _ => by simp) (fun _ => Iff.rfl)

structure Logout where
  sessionStatus : Int32
  text : Bytes

instance : Message Logout where
  encode m := .seq [writeI32 m.sessionStatus, writeFixedString m.text 200]
  decode := return { sessionStatus := ← readI32, text := ← readFixedString 200 }
  equals m o := m.sessionStatus == o.sessionStatus && m.text == o.text
  trimmed m := { m with text := rtrim 200 m.text }
  roundTrip := .record
    (.field Logout.sessionStatus fun _ => .field Logout.text fun _ =>
    .done fun m => by cases m; simp)
    (fun m => by cases m; simp [Anything]) (fun _ => rfl)
    (fun _ => by simp) (fun _ => by simp) (fun _ => Iff.rfl)

structure Heartbeat where

instance : Message Heartbeat where
  encode _ := .seq []
  decode := return {}
  equals _ _ := true
  roundTrip := .record
    (.done fun m => by cases m; simp)
    (fun m => by cases m; simp) (fun _ => rfl)
    (fun _ => rfl) (fun _ => rfl) (fun _ => Iff.rfl)

structure NewOrder where
  (applId submittingPbuid securityId securityIdsource : Bytes)
  ownerType : UInt16
  clearingFirm : Bytes
  transactTime : Int64
  (userInfo clOrdId accountId branchId orderRestrictions side ordType : Bytes)
  (orderQty price : Int64)
  applExtend : ApplExtend

instance : Message NewOrder where
  encode m := .seq [
    writeFixedString m.applId 3, writeFixedString m.submittingPbuid 6,
    writeFixedString m.securityId 8, writeFixedString m.securityIdsource 4,
    writeU16 m.ownerType, writeFixedString m.clearingFirm 2, writeI64 m.transactTime,
    writeFixedString m.userInfo 8, writeFixedString m.clOrdId 10,
    writeFixedString m.accountId 12, writeFixedString m.branchId 4,
    writeFixedString m.orderRestrictions 4, writeFixedString m.side 1,
    writeFixedString m.ordType 1, writeI64 m.orderQty, writeI64 m.price, m.applExtend.encode]
  decode := do
    let applId ← readFixedString 3
    return {
      applId, submittingPbuid := ← readFixedString 6, securityId := ← readFixedString 8,
      securityIdsource := ← readFixedString 4, ownerType := ← readU16,
      clearingFirm := ← readFixedString 2, transactTime := ← readI64,
      userInfo := ← readFixedString 8, clOrdId := ← readFixedString 10,
      accountId := ← readFixedString 12, branchId := ← readFixedString 4,
      orderRestrictions := ← readFixedString 4, side := ← readFixedString 1,
      ordType := ← readFixedString 1, orderQty := ← readI64, price := ← readI64,
      applExtend := ← newOrderMessageFactory.create applId >>= Object.decode extendTypes }
  equals m o :=
    m.applId == o.applId && m.submittingPbuid == o.submittingPbuid &&
    m.securityId == o.securityId && m.securityIdsource == o.securityIdsource &&
    m.ownerType == o.ownerType && m.clearingFirm == o.clearingFirm &&
    m.transactTime == o.transactTime && m.userInfo == o.userInfo && m.clOrdId == o.clOrdId &&
    m.accountId == o.accountId && m.branchId == o.branchId &&
    m.orderRestrictions == o.orderRestrictions && m.side == o.side && m.ordType == o.ordType &&
    m.orderQty == o.orderQty && m.price == o.price && m.applExtend.equals o.applExtend
  trimmed m := { m with
    applId := rtrim 3 m.applId, submittingPbuid := rtrim 6 m.submittingPbuid,
    securityId := rtrim 8 m.securityId, securityIdsource := rtrim 4 m.securityIdsource,
    clearingFirm := rtrim 2 m.clearingFirm, userInfo := rtrim 8 m.userInfo,
    clOrdId := rtrim 10 m.clOrdId, accountId := rtrim 12 m.accountId,
    branchId := rtrim 4 m.branchId, orderRestrictions := rtrim 4 m.orderRestrictions,
    side := rtrim 1 m.side, ordType := rtrim 1 m.ordType, applExtend := m.applExtend.trimmed }
  fits m :=
    newOrderMessageFactory.find (rtrim 3 m.applId) = some m.applExtend.type ∧ m.applExtend.fits
  roundTrip := .record
    (.field NewOrder.applId fun _ => .field NewOrder.submittingPbuid fun _ =>
    .field NewOrder.securityId fun _ => .field NewOrder.securityIdsource fun _ =>
    .field NewOrder.ownerType fun _ => .field NewOrder.clearingFirm fun _ =>
    .field NewOrder.transactTime fun _ => .field NewOrder.userInfo fun _ =>
    .field NewOrder.clOrdId fun _ => .field NewOrder.accountId fun _ =>
    .field NewOrder.branchId fun _ => .field NewOrder.orderRestrictions fun _ =>
    .field NewOrder.side fun _ => .field NewOrder.ordType fun _ =>
    .field NewOrder.orderQty fun _ => .field NewOrder.price fun _ =>
    MessageFactory.inverts_field NewOrder.applExtend NewOrder.applId (by simp +contextual) fun _ =>
    .done fun m => by cases m; simp [and_assoc])
    (fun m => by cases m; constructor <;> simp +contextual [Anything]) (fun _ => rfl)
    (fun _ => by simp) (fun _ => by simp) (fun _ => by simp)

structure ExecutionConfirm where
  partitionNo : Int32
  reportIndex : Int64
  (applId reportingPbuid submittingPbuid securityId securityIdsource : Bytes)
  ownerType : UInt16
  clearingFirm : Bytes
  transactTime : Int64
  (userInfo orderId clOrdId quoteMsgId origClOrdId execId execType ordStatus : Bytes)
  ordRejReason : UInt16
  (leavesQty cumQty : Int64)
  (side ordType : Bytes)
  (orderQty price : Int64)
  (accountId branchId orderRestrictions : Bytes)
  applExtend : ApplExtend

instance : Message ExecutionConfirm where
  encode m := .seq [
    writeI32 m.partitionNo, writeI64 m.reportIndex, writeFixedString m.applId 3,
    writeFixedString m.reportingPbuid 6, writeFixedString m.submittingPbuid 6,
    writeFixedString m.securityId 8, writeFixedString m.securityIdsource 4,
    writeU16 m.ownerType, writeFixedString m.clearingFirm 2, writeI64 m.transactTime,
    writeFixedString m.userInfo 8, writeFixedString m.orderId 16, writeFixedString m.clOrdId 10,
    writeFixedString m.quoteMsgId 10, writeFixedString m.origClOrdId 10,
    writeFixedString m.execId 16, writeFixedString m.execType 1, writeFixedString m.ordStatus 1,
    writeU16 m.ordRejReason, writeI64 m.leavesQty, writeI64 m.cumQty, writeFixedString m.side 1,
    writeFixedString m.ordType 1, writeI64 m.orderQty, writeI64 m.price,
    writeFixedString m.accountId 12, writeFixedString m.branchId 4,
    writeFixedString m.orderRestrictions 4, m.applExtend.encode]
  decode := do
    let partitionNo ← readI32
    let reportIndex ← readI64
    let applId ← readFixedString 3
    return {
      partitionNo, reportIndex, applId, reportingPbuid := ← readFixedString 6,
      submittingPbuid := ← readFixedString 6, securityId := ← readFixedString 8,
      securityIdsource := ← readFixedString 4, ownerType := ← readU16,
      clearingFirm := ← readFixedString 2, transactTime := ← readI64,
      userInfo := ← readFixedString 8, orderId := ← readFixedString 16,
      clOrdId := ← readFixedString 10, quoteMsgId := ← readFixedString 10,
      origClOrdId := ← readFixedString 10, execId := ← readFixedString 16,
      execType := ← readFixedString 1, ordStatus := ← readFixedString 1,
      ordRejReason := ← readU16, leavesQty := ← readI64, cumQty := ← readI64,
      side := ← readFixedString 1, ordType := ← readFixedString 1, orderQty := ← readI64,
      price := ← readI64, accountId := ← readFixedString 12, branchId := ← readFixedString 4,
      orderRestrictions := ← readFixedString 4,
      applExtend := ← executionConfirmMessageFactory.create applId >>= Object.decode extendTypes }
  equals m o :=
    m.partitionNo == o.partitionNo && m.reportIndex == o.reportIndex && m.applId == o.applId &&
    m.reportingPbuid == o.reportingPbuid && m.submittingPbuid == o.submittingPbuid &&
    m.securityId == o.securityId && m.securityIdsource == o.securityIdsource &&
    m.ownerType == o.ownerType && m.clearingFirm == o.clearingFirm &&
    m.transactTime == o.transactTime && m.userInfo == o.userInfo && m.orderId == o.orderId &&
    m.clOrdId == o.clOrdId && m.quoteMsgId == o.quoteMsgId && m.origClOrdId == o.origClOrdId &&
    m.execId == o.execId && m.execType == o.execType && m.ordStatus == o.ordStatus &&
    m.ordRejReason == o.ordRejReason && m.leavesQty == o.leavesQty && m.cumQty == o.cumQty &&
    m.side == o.side && m.ordType == o.ordType && m.orderQty == o.orderQty &&
    m.price == o.price && m.accountId == o.accountId && m.branchId == o.branchId &&
    m.orderRestrictions == o.orderRestrictions && m.applExtend.equals o.applExtend
  trimmed m := { m with
    applId := rtrim 3 m.applId, reportingPbuid := rtrim 6 m.reportingPbuid,
    submittingPbuid := rtrim 6 m.submittingPbuid, securityId := rtrim 8 m.securityId,
    securityIdsource := rtrim 4 m.securityIdsource, clearingFirm := rtrim 2 m.clearingFirm,
    userInfo := rtrim 8 m.userInfo, orderId := rtrim 16 m.orderId,
    clOrdId := rtrim 10 m.clOrdId, quoteMsgId := rtrim 10 m.quoteMsgId,
    origClOrdId := rtrim 10 m.origClOrdId, execId := rtrim 16 m.execId,
    execType := rtrim 1 m.execType, ordStatus := rtrim 1 m.ordStatus, side := rtrim 1 m.side,
    ordType := rtrim 1 m.ordType, accountId := rtrim 12 m.accountId,
    branchId := rtrim 4 m.branchId, orderRestrictions := rtrim 4 m.orderRestrictions,
    applExtend := m.applExtend.trimmed }
  fits m :=
    executionConfirmMessageFactory.find (rtrim 3 m.applId) = some m.applExtend.type ∧
    m.applExtend.fits
  roundTrip := .record
    (.field ExecutionConfirm.partitionNo fun _ => .field ExecutionConfirm.reportIndex fun _ =>
    .field ExecutionConfirm.applId fun _ => .field ExecutionConfirm.reportingPbuid fun _ =>
    .field ExecutionConfirm.submittingPbuid fun _ => .field ExecutionConfirm.securityId fun _ =>
    .field ExecutionConfirm.securityIdsource fun _ => .field ExecutionConfirm.ownerType fun _ =>
    .field ExecutionConfirm.clearingFirm fun _ => .field ExecutionConfirm.transactTime fun _ =>
    .field ExecutionConfirm.userInfo fun _ => .field ExecutionConfirm.orderId fun _ =>
    .field ExecutionConfirm.clOrdId fun _ => .field ExecutionConfirm.quoteMsgId fun _ =>
    .field ExecutionConfirm.origClOrdId fun _ => .field ExecutionConfirm.execId fun _ =>
    .field ExecutionConfirm.execType fun _ => .field ExecutionConfirm.ordStatus fun _ =>
    .field ExecutionConfirm.ordRejReason fun _ => .field ExecutionConfirm.leavesQty fun _ =>
    .field ExecutionConfirm.cumQty fun _ => .field ExecutionConfirm.side fun _ =>
    .field ExecutionConfirm.ordType fun _ => .field ExecutionConfirm.orderQty fun _ =>
    .field ExecutionConfirm.price fun _ => .field ExecutionConfirm.accountId fun _ =>
    .field ExecutionConfirm.branchId fun _ => .field ExecutionConfirm.orderRestrictions fun _ =>
    MessageFactory.inverts_field ExecutionConfirm.applExtend ExecutionConfirm.applId
      (by simp +contextual) fun _ =>
    .done fun m => by cases m; simp [and_assoc])
    (fun m => by cases m; constructor <;> simp +contextual [Anything]) (fun _ => rfl)
    (fun _ => by simp) (fun _ => by simp) (fun _ => by simp)

structure ExecutionReport where
  partitionNo : Int32
  reportIndex : Int64
  (applId reportingPbuid submittingPbuid securityId securityIdsource : Bytes)
  ownerType : UInt16
  clearingFirm : Bytes
  transactTime : Int64
  (userInfo orderId clOrdId quoteMsgId execId execType ordStatus : Bytes)
  (lastPx lastQty leavesQty cumQty : Int64)
  (side accountId branchId : Bytes)
  applExtend : ApplExtend

instance : Message ExecutionReport where
  encode m := .seq [
    writeI32 m.partitionNo, writeI64 m.reportIndex, writeFixedString m.applId 3,
    writeFixedString m.reportingPbuid 6, writeFixedString m.submittingPbuid 6,
    writeFixedString m.securityId 8, writeFixedString m.securityIdsource 4,
    writeU16 m.ownerType, writeFixedString m.clearingFirm 2, writeI64 m.transactTime,
    writeFixedString m.userInfo 8, writeFixedString m.orderId 16, writeFixedString m.clOrdId 10,
    writeFixedString m.quoteMsgId 10, writeFixedString m.execId 16,
    writeFixedString m.execType 1, writeFixedString m.ordStatus 1, writeI64 m.lastPx,
    writeI64 m.lastQty, writeI64 m.leavesQty, writeI64 m.cumQty, writeFixedString m.side 1,
    writeFixedString m.accountId 12, writeFixedString m.branchId 4, m.applExtend.encode]
  decode := do
    let partitionNo ← readI32
    let reportIndex ← readI64
    let applId ← readFixedString 3
    return {
      partitionNo, reportIndex, applId, reportingPbuid := ← readFixedString 6,
      submittingPbuid := ← readFixedString 6, securityId := ← readFixedString 8,
      securityIdsource := ← readFixedString 4, ownerType := ← readU16,
      clearingFirm := ← readFixedString 2, transactTime := ← readI64,
      userInfo := ← readFixedString 8, orderId := ← readFixedString 16,
      clOrdId := ← readFixedString 10, quoteMsgId := ← readFixedString 10,
      execId := ← readFixedString 16, execType := ← readFixedString 1,
      ordStatus := ← readFixedString 1, lastPx := ← readI64, lastQty := ← readI64,
      leavesQty := ← readI64, cumQty := ← readI64, side := ← readFixedString 1,
      accountId := ← readFixedString 12, branchId := ← readFixedString 4,
      applExtend := ← executionReportMessageFactory.create applId >>= Object.decode extendTypes }
  equals m o :=
    m.partitionNo == o.partitionNo && m.reportIndex == o.reportIndex && m.applId == o.applId &&
    m.reportingPbuid == o.reportingPbuid && m.submittingPbuid == o.submittingPbuid &&
    m.securityId == o.securityId && m.securityIdsource == o.securityIdsource &&
    m.ownerType == o.ownerType && m.clearingFirm == o.clearingFirm &&
    m.transactTime == o.transactTime && m.userInfo == o.userInfo && m.orderId == o.orderId &&
    m.clOrdId == o.clOrdId && m.quoteMsgId == o.quoteMsgId && m.execId == o.execId &&
    m.execType == o.execType && m.ordStatus == o.ordStatus && m.lastPx == o.lastPx &&
    m.lastQty == o.lastQty && m.leavesQty == o.leavesQty && m.cumQty == o.cumQty &&
    m.side == o.side && m.accountId == o.accountId && m.branchId == o.branchId &&
    m.applExtend.equals o.applExtend
  trimmed m := { m with
    applId := rtrim 3 m.applId, reportingPbuid := rtrim 6 m.reportingPbuid,
    submittingPbuid := rtrim 6 m.submittingPbuid, securityId := rtrim 8 m.securityId,
    securityIdsource := rtrim 4 m.securityIdsource, clearingFirm := rtrim 2 m.clearingFirm,
    userInfo := rtrim 8 m.userInfo, orderId := rtrim 16 m.orderId,
    clOrdId := rtrim 10 m.clOrdId, quoteMsgId := rtrim 10 m.quoteMsgId,
    execId := rtrim 16 m.execId, execType := rtrim 1 m.execType,
    ordStatus := rtrim 1 m.ordStatus, side := rtrim 1 m.side, accountId := rtrim 12 m.accountId,
    branchId := rtrim 4 m.branchId, applExtend := m.applExtend.trimmed }
  fits m :=
    executionReportMessageFactory.find (rtrim 3 m.applId) = some m.applExtend.type ∧
    m.applExtend.fits
  roundTrip := .record
    (.field ExecutionReport.partitionNo fun _ => .field ExecutionReport.reportIndex fun _ =>
    .field ExecutionReport.applId fun _ => .field ExecutionReport.reportingPbuid fun _ =>
    .field ExecutionReport.submittingPbuid fun _ => .field ExecutionReport.securityId fun _ =>
    .field ExecutionReport.securityIdsource fun _ => .field ExecutionReport.ownerType fun _ =>
    .field ExecutionReport.clearingFirm fun _ => .field ExecutionReport.transactTime fun _ =>
    .field ExecutionReport.userInfo fun _ => .field ExecutionReport.orderId fun _ =>
    .field ExecutionReport.clOrdId fun _ => .field ExecutionReport.quoteMsgId fun _ =>
    .field ExecutionReport.execId fun _ => .field ExecutionReport.execType fun _ =>
    .field ExecutionReport.ordStatus fun _ => .field ExecutionReport.lastPx fun _ =>
    .field ExecutionReport.lastQty fun _ => .field ExecutionReport.leavesQty fun _ =>
    .field ExecutionReport.cumQty fun _ => .field ExecutionReport.side fun _ =>
    .field ExecutionReport.accountId fun _ => .field ExecutionReport.branchId fun _ =>
    MessageFactory.inverts_field ExecutionReport.applExtend ExecutionReport.applId
      (by simp +contextual) fun _ =>
    .done fun m => by cases m; simp [and_assoc])
    (fun m => by cases m; constructor <;> simp +contextual [Anything]) (fun _ => rfl)
    (fun _ => by simp) (fun _ => by simp) (fun _ => by simp)

structure OrderCancelRequest where
  (applId submittingPbuid securityId securityIdsource : Bytes)
  ownerType : UInt16
  clearingFirm : Bytes
  transactTime : Int64
  (userInfo clOrdId origClOrdId side orderId : Bytes)
  orderQty : Int64

instance : Message OrderCancelRequest where
  encode m := .seq [
    writeFixedString m.applId 3, writeFixedString m.submittingPbuid 6,
    writeFixedString m.securityId 8, writeFixedString m.securityIdsource 4,
    writeU16 m.ownerType, writeFixedString m.clearingFirm 2, writeI64 m.transactTime,
    writeFixedString m.userInfo 8, writeFixedString m.clOrdId 10,
    writeFixedString m.origClOrdId 10, writeFixedString m.side 1, writeFixedString m.orderId 16,
    writeI64 m.orderQty]
  decode := return {
    applId := ← readFixedString 3, submittingPbuid := ← readFixedString 6,
    securityId := ← readFixedString 8, securityIdsource := ← readFixedString 4,
    ownerType := ← readU16, clearingFirm := ← readFixedString 2, transactTime := ← readI64,
    userInfo := ← readFixedString 8, clOrdId := ← readFixedString 10,
    origClOrdId := ← readFixedString 10, side := ← readFixedString 1,
    orderId := ← readFixedString 16, orderQty := ← readI64 }
  equals m o :=
    m.applId == o.applId && m.submittingPbuid == o.submittingPbuid &&
    m.securityId == o.securityId && m.securityIdsource == o.securityIdsource &&
    m.ownerType == o.ownerType && m.clearingFirm == o.clearingFirm &&
    m.transactTime == o.transactTime && m.userInfo == o.userInfo && m.clOrdId == o.clOrdId &&
    m.origClOrdId == o.origClOrdId && m.side == o.side && m.orderId == o.orderId &&
    m.orderQty == o.orderQty
  trimmed m := { m with
    applId := rtrim 3 m.applId, submittingPbuid := rtrim 6 m.submittingPbuid,
    securityId := rtrim 8 m.securityId, securityIdsource := rtrim 4 m.securityIdsource,
    clearingFirm := rtrim 2 m.clearingFirm, userInfo := rtrim 8 m.userInfo,
    clOrdId := rtrim 10 m.clOrdId, origClOrdId := rtrim 10 m.origClOrdId,
    side := rtrim 1 m.side, orderId := rtrim 16 m.orderId }
  roundTrip := .record
    (.field OrderCancelRequest.applId fun _ =>
    .field OrderCancelRequest.submittingPbuid fun _ =>
    .field OrderCancelRequest.securityId fun _ =>
    .field OrderCancelRequest.securityIdsource fun _ =>
    .field OrderCancelRequest.ownerType fun _ => .field OrderCancelRequest.clearingFirm fun _ =>
    .field OrderCancelRequest.transactTime fun _ => .field OrderCancelRequest.userInfo fun _ =>
    .field OrderCancelRequest.clOrdId fun _ => .field OrderCancelRequest.origClOrdId fun _ =>
    .field OrderCancelRequest.side fun _ => .field OrderCancelRequest.orderId fun _ =>
    .field OrderCancelRequest.orderQty fun _ => .done fun m => by cases m; simp [and_assoc])
    (fun m => by cases m; simp [Anything]) (fun _ => rfl)
    (fun _ => by simp) (fun _ => by simp) (fun _ => Iff.rfl)

structure CancelReject where
  partitionNo : Int32
  reportIndex : Int64
  (applId reportingPbuid submittingPbuid securityId securityIdsource : Bytes)
  ownerType : UInt16
  clearingFirm : Bytes
  transactTime : Int64
  (userInfo clOrdId origClOrdId side ordStatus : Bytes)
  cxlRejReason : UInt16
  (rejectText orderId : Bytes)

instance : Message CancelReject where
  encode m := .seq [
    writeI32 m.partitionNo, writeI64 m.reportIndex, writeFixedString m.applId 3,
    writeFixedString m.reportingPbuid 6, writeFixedString m.submittingPbuid 6,
    writeFixedString m.securityId 8, writeFixedString m.securityIdsource 4,
    writeU16 m.ownerType, writeFixedString m.clearingFirm 2, writeI64 m.transactTime,
    writeFixedString m.userInfo 8, writeFixedString m.clOrdId 10,
    writeFixedString m.origClOrdId 10, writeFixedString m.side 1,
    writeFixedString m.ordStatus 1, writeU16 m.cxlRejReason, writeFixedString m.rejectText 16,
    writeFixedString m.orderId 16]
  decode := return {
    partitionNo := ← readI32, reportIndex := ← readI64, applId := ← readFixedString 3,
    reportingPbuid := ← readFixedString 6, submittingPbuid := ← readFixedString 6,
    securityId := ← readFixedString 8, securityIdsource := ← readFixedString 4,
    ownerType := ← readU16, clearingFirm := ← readFixedString 2, transactTime := ← readI64,
    userInfo := ← readFixedString 8, clOrdId := ← readFixedString 10,
    origClOrdId := ← readFixedString 10, side := ← readFixedString 1,
    ordStatus := ← readFixedString 1, cxlRejReason := ← readU16,
    rejectText := ← readFixedString 16, orderId := ← readFixedString 16 }
  equals m o :=
    m.partitionNo == o.partitionNo && m.reportIndex == o.reportIndex && m.applId == o.applId &&
    m.reportingPbuid == o.reportingPbuid && m.submittingPbuid == o.submittingPbuid &&
    m.securityId == o.securityId && m.securityIdsource == o.securityIdsource &&
    m.ownerType == o.ownerType && m.clearingFirm == o.clearingFirm &&
    m.transactTime == o.transactTime && m.userInfo == o.userInfo && m.clOrdId == o.clOrdId &&
    m.origClOrdId == o.origClOrdId && m.side == o.side && m.ordStatus == o.ordStatus &&
    m.cxlRejReason == o.cxlRejReason && m.rejectText == o.rejectText && m.orderId == o.orderId
  trimmed m := { m with
    applId := rtrim 3 m.applId, reportingPbuid := rtrim 6 m.reportingPbuid,
    submittingPbuid := rtrim 6 m.submittingPbuid, securityId := rtrim 8 m.securityId,
    securityIdsource := rtrim 4 m.securityIdsource, clearingFirm := rtrim 2 m.clearingFirm,
    userInfo := rtrim 8 m.userInfo, clOrdId := rtrim 10 m.clOrdId,
    origClOrdId := rtrim 10 m.origClOrdId, side := rtrim 1 m.side,
    ordStatus := rtrim 1 m.ordStatus, rejectText := rtrim 16 m.rejectText,
    orderId := rtrim 16 m.orderId }
  roundTrip := .record
    (.field CancelReject.partitionNo fun _ => .field CancelReject.reportIndex fun _ =>
    .field CancelReject.applId fun _ => .field CancelReject.reportingPbuid fun _ =>
    .field CancelReject.submittingPbuid fun _ => .field CancelReject.securityId fun _ =>
    .field CancelReject.securityIdsource fun _ => .field CancelReject.ownerType fun _ =>
    .field CancelReject.clearingFirm fun _ => .field CancelReject.transactTime fun _ =>
    .field CancelReject.userInfo fun _ => .field CancelReject.clOrdId fun _ =>
    .field CancelReject.origClOrdId fun _ => .field CancelReject.side fun _ =>
    .field CancelReject.ordStatus fun _ => .field CancelReject.cxlRejReason fun _ =>
    .field CancelReject.rejectText fun _ => .field CancelReject.orderId fun _ =>
    .done fun m => by cases m; simp [and_assoc])
    (fun m => by cases m; simp [Anything]) (fun _ => rfl)
    (fun _ => by simp) (fun _ => by simp) (fun _ => Iff.rfl)

structure BusinessReject where
  applId : Bytes
  transactTime : Int64
  (submittingPbuid securityId securityIdsource : Bytes)
  refSeqNum : Int64
  refMsgType : UInt32
  businessRejectRefId : Bytes
  businessRejectReason : UInt16
  businessRejectText : Bytes

instance : Message BusinessReject where
  encode m := .seq [
    writeFixedString m.applId 3, writeI64 m.transactTime, writeFixedString m.submittingPbuid 6,
    writeFixedString m.securityId 8, writeFixedString m.securityIdsource 4,
    writeI64 m.refSeqNum, writeU32 m.refMsgType, writeFixedString m.businessRejectRefId 10,
    writeU16 m.businessRejectReason, writeFixedString m.businessRejectText 50]
  decode := return {
    applId := ← readFixedString 3, transactTime := ← readI64,
    submittingPbuid := ← readFixedString 6, securityId := ← readFixedString 8,
    securityIdsource := ← readFixedString 4, refSeqNum := ← readI64, refMsgType := ← readU32,
    businessRejectRefId := ← readFixedString 10, businessRejectReason := ← readU16,
    businessRejectText := ← readFixedString 50 }
  equals m o :=
    m.applId == o.applId && m.transactTime == o.transactTime &&
    m.submittingPbuid == o.submittingPbuid && m.securityId == o.securityId &&
    m.securityIdsource == o.securityIdsource && m.refSeqNum == o.refSeqNum &&
    m.refMsgType == o.refMsgType && m.businessRejectRefId == o.businessRejectRefId &&
    m.businessRejectReason == o.businessRejectReason &&
    m.businessRejectText == o.businessRejectText
  trimmed m := { m with
    applId := rtrim 3 m.applId, submittingPbuid := rtrim 6 m.submittingPbuid,
    securityId := rtrim 8 m.securityId, securityIdsource := rtrim 4 m.securityIdsource,
    businessRejectRefId := rtrim 10 m.businessRejectRefId,
    businessRejectText := rtrim 50 m.businessRejectText }
  roundTrip := .record
    (.field BusinessReject.applId fun _ => .field BusinessReject.transactTime fun _ =>
    .field BusinessReject.submittingPbuid fun _ => .field BusinessReject.securityId fun _ =>
    .field BusinessReject.securityIdsource fun _ => .field BusinessReject.refSeqNum fun _ =>
    .field BusinessReject.refMsgType fun _ => .field BusinessReject.businessRejectRefId fun _ =>
    .field BusinessReject.businessRejectReason fun _ =>
    .field BusinessReject.businessRejectText fun _ =>
    .done fun m => by cases m; simp [and_assoc])
    (fun m => by cases m; simp [Anything]) (fun _ => rfl)
    (fun _ => by simp) (fun _ => by simp) (fun _ => Iff.rfl)

structure PartitionReport where
  partitionNo : Int32
  reportIndex : Int64

instance : Message PartitionReport where
  encode m := .seq [writeI32 m.partitionNo, writeI64 m.reportIndex]
  decode := return { partitionNo := ← readI32, reportIndex := ← readI64 }
  equals m o := m.partitionNo == o.partitionNo && m.reportIndex == o.reportIndex
  roundTrip := .record
    (.field PartitionReport.partitionNo fun _ => .field PartitionReport.reportIndex fun _ =>
    .done fun m => by cases m; simp)
    (fun m => by cases m; simp [Anything]) (fun _ => rfl)
    (fun _ => rfl) (fun _ => rfl) (fun _ => Iff.rfl)

structure ReportSynchronization where
  partitionReport : List PartitionReport

instance : Message ReportSynchronization where
  encode m := .seq [writeObjectList UInt32 m.partitionReport]
  decode := return { partitionReport := ← readObjectList UInt32 PartitionReport }
  equals m o := m.partitionReport == o.partitionReport
  trimmed m := { partitionReport := m.partitionReport.map trimmed }
  fits m := FitsPrefix UInt32 m.partitionReport.length ∧ (∀ o ∈ m.partitionReport, fits o)
  roundTrip := .record
    (.field ReportSynchronization.partitionReport fun _ => .done fun m => by cases m; simp)
    (fun m => by cases m; simp) (fun _ => rfl)
    (fun _ => by simp) (fun _ => by simp) (fun _ => by simp)

structure PlatformStateInfo where
  (platformId platformState : UInt16)

instance : Message PlatformStateInfo where
  encode m := .seq [writeU16 m.platformId, writeU16 m.platformState]
  decode := return { platformId := ← readU16, platformState := ← readU16 }
  equals m o := m.platformId == o.platformId && m.platformState == o.platformState
  roundTrip := .record
    (.field PlatformStateInfo.platformId fun _ =>
    .field PlatformStateInfo.platformState fun _ => .done fun m => by cases m; simp)
    (fun m => by cases m; simp [Anything]) (fun _ => rfl)
    (fun _ => rfl) (fun _ => rfl) (fun _ => Iff.rfl)

structure ReportFinished where
  partitionNo : Int32
  reportIndex : Int64
  platformId : UInt16

instance : Message ReportFinished where
  encode m := .seq [writeI32 m.partitionNo, writeI64 m.reportIndex, writeU16 m.platformId]
  decode := return {
    partitionNo := ← readI32, reportIndex := ← readI64, platformId := ← readU16 }
  equals m o :=
    m.partitionNo == o.partitionNo && m.reportIndex == o.reportIndex &&
    m.platformId == o.platformId
  roundTrip := .record
    (.field ReportFinished.partitionNo fun _ => .field ReportFinished.reportIndex fun _ =>
    .field ReportFinished.platformId fun _ => .done fun m => by cases m; simp [and_assoc])
    (fun m => by cases m; simp [Anything]) (fun _ => rfl)
    (fun _ => rfl) (fun _ => rfl) (fun _ => Iff.rfl)

structure PlatformPartition where
  partitionNo : Int32

instance : Message PlatformPartition where
  encode m := .seq [writeI32 m.partitionNo]
  decode := return { partitionNo := ← readI32 }
  equals m o := m.partitionNo == o.partitionNo
  roundTrip := .record
    (.field PlatformPartition.partitionNo fun _ => .done fun m => by cases m; simp)
    (fun m => by cases m; simp [Anything]) (fun _ => rfl)
    (fun _ => rfl) (fun _ => rfl) (fun _ => Iff.rfl)

structure PlatformInfo where
  platformId : UInt16
  platformPartition : List PlatformPartition

instance : Message PlatformInfo where
  encode m := .seq [writeU16 m.platformId, writeObjectList UInt32 m.platformPartition]
  decode := return {
    platformId := ← readU16, platformPartition := ← readObjectList UInt32 PlatformPartition }
  equals m o := m.platformId == o.platformId && m.platformPartition == o.platformPartition
  trimmed m := { m with platformPartition := m.platformPartition.map trimmed }
  fits m := FitsPrefix UInt32 m.platformPartition.length ∧ (∀ o ∈ m.platformPartition, fits o)
  roundTrip := .record
    (.field PlatformInfo.platformId fun _ => .field PlatformInfo.platformPartition fun _ =>
    .done fun m => by cases m; simp)
    (fun m => by cases m; simp [Anything]) (fun _ => rfl)
    (fun _ => by simp) (fun _ => by simp) (fun _ => by simp)

structure TradingSessionStatus where
  (marketId marketSegmentId tradingSessionId tradingSessionSubId : Bytes)
  tradSesStatus : UInt16
  (tradSesStartTime tradSesEndTime : Int64)

instance : Message TradingSessionStatus where
  encode m := .seq [
    writeFixedString m.marketId 8, writeFixedString m.marketSegmentId 8,
    writeFixedString m.tradingSessionId 4, writeFixedString m.tradingSessionSubId 4,
    writeU16 m.tradSesStatus, writeI64 m.tradSesStartTime, writeI64 m.tradSesEndTime]
  decode := return {
    marketId := ← readFixedString 8, marketSegmentId := ← readFixedString 8,
    tradingSessionId := ← readFixedString 4, tradingSessionSubId := ← readFixedString 4,
    tradSesStatus := ← readU16, tradSesStartTime := ← readI64, tradSesEndTime := ← readI64 }
  equals m o :=
    m.marketId == o.marketId && m.marketSegmentId == o.marketSegmentId &&
    m.tradingSessionId == o.tradingSessionId &&
    m.tradingSessionSubId == o.tradingSessionSubId && m.tradSesStatus == o.tradSesStatus &&
    m.tradSesStartTime == o.tradSesStartTime && m.tradSesEndTime == o.tradSesEndTime
  trimmed m := { m with
    marketId := rtrim 8 m.marketId, marketSegmentId := rtrim 8 m.marketSegmentId,
    tradingSessionId := rtrim 4 m.tradingSessionId,
    tradingSessionSubId := rtrim 4 m.tradingSessionSubId }
  roundTrip := .record
    (.field TradingSessionStatus.marketId fun _ =>
    .field TradingSessionStatus.marketSegmentId fun _ =>
    .field TradingSessionStatus.tradingSessionId fun _ =>
    .field TradingSessionStatus.tradingSessionSubId fun _ =>
    .field TradingSessionStatus.tradSesStatus fun _ =>
    .field TradingSessionStatus.tradSesStartTime fun _ =>
    .field TradingSessionStatus.tradSesEndTime fun _ =>
    .done fun m => by cases m; simp [and_assoc])
    (fun m => by cases m; simp [Anything]) (fun _ => rfl)
    (fun _ => by simp) (fun _ => by simp) (fun _ => Iff.rfl)

/-- The classes `SzseBinaryMessageFactory` creates. -/
inductive BodyType where
  | logon | logout | heartbeat | newOrder | executionConfirm | executionReport
  | orderCancelRequest | cancelReject | businessReject | reportSynchronization
  | platformStateInfo | reportFinished | platformPartition | tradingSessionStatus
  deriving DecidableEq

def bodyTypes : BodyType → MessageType
  | .logon => ⟨Logon⟩
  | .logout => ⟨Logout⟩
  | .heartbeat => ⟨Heartbeat⟩
  | .newOrder => ⟨NewOrder⟩
  | .executionConfirm => ⟨ExecutionConfirm⟩
  | .executionReport => ⟨ExecutionReport⟩
  | .orderCancelRequest => ⟨OrderCancelRequest⟩
  | .cancelReject => ⟨CancelReject⟩
  | .businessReject => ⟨BusinessReject⟩
  | .reportSynchronization => ⟨ReportSynchronization⟩
  | .platformStateInfo => ⟨PlatformStateInfo⟩
  | .reportFinished => ⟨ReportFinished⟩
  | .platformPartition => ⟨PlatformPartition⟩
  | .tradingSessionStatus => ⟨TradingSessionStatus⟩

/-- `std::unique_ptr<codec::BinaryCodec> body`. -/
abbrev Body := Object bodyTypes

def szseBinaryMessageFactory : MessageFactory UInt32 BodyType := .registering [
  (1, .logon), (2, .logout), (3, .heartbeat), (4, .businessReject), (5, .reportSynchronization),
  (6, .platformStateInfo), (7, .reportFinished), (9, .platformPartition),
  (10, .tradingSessionStatus), (100101, .newOrder), (100201, .newOrder), (100301, .newOrder),
  (100401, .newOrder), (100501, .newOrder), (100601, .newOrder), (100701, .newOrder),
  (101201, .newOrder), (101301, .newOrder), (101401, .newOrder), (101501, .newOrder),
  (101601, .newOrder), (101701, .newOrder), (101801, .newOrder), (101901, .newOrder),
  (102301, .newOrder), (102701, .newOrder), (102801, .newOrder), (102901, .newOrder),
  (103101, .newOrder), (106301, .newOrder), (103301, .newOrder), (103501, .newOrder),
  (103701, .newOrder), (104101, .newOrder), (104128, .newOrder), (104701, .newOrder),
  (200102, .executionConfirm), (200202, .executionConfirm), (200302, .executionConfirm),
  (200402, .executionConfirm), (200502, .executionConfirm), (200602, .executionConfirm),
  (200702, .executionConfirm), (201202, .executionConfirm), (201302, .executionConfirm),
  (201402, .executionConfirm), (201502, .executionConfirm), (201602, .executionConfirm),
  (201702, .executionConfirm), (201802, .executionConfirm), (201902, .executionConfirm),
  (202202, .executionConfirm), (202302, .executionConfirm), (202702, .executionConfirm),
  (202802, .executionConfirm), (202902, .executionConfirm), (203102, .executionConfirm),
  (206302, .executionConfirm), (203302, .executionConfirm), (203502, .executionConfirm),
  (203702, .executionConfirm), (204102, .executionConfirm), (204129, .executionConfirm),
  (204702, .executionConfirm), (200115, .executionReport), (200215, .executionReport),
  (200315, .executionReport), (200415, .executionReport), (200515, .executionReport),
  (200615, .executionReport), (200715, .executionReport), (206315, .executionReport),
  (203715, .executionReport), (204115, .executionReport), (204130, .executionReport),
  (190007, .orderCancelRequest), (290008, .cancelReject)]

end FinProto.Szse
