import FinProto.Message

/-! The message bodies of `sse_binary.hpp` and the factory that creates them. -/
namespace FinProto.Sse

open Wire

structure Heartbeat where

instance : Message Heartbeat where
  encode _ := .seq []
  decode := return {}
  equals _ _ := true
  roundTrip := .record
    (.done fun m => by cases m; simp)
    (fun m => by cases m; simp) (fun _ => rfl)
    (fun _ => rfl) (fun _ => rfl) (fun _ => Iff.rfl)

structure Logon where
  (senderCompId targetCompId : Bytes)
  heartBtInt : UInt16
  prtclVersion : Bytes
  (tradeDate qsize : UInt32)

instance : Message Logon where
  encode m := .seq [
    writeFixedString m.senderCompId 32, writeFixedString m.targetCompId 32,
    writeU16 m.heartBtInt, writeFixedString m.prtclVersion 8, writeU32 m.tradeDate,
    writeU32 m.qsize]
  decode := return {
    senderCompId := ← readFixedString 32, targetCompId := ← readFixedString 32,
    heartBtInt := ← readU16, prtclVersion := ← readFixedString 8, tradeDate := ← readU32,
    qsize := ← readU32 }
  equals m o :=
    m.senderCompId == o.senderCompId && m.targetCompId == o.targetCompId &&
    m.heartBtInt == o.heartBtInt && m.prtclVersion == o.prtclVersion &&
    m.tradeDate == o.tradeDate && m.qsize == o.qsize
  trimmed m := { m with
    senderCompId := rtrim 32 m.senderCompId, targetCompId := rtrim 32 m.targetCompId,
    prtclVersion := rtrim 8 m.prtclVersion }
  roundTrip := .record
    (.field Logon.senderCompId fun _ => .field Logon.targetCompId fun _ =>
    .field Logon.heartBtInt fun _ => .field Logon.prtclVersion fun _ =>
    .field Logon.tradeDate fun _ => .field Logon.qsize fun _ =>
    .done fun m => by cases m; simp [and_assoc])
    (fun m => by cases m; simp [Anything]) (fun _ => rfl)
    (fun _ => by simp) (fun _ => by simp) (fun _ => Iff.rfl)

structure Logout where
  sessionStatus : UInt32
  text : Bytes

instance : Message Logout where
  encode m := .seq [writeU32 m.sessionStatus, writeFixedString m.text 64]
  decode := return { sessionStatus := ← readU32, text := ← readFixedString 64 }
  equals m o := m.sessionStatus == o.sessionStatus && m.text == o.text
  trimmed m := { m with text := rtrim 64 m.text }
  roundTrip := .record
    (.field Logout.sessionStatus fun _ => .field Logout.text fun _ =>
    .done fun m => by cases m; simp)
    (fun m => by cases m; simp [Anything]) (fun _ => rfl)
    (fun _ => by simp) (fun _ => by simp) (fun _ => Iff.rfl)

structure NewOrderSingle where
  bizId : UInt32
  (bizPbu clOrdId securityId account : Bytes)
  ownerType : UInt8
  side : Bytes
  (price orderQty : Int64)
  (ordType timeInForce : Bytes)
  transactTime : UInt64
  (creditTag clearingFirm branchId userInfo : Bytes)

instance : Message NewOrderSingle where
  encode m := .seq [
    writeU32 m.bizId, writeFixedString m.bizPbu 8, writeFixedString m.clOrdId 10,
    writeFixedString m.securityId 12, writeFixedString m.account 13, writeU8 m.ownerType,
    writeFixedString m.side 1, writeI64 m.price, writeI64 m.orderQty,
    writeFixedString m.ordType 1, writeFixedString m.timeInForce 1, writeU64 m.transactTime,
    writeFixedString m.creditTag 2, writeFixedString m.clearingFirm 8,
    writeFixedString m.branchId 8, writeFixedString m.userInfo 32]
  decode := return {
    bizId := ← readU32, bizPbu := ← readFixedString 8, clOrdId := ← readFixedString 10,
    securityId := ← readFixedString 12, account := ← readFixedString 13, ownerType := ← readU8,
    side := ← readFixedString 1, price := ← readI64, orderQty := ← readI64,
    ordType := ← readFixedString 1, timeInForce := ← readFixedString 1,
    transactTime := ← readU64, creditTag := ← readFixedString 2,
    clearingFirm := ← readFixedString 8, branchId := ← readFixedString 8,
    userInfo := ← readFixedString 32 }
  equals m o :=
    m.bizId == o.bizId && m.bizPbu == o.bizPbu && m.clOrdId == o.clOrdId &&
    m.securityId == o.securityId && m.account == o.account && m.ownerType == o.ownerType &&
    m.side == o.side && m.price == o.price && m.orderQty == o.orderQty &&
    m.ordType == o.ordType && m.timeInForce == o.timeInForce &&
    m.transactTime == o.transactTime && m.creditTag == o.creditTag &&
    m.clearingFirm == o.clearingFirm && m.branchId == o.branchId && m.userInfo == o.userInfo
  trimmed m := { m with
    bizPbu := rtrim 8 m.bizPbu, clOrdId := rtrim 10 m.clOrdId,
    securityId := rtrim 12 m.securityId, account := rtrim 13 m.account, side := rtrim 1 m.side,
    ordType := rtrim 1 m.ordType, timeInForce := rtrim 1 m.timeInForce,
    creditTag := rtrim 2 m.creditTag, clearingFirm := rtrim 8 m.clearingFirm,
    branchId := rtrim 8 m.branchId, userInfo := rtrim 32 m.userInfo }
  roundTrip := .record
    (.field NewOrderSingle.bizId fun _ => .field NewOrderSingle.bizPbu fun _ =>
    .field NewOrderSingle.clOrdId fun _ => .field NewOrderSingle.securityId fun _ =>
    .field NewOrderSingle.account fun _ => .field NewOrderSingle.ownerType fun _ =>
    .field NewOrderSingle.side fun _ => .field NewOrderSingle.price fun _ =>
    .field NewOrderSingle.orderQty fun _ => .field NewOrderSingle.ordType fun _ =>
    .field NewOrderSingle.timeInForce fun _ => .field NewOrderSingle.transactTime fun _ =>
    .field NewOrderSingle.creditTag fun _ => .field NewOrderSingle.clearingFirm fun _ =>
    .field NewOrderSingle.branchId fun _ => .field NewOrderSingle.userInfo fun _ =>
    .done fun m => by cases m; simp [and_assoc])
    (fun m => by cases m; simp [Anything]) (fun _ => rfl)
    (fun _ => by simp) (fun _ => by simp) (fun _ => Iff.rfl)

structure OrderCancel where
  bizId : UInt32
  (bizPbu clOrdId securityId account : Bytes)
  ownerType : UInt8
  (side origClOrdId : Bytes)
  transactTime : UInt64
  (branchId userInfo : Bytes)

instance : Message OrderCancel where
  encode m := .seq [
    writeU32 m.bizId, writeFixedString m.bizPbu 8, writeFixedString m.clOrdId 10,
    writeFixedString m.securityId 12, writeFixedString m.account 13, writeU8 m.ownerType,
    writeFixedString m.side 1, writeFixedString m.origClOrdId 10, writeU64 m.transactTime,
    writeFixedString m.branchId 8, writeFixedString m.userInfo 32]
  decode := return {
    bizId := ← readU32, bizPbu := ← readFixedString 8, clOrdId := ← readFixedString 10,
    securityId := ← readFixedString 12, account := ← readFixedString 13, ownerType := ← readU8,
    side := ← readFixedString 1, origClOrdId := ← readFixedString 10, transactTime := ← readU64,
    branchId := ← readFixedString 8, userInfo := ← readFixedString 32 }
  equals m o :=
    m.bizId == o.bizId && m.bizPbu == o.bizPbu && m.clOrdId == o.clOrdId &&
    m.securityId == o.securityId && m.account == o.account && m.ownerType == o.ownerType &&
    m.side == o.side && m.origClOrdId == o.origClOrdId && m.transactTime == o.transactTime &&
    m.branchId == o.branchId && m.userInfo == o.userInfo
  trimmed m := { m with
    bizPbu := rtrim 8 m.bizPbu, clOrdId := rtrim 10 m.clOrdId,
    securityId := rtrim 12 m.securityId, account := rtrim 13 m.account, side := rtrim 1 m.side,
    origClOrdId := rtrim 10 m.origClOrdId, branchId := rtrim 8 m.branchId,
    userInfo := rtrim 32 m.userInfo }
  roundTrip := .record
    (.field OrderCancel.bizId fun _ => .field OrderCancel.bizPbu fun _ =>
    .field OrderCancel.clOrdId fun _ => .field OrderCancel.securityId fun _ =>
    .field OrderCancel.account fun _ => .field OrderCancel.ownerType fun _ =>
    .field OrderCancel.side fun _ => .field OrderCancel.origClOrdId fun _ =>
    .field OrderCancel.transactTime fun _ => .field OrderCancel.branchId fun _ =>
    .field OrderCancel.userInfo fun _ => .done fun m => by cases m; simp [and_assoc])
    (fun m => by cases m; simp [Anything]) (fun _ => rfl)
    (fun _ => by simp) (fun _ => by simp) (fun _ => Iff.rfl)

structure Confirm where
  pbu : Bytes
  setId : UInt32
  reportIndex : UInt64
  bizId : UInt32
  (execType bizPbu clOrdId securityId account : Bytes)
  ownerType : UInt8
  side : Bytes
  (price orderQty leavesQty cxlQty : Int64)
  (ordType timeInForce ordStatus creditTag origClOrdId clearingFirm branchId : Bytes)
  ordRejReason : UInt32
  (ordCnfmId origOrdCnfmId : Bytes)
  tradeDate : UInt32
  transactTime : UInt64
  userInfo : Bytes

instance : Message Confirm where
  encode m := .seq [
    writeFixedString m.pbu 8, writeU32 m.setId, writeU64 m.reportIndex, writeU32 m.bizId,
    writeFixedString m.execType 1, writeFixedString m.bizPbu 8, writeFixedString m.clOrdId 10,
    writeFixedString m.securityId 12, writeFixedString m.account 13, writeU8 m.ownerType,
    writeFixedString m.side 1, writeI64 m.price, writeI64 m.orderQty, writeI64 m.leavesQty,
    writeI64 m.cxlQty, writeFixedString m.ordType 1, writeFixedString m.timeInForce 1,
    writeFixedString m.ordStatus 1, writeFixedString m.creditTag 2,
    writeFixedString m.origClOrdId 10, writeFixedString m.clearingFirm 8,
    writeFixedString m.branchId 8, writeU32 m.ordRejReason, writeFixedString m.ordCnfmId 16,
    writeFixedString m.origOrdCnfmId 16, writeU32 m.tradeDate, writeU64 m.transactTime,
    writeFixedString m.userInfo 32]
  decode := return {
    pbu := ← readFixedString 8, setId := ← readU32, reportIndex := ← readU64,
    bizId := ← readU32, execType := ← readFixedString 1, bizPbu := ← readFixedString 8,
    clOrdId := ← readFixedString 10, securityId := ← readFixedString 12,
    account := ← readFixedString 13, ownerType := ← readU8, side := ← readFixedString 1,
    price := ← readI64, orderQty := ← readI64, leavesQty := ← readI64, cxlQty := ← readI64,
    ordType := ← readFixedString 1, timeInForce := ← readFixedString 1,
    ordStatus := ← readFixedString 1, creditTag := ← readFixedString 2,
    origClOrdId := ← readFixedString 10, clearingFirm := ← readFixedString 8,
    branchId := ← readFixedString 8, ordRejReason := ← readU32,
    ordCnfmId := ← readFixedString 16, origOrdCnfmId := ← readFixedString 16,
    tradeDate := ← readU32, transactTime := ← readU64, userInfo := ← readFixedString 32 }
  equals m o :=
    m.pbu == o.pbu && m.setId == o.setId && m.reportIndex == o.reportIndex &&
    m.bizId == o.bizId && m.execType == o.execType && m.bizPbu == o.bizPbu &&
    m.clOrdId == o.clOrdId && m.securityId == o.securityId && m.account == o.account &&
    m.ownerType == o.ownerType && m.side == o.side && m.price == o.price &&
    m.orderQty == o.orderQty && m.leavesQty == o.leavesQty && m.cxlQty == o.cxlQty &&
    m.ordType == o.ordType && m.timeInForce == o.timeInForce && m.ordStatus == o.ordStatus &&
    m.creditTag == o.creditTag && m.origClOrdId == o.origClOrdId &&
    m.clearingFirm == o.clearingFirm && m.branchId == o.branchId &&
    m.ordRejReason == o.ordRejReason && m.ordCnfmId == o.ordCnfmId &&
    m.origOrdCnfmId == o.origOrdCnfmId && m.tradeDate == o.tradeDate &&
    m.transactTime == o.transactTime && m.userInfo == o.userInfo
  trimmed m := { m with
    pbu := rtrim 8 m.pbu, execType := rtrim 1 m.execType, bizPbu := rtrim 8 m.bizPbu,
    clOrdId := rtrim 10 m.clOrdId, securityId := rtrim 12 m.securityId,
    account := rtrim 13 m.account, side := rtrim 1 m.side, ordType := rtrim 1 m.ordType,
    timeInForce := rtrim 1 m.timeInForce, ordStatus := rtrim 1 m.ordStatus,
    creditTag := rtrim 2 m.creditTag, origClOrdId := rtrim 10 m.origClOrdId,
    clearingFirm := rtrim 8 m.clearingFirm, branchId := rtrim 8 m.branchId,
    ordCnfmId := rtrim 16 m.ordCnfmId, origOrdCnfmId := rtrim 16 m.origOrdCnfmId,
    userInfo := rtrim 32 m.userInfo }
  roundTrip := .record
    (.field Confirm.pbu fun _ => .field Confirm.setId fun _ =>
    .field Confirm.reportIndex fun _ => .field Confirm.bizId fun _ =>
    .field Confirm.execType fun _ => .field Confirm.bizPbu fun _ =>
    .field Confirm.clOrdId fun _ => .field Confirm.securityId fun _ =>
    .field Confirm.account fun _ => .field Confirm.ownerType fun _ =>
    .field Confirm.side fun _ => .field Confirm.price fun _ => .field Confirm.orderQty fun _ =>
    .field Confirm.leavesQty fun _ => .field Confirm.cxlQty fun _ =>
    .field Confirm.ordType fun _ => .field Confirm.timeInForce fun _ =>
    .field Confirm.ordStatus fun _ => .field Confirm.creditTag fun _ =>
    .field Confirm.origClOrdId fun _ => .field Confirm.clearingFirm fun _ =>
    .field Confirm.branchId fun _ => .field Confirm.ordRejReason fun _ =>
    .field Confirm.ordCnfmId fun _ => .field Confirm.origOrdCnfmId fun _ =>
    .field Confirm.tradeDate fun _ => .field Confirm.transactTime fun _ =>
    .field Confirm.userInfo fun _ => .done fun m => by cases m; simp [and_assoc])
    (fun m => by cases m; simp [Anything]) (fun _ => rfl)
    (fun _ => by simp) (fun _ => by simp) (fun _ => Iff.rfl)

structure CancelReject where
  pbu : Bytes
  setId : UInt32
  reportIndex : UInt64
  bizId : UInt32
  (bizPbu clOrdId securityId origClOrdId branchId : Bytes)
  (cxlRejReason tradeDate : UInt32)
  transactTime : UInt64
  userInfo : Bytes

instance : Message CancelReject where
  encode m := .seq [
    writeFixedString m.pbu 8, writeU32 m.setId, writeU64 m.reportIndex, writeU32 m.bizId,
    writeFixedString m.bizPbu 8, writeFixedString m.clOrdId 10,
    writeFixedString m.securityId 12, writeFixedString m.origClOrdId 10,
    writeFixedString m.branchId 8, writeU32 m.cxlRejReason, writeU32 m.tradeDate,
    writeU64 m.transactTime, writeFixedString m.userInfo 32]
  decode := return {
    pbu := ← readFixedString 8, setId := ← readU32, reportIndex := ← readU64,
    bizId := ← readU32, bizPbu := ← readFixedString 8, clOrdId := ← readFixedString 10,
    securityId := ← readFixedString 12, origClOrdId := ← readFixedString 10,
    branchId := ← readFixedString 8, cxlRejReason := ← readU32, tradeDate := ← readU32,
    transactTime := ← readU64, userInfo := ← readFixedString 32 }
  equals m o :=
    m.pbu == o.pbu && m.setId == o.setId && m.reportIndex == o.reportIndex &&
    m.bizId == o.bizId && m.bizPbu == o.bizPbu && m.clOrdId == o.clOrdId &&
    m.securityId == o.securityId && m.origClOrdId == o.origClOrdId &&
    m.branchId == o.branchId && m.cxlRejReason == o.cxlRejReason &&
    m.tradeDate == o.tradeDate && m.transactTime == o.transactTime && m.userInfo == o.userInfo
  trimmed m := { m with
    pbu := rtrim 8 m.pbu, bizPbu := rtrim 8 m.bizPbu, clOrdId := rtrim 10 m.clOrdId,
    securityId := rtrim 12 m.securityId, origClOrdId := rtrim 10 m.origClOrdId,
    branchId := rtrim 8 m.branchId, userInfo := rtrim 32 m.userInfo }
  roundTrip := .record
    (.field CancelReject.pbu fun _ => .field CancelReject.setId fun _ =>
    .field CancelReject.reportIndex fun _ => .field CancelReject.bizId fun _ =>
    .field CancelReject.bizPbu fun _ => .field CancelReject.clOrdId fun _ =>
    .field CancelReject.securityId fun _ => .field CancelReject.origClOrdId fun _ =>
    .field CancelReject.branchId fun _ => .field CancelReject.cxlRejReason fun _ =>
    .field CancelReject.tradeDate fun _ => .field CancelReject.transactTime fun _ =>
    .field CancelReject.userInfo fun _ => .done fun m => by cases m; simp [and_assoc])
    (fun m => by cases m; simp [Anything]) (fun _ => rfl)
    (fun _ => by simp) (fun _ => by simp) (fun _ => Iff.rfl)

structure Report where
  pbu : Bytes
  setId : UInt32
  reportIndex : UInt64
  bizId : UInt32
  (execType bizPbu clOrdId securityId account : Bytes)
  ownerType : UInt8
  orderEntryTime : UInt64
  (lastPx lastQty grossTradeAmt : Int64)
  side : Bytes
  (orderQty leavesQty : Int64)
  (ordStatus creditTag clearingFirm branchId trdCnfmId ordCnfmId : Bytes)
  tradeDate : UInt32
  transactTime : UInt64
  userInfo : Bytes

instance : Message Report where
  encode m := .seq [
    writeFixedString m.pbu 8, writeU32 m.setId, writeU64 m.reportIndex, writeU32 m.bizId,
    writeFixedString m.execType 1, writeFixedString m.bizPbu 8, writeFixedString m.clOrdId 10,
    writeFixedString m.securityId 12, writeFixedString m.account 13, writeU8 m.ownerType,
    writeU64 m.orderEntryTime, writeI64 m.lastPx, writeI64 m.lastQty, writeI64 m.grossTradeAmt,
    writeFixedString m.side 1, writeI64 m.orderQty, writeI64 m.leavesQty,
    writeFixedString m.ordStatus 1, writeFixedString m.creditTag 2,
    writeFixedString m.clearingFirm 8, writeFixedString m.branchId 8,
    writeFixedString m.trdCnfmId 16, writeFixedString m.ordCnfmId 16, writeU32 m.tradeDate,
    writeU64 m.transactTime, writeFixedString m.userInfo 32]
  decode := return {
    pbu := ← readFixedString 8, setId := ← readU32, reportIndex := ← readU64,
    bizId := ← readU32, execType := ← readFixedString 1, bizPbu := ← readFixedString 8,
    clOrdId := ← readFixedString 10, securityId := ← readFixedString 12,
    account := ← readFixedString 13, ownerType := ← readU8, orderEntryTime := ← readU64,
    lastPx := ← readI64, lastQty := ← readI64, grossTradeAmt := ← readI64,
    side := ← readFixedString 1, orderQty := ← readI64, leavesQty := ← readI64,
    ordStatus := ← readFixedString 1, creditTag := ← readFixedString 2,
    clearingFirm := ← readFixedString 8, branchId := ← readFixedString 8,
    trdCnfmId := ← readFixedString 16, ordCnfmId := ← readFixedString 16,
    tradeDate := ← readU32, transactTime := ← readU64, userInfo := ← readFixedString 32 }
  equals m o :=
    m.pbu == o.pbu && m.setId == o.setId && m.reportIndex == o.reportIndex &&
    m.bizId == o.bizId && m.execType == o.execType && m.bizPbu == o.bizPbu &&
    m.clOrdId == o.clOrdId && m.securityId == o.securityId && m.account == o.account &&
    m.ownerType == o.ownerType && m.orderEntryTime == o.orderEntryTime &&
    m.lastPx == o.lastPx && m.lastQty == o.lastQty && m.grossTradeAmt == o.grossTradeAmt &&
    m.side == o.side && m.orderQty == o.orderQty && m.leavesQty == o.leavesQty &&
    m.ordStatus == o.ordStatus && m.creditTag == o.creditTag &&
    m.clearingFirm == o.clearingFirm && m.branchId == o.branchId &&
    m.trdCnfmId == o.trdCnfmId && m.ordCnfmId == o.ordCnfmId && m.tradeDate == o.tradeDate &&
    m.transactTime == o.transactTime && m.userInfo == o.userInfo
  trimmed m := { m with
    pbu := rtrim 8 m.pbu, execType := rtrim 1 m.execType, bizPbu := rtrim 8 m.bizPbu,
    clOrdId := rtrim 10 m.clOrdId, securityId := rtrim 12 m.securityId,
    account := rtrim 13 m.account, side := rtrim 1 m.side, ordStatus := rtrim 1 m.ordStatus,
    creditTag := rtrim 2 m.creditTag, clearingFirm := rtrim 8 m.clearingFirm,
    branchId := rtrim 8 m.branchId, trdCnfmId := rtrim 16 m.trdCnfmId,
    ordCnfmId := rtrim 16 m.ordCnfmId, userInfo := rtrim 32 m.userInfo }
  roundTrip := .record
    (.field Report.pbu fun _ => .field Report.setId fun _ => .field Report.reportIndex fun _ =>
    .field Report.bizId fun _ => .field Report.execType fun _ => .field Report.bizPbu fun _ =>
    .field Report.clOrdId fun _ => .field Report.securityId fun _ =>
    .field Report.account fun _ => .field Report.ownerType fun _ =>
    .field Report.orderEntryTime fun _ => .field Report.lastPx fun _ =>
    .field Report.lastQty fun _ => .field Report.grossTradeAmt fun _ =>
    .field Report.side fun _ => .field Report.orderQty fun _ => .field Report.leavesQty fun _ =>
    .field Report.ordStatus fun _ => .field Report.creditTag fun _ =>
    .field Report.clearingFirm fun _ => .field Report.branchId fun _ =>
    .field Report.trdCnfmId fun _ => .field Report.ordCnfmId fun _ =>
    .field Report.tradeDate fun _ => .field Report.transactTime fun _ =>
    .field Report.userInfo fun _ => .done fun m => by cases m; simp [and_assoc])
    (fun m => by cases m; simp [Anything]) (fun _ => rfl)
    (fun _ => by simp) (fun _ => by simp) (fun _ => Iff.rfl)

structure OrderReject where
  bizId : UInt32
  (bizPbu clOrdId securityId : Bytes)
  (ordRejReason tradeDate : UInt32)
  transactTime : UInt64
  userInfo : Bytes

instance : Message OrderReject where
  encode m := .seq [
    writeU32 m.bizId, writeFixedString m.bizPbu 8, writeFixedString m.clOrdId 10,
    writeFixedString m.securityId 12, writeU32 m.ordRejReason, writeU32 m.tradeDate,
    writeU64 m.transactTime, writeFixedString m.userInfo 32]
  decode := return {
    bizId := ← readU32, bizPbu := ← readFixedString 8, clOrdId := ← readFixedString 10,
    securityId := ← readFixedString 12, ordRejReason := ← readU32, tradeDate := ← readU32,
    transactTime := ← readU64, userInfo := ← readFixedString 32 }
  equals m o :=
    m.bizId == o.bizId && m.bizPbu == o.bizPbu && m.clOrdId == o.clOrdId &&
    m.securityId == o.securityId && m.ordRejReason == o.ordRejReason &&
    m.tradeDate == o.tradeDate && m.transactTime == o.transactTime && m.userInfo == o.userInfo
  trimmed m := { m with
    bizPbu := rtrim 8 m.bizPbu, clOrdId := rtrim 10 m.clOrdId,
    securityId := rtrim 12 m.securityId, userInfo := rtrim 32 m.userInfo }
  roundTrip := .record
    (.field OrderReject.bizId fun _ => .field OrderReject.bizPbu fun _ =>
    .field OrderReject.clOrdId fun _ => .field OrderReject.securityId fun _ =>
    .field OrderReject.ordRejReason fun _ => .field OrderReject.tradeDate fun _ =>
    .field OrderReject.transactTime fun _ => .field OrderReject.userInfo fun _ =>
    .done fun m => by cases m; simp [and_assoc])
    (fun m => by cases m; simp [Anything]) (fun _ => rfl)
    (fun _ => by simp) (fun _ => by simp) (fun _ => Iff.rfl)

structure PlatformState where
  (platformId platformState : UInt16)

instance : Message PlatformState where
  encode m := .seq [writeU16 m.platformId, writeU16 m.platformState]
  decode := return { platformId := ← readU16, platformState := ← readU16 }
  equals m o := m.platformId == o.platformId && m.platformState == o.platformState
  roundTrip := .record
    (.field PlatformState.platformId fun _ => .field PlatformState.platformState fun _ =>
    .done fun m => by cases m; simp)
    (fun m => by cases m; simp [Anything]) (fun _ => rfl)
    (fun _ => rfl) (fun _ => rfl) (fun _ => Iff.rfl)

structure ExecRptInfo where
  platformId : UInt16
  pbu : List Bytes
  setId : List UInt32

instance : Message ExecRptInfo where
  encode m := .seq [
    writeU16 m.platformId, writeFixedStringList UInt16 m.pbu 8,
    writeBasicType UInt16 UInt32 m.setId]
  decode := return {
    platformId := ← readU16, pbu := ← readFixedStringList UInt16 8,
    setId := ← readBasicType UInt16 UInt32 }
  equals m o := m.platformId == o.platformId && m.pbu == o.pbu && m.setId == o.setId
  trimmed m := { m with pbu := m.pbu.map (rtrim 8) }
  fits m := FitsPrefix UInt16 m.pbu.length ∧ FitsPrefix UInt16 m.setId.length
  roundTrip := .record
    (.field ExecRptInfo.platformId fun _ => .field ExecRptInfo.pbu fun _ =>
    .field ExecRptInfo.setId fun _ => .done fun m => by cases m; simp [and_assoc])
    (fun m => by cases m; simp [Anything, and_assoc]) (fun _ => rfl)
    (fun _ => by simp) (fun _ => by simp) (fun _ => by simp)

structure SubExecRptSync where
  pbu : Bytes
  setId : UInt32
  beginReportIndex : UInt64

instance : Message SubExecRptSync where
  encode m := .seq [writeFixedString m.pbu 8, writeU32 m.setId, writeU64 m.beginReportIndex]
  decode := return {
    pbu := ← readFixedString 8, setId := ← readU32, beginReportIndex := ← readU64 }
  equals m o := m.pbu == o.pbu && m.setId == o.setId && m.beginReportIndex == o.beginReportIndex
  trimmed m := { m with pbu := rtrim 8 m.pbu }
  roundTrip := .record
    (.field SubExecRptSync.pbu fun _ => .field SubExecRptSync.setId fun _ =>
    .field SubExecRptSync.beginReportIndex fun _ => .done fun m => by cases m; simp [and_assoc])
    (fun m => by cases m; simp [Anything]) (fun _ => rfl)
    (fun _ => by simp) (fun _ => by simp) (fun _ => Iff.rfl)

structure ExecRptSync where
  subExecRptSync : List SubExecRptSync

instance : Message ExecRptSync where
  encode m := .seq [writeObjectList UInt16 m.subExecRptSync]
  decode := return { subExecRptSync := ← readObjectList UInt16 SubExecRptSync }
  equals m o := m.subExecRptSync == o.subExecRptSync
  trimmed m := { subExecRptSync := m.subExecRptSync.map trimmed }
  fits m := FitsPrefix UInt16 m.subExecRptSync.length ∧ (∀ o ∈ m.subExecRptSync, fits o)
  roundTrip := .record
    (.field ExecRptSync.subExecRptSync fun _ => .done fun m => by cases m; simp)
    (fun m => by cases m; simp) (fun _ => rfl)
    (fun _ => by simp) (fun _ => by simp) (fun _ => by simp)

structure SubExecRptSyncRsp where
  pbu : Bytes
  setId : UInt32
  (beginReportIndex endReportIndex : UInt64)
  rejReason : UInt32
  text : Bytes

instance : Message SubExecRptSyncRsp where
  encode m := .seq [
    writeFixedString m.pbu 8, writeU32 m.setId, writeU64 m.beginReportIndex,
    writeU64 m.endReportIndex, writeU32 m.rejReason, writeFixedString m.text 64]
  decode := return {
    pbu := ← readFixedString 8, setId := ← readU32, beginReportIndex := ← readU64,
    endReportIndex := ← readU64, rejReason := ← readU32, text := ← readFixedString 64 }
  equals m o :=
    m.pbu == o.pbu && m.setId == o.setId && m.beginReportIndex == o.beginReportIndex &&
    m.endReportIndex == o.endReportIndex && m.rejReason == o.rejReason && m.text == o.text
  trimmed m := { m with pbu := rtrim 8 m.pbu, text := rtrim 64 m.text }
  roundTrip := .record
    (.field SubExecRptSyncRsp.pbu fun _ => .field SubExecRptSyncRsp.setId fun _ =>
    .field SubExecRptSyncRsp.beginReportIndex fun _ =>
    .field SubExecRptSyncRsp.endReportIndex fun _ => .field SubExecRptSyncRsp.rejReason fun _ =>
    .field SubExecRptSyncRsp.text fun _ => .done fun m => by cases m; simp [and_assoc])
    (fun m => by cases m; simp [Anything]) (fun _ => rfl)
    (fun _ => by simp) (fun _ => by simp) (fun _ => Iff.rfl)

structure ExecRptSyncRsp where
  subExecRptSyncRsp : List SubExecRptSyncRsp

instance : Message ExecRptSyncRsp where
  encode m := .seq [writeObjectList UInt16 m.subExecRptSyncRsp]
  decode := return { subExecRptSyncRsp := ← readObjectList UInt16 SubExecRptSyncRsp }
  equals m o := m.subExecRptSyncRsp == o.subExecRptSyncRsp
  trimmed m := { subExecRptSyncRsp := m.subExecRptSyncRsp.map trimmed }
  fits m := FitsPrefix UInt16 m.subExecRptSyncRsp.length ∧ (∀ o ∈ m.subExecRptSyncRsp, fits o)
  roundTrip := .record
    (.field ExecRptSyncRsp.subExecRptSyncRsp fun _ => .done fun m => by cases m; simp)
    (fun m => by cases m; simp) (fun _ => rfl)
    (fun _ => by simp) (fun _ => by simp) (fun _ => by simp)

structure ExecRptEndOfStream where
  pbu : Bytes
  setId : UInt32
  endReportIndex : UInt64

instance : Message ExecRptEndOfStream where
  encode m := .seq [writeFixedString m.pbu 8, writeU32 m.setId, writeU64 m.endReportIndex]
  decode := return {
    pbu := ← readFixedString 8, setId := ← readU32, endReportIndex := ← readU64 }
  equals m o := m.pbu == o.pbu && m.setId == o.setId && m.endReportIndex == o.endReportIndex
  trimmed m := { m with pbu := rtrim 8 m.pbu }
  roundTrip := .record
    (.field ExecRptEndOfStream.pbu fun _ => .field ExecRptEndOfStream.setId fun _ =>
    .field ExecRptEndOfStream.endReportIndex fun _ =>
    .done fun m => by cases m; simp [and_assoc])
    (fun m => by cases m; simp [Anything]) (fun _ => rfl)
    (fun _ => by simp) (fun _ => by simp) (fun _ => Iff.rfl)

/-- The classes `SseBinaryMessageFactory` creates. -/
inductive BodyType where
  | heartbeat | logon | logout | newOrderSingle | orderCancel | confirm | cancelReject | report
  | orderReject | platformState | execRptInfo | execRptSync | execRptSyncRsp
  | execRptEndOfStream
  deriving DecidableEq

def bodyTypes : BodyType → MessageType
  | .heartbeat => ⟨Heartbeat⟩
  | .logon => ⟨Logon⟩
  | .logout => ⟨Logout⟩
  | .newOrderSingle => ⟨NewOrderSingle⟩
  | .orderCancel => ⟨OrderCancel⟩
  | .confirm => ⟨Confirm⟩
  | .cancelReject => ⟨CancelReject⟩
  | .report => ⟨Report⟩
  | .orderReject => ⟨OrderReject⟩
  | .platformState => ⟨PlatformState⟩
  | .execRptInfo => ⟨ExecRptInfo⟩
  | .execRptSync => ⟨ExecRptSync⟩
  | .execRptSyncRsp => ⟨ExecRptSyncRsp⟩
  | .execRptEndOfStream => ⟨ExecRptEndOfStream⟩

/-- `std::unique_ptr<codec::BinaryCodec> body`. -/
abbrev Body := Object bodyTypes

def sseBinaryMessageFactory : MessageFactory UInt32 BodyType := .registering [
  (33, .heartbeat), (40, .logon), (41, .logout), (58, .newOrderSingle), (61, .orderCancel),
  (32, .confirm), (59, .cancelReject), (103, .report), (204, .orderReject),
  (209, .platformState), (208, .execRptInfo), (206, .execRptSync), (207, .execRptSyncRsp),
  (210, .execRptEndOfStream)]

end FinProto.Sse
