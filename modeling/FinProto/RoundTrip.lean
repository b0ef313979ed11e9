import FinProto.Rc.Binary
import FinProto.Sse.Binary
import FinProto.Szse.Binary
import FinProto.Root.Packet

/-! Round trips: a frame encoded into a new buffer is decoded again, its body
trimmed, its length and checksum as the encoder wrote them. A checksum in `int32_t` is taken to
wrap, where the code leaves an overflow undefined. -/
namespace FinProto

open Wire

/-- Every `RcBinary` whose body is of the registered class is read back. -/
theorem Rc.decode_encode_rcBinary (m : RcBinary)
    (registered : rcBinaryMessageFactory.find m.msgType = some m.body.type) (fits : m.body.fits) :
    ∃ buf : ByteBuf,
      m.encode .new = .ok buf ∧
      (RcBinary.decode.run buf).value =
        .ok { m with msgBodyLen := m.sized.lengthWord, body := m.body.trimmed } ∧
      (RcBinary.decode.run buf).state.readableBytes = 0 := by
  have valid :
      RcBinary.canonical { m with msgBodyLen := m.sized.lengthWord, body := m.body.trimmed } :=
    ⟨registered, m.body.trimmed_trimmed, m.body.fits_trimmed.mpr fits⟩
  obtain ⟨buf, encoded, _, value, used⟩ := SizedFrame.decode_encode_new (m := m) valid rfl
    m.body.bytes_encode_trimmed rfl rfl
  exact ⟨buf, encoded, value, used⟩

theorem Rc.decode_encode_buy :
    let order : NewOrder := {
      uniqueOrderId := ascii "A1", clOrdId := [], securityId := ascii "600000",
      side := ascii "BUY", price := 100, orderQty := 5, ordType := ascii " ", account := [0] }
    let m : RcBinary := ⟨100101, 1, 0, ⟨.newOrder, order⟩⟩
    let kept : NewOrder := { order with side := ascii "B", ordType := [] }
    ∃ buf : ByteBuf,
      m.encode .new = .ok buf ∧
      (RcBinary.decode.run buf).value =
        .ok { m with msgBodyLen := m.sized.lengthWord, body := ⟨.newOrder, kept⟩ } ∧
      (RcBinary.decode.run buf).state.readableBytes = 0 := by
  intro order m kept
  have small : order.uniqueOrderId.length < 2 ^ 32 ∧ order.clOrdId.length < 2 ^ 32 ∧
      order.securityId.length < 2 ^ 32 ∧ order.account.length < 2 ^ 32 := by decide
  exact Rc.decode_encode_rcBinary m rfl small

/-- Every `SseBinary` is read back, with the checksum word that ends the buffer. -/
theorem Sse.decode_encode_sseBinary (m : SseBinary)
    (registered : sseBinaryMessageFactory.find m.msgType = some m.body.type) (fits : m.body.fits) :
    ∃ (buf : ByteBuf) (framed : Bytes) (checksum : UInt32),
      m.encode .new = .ok buf ∧ buf.data = framed ++ (writeU32 checksum).bytes ∧
      (SseBinary.decode.run buf).value =
        .ok { m with msgBodyLen := m.sized.lengthWord, body := m.body.trimmed, checksum } ∧
      (SseBinary.decode.run buf).state.readableBytes = 0 := by
  have valid : SseBinary.canonical
      { m with
        msgBodyLen := m.sized.lengthWord, body := m.body.trimmed
        checksum := sseBinCalc (m.sized.written .new) } :=
    ⟨registered, m.body.trimmed_trimmed, m.body.fits_trimmed.mpr fits⟩
  obtain ⟨buf, encoded, data, value, used⟩ := SizedFrame.decode_encode_new (m := m) valid rfl
    m.body.bytes_encode_trimmed rfl rfl
  exact ⟨buf, _, sseBinCalc (m.sized.written .new), encoded, data, value, used⟩

theorem Sse.decode_encode_execRptInfo :
    let info : ExecRptInfo := {
      platformId := 1, pbu := [ascii "PBU 1   x", []], setId := [3, 4, 5] }
    let m : SseBinary := ⟨208, 9, 0, ⟨.execRptInfo, info⟩, 0⟩
    let kept : ExecRptInfo := { info with pbu := [ascii "PBU 1", []] }
    ∃ (buf : ByteBuf) (framed : Bytes) (checksum : UInt32),
      m.encode .new = .ok buf ∧ buf.data = framed ++ (writeU32 checksum).bytes ∧
      (SseBinary.decode.run buf).value =
        .ok { m with msgBodyLen := m.sized.lengthWord, body := ⟨.execRptInfo, kept⟩, checksum } ∧
      (SseBinary.decode.run buf).state.readableBytes = 0 := by
  intro info m kept
  have small : info.pbu.length < 2 ^ 16 ∧ info.setId.length < 2 ^ 16 := by decide
  exact Sse.decode_encode_sseBinary m rfl small

/-- Every `SzseBinary` is read back, its extension with it. -/
theorem Szse.decode_encode_szseBinary (m : SzseBinary)
    (registered : szseBinaryMessageFactory.find m.msgType = some m.body.type) (fits : m.body.fits) :
    ∃ (buf : ByteBuf) (framed : Bytes) (checksum : Int32),
      m.encode .new = .ok buf ∧ buf.data = framed ++ (writeI32 checksum).bytes ∧
      (SzseBinary.decode.run buf).value =
        .ok { m with bodyLength := m.sized.lengthWord, body := m.body.trimmed, checksum } ∧
      (SzseBinary.decode.run buf).state.readableBytes = 0 := by
  have valid : SzseBinary.canonical
      { m with
        bodyLength := m.sized.lengthWord, body := m.body.trimmed
        checksum := szseBinCalc (m.sized.written .new) } :=
    ⟨registered, m.body.trimmed_trimmed, m.body.fits_trimmed.mpr fits⟩
  obtain ⟨buf, encoded, data, value, used⟩ := SizedFrame.decode_encode_new (m := m) valid rfl
    m.body.bytes_encode_trimmed rfl rfl
  exact ⟨buf, _, szseBinCalc (m.sized.written .new), encoded, data, value, used⟩

theorem Szse.decode_encode_extend100101 :
    let extend : Extend100101 := {
      stopPx := 0, minQty := 0, maxPriceLevels := 5, timeInForce := ascii "0",
      cashMargin := ascii " " }
    let order : NewOrder := {
      applId := ascii "0101", submittingPbuid := [], securityId := ascii "000001",
      securityIdsource := ascii "102", ownerType := 1, clearingFirm := [], transactTime := -1,
      userInfo := [], clOrdId := ascii "C 1 ", accountId := [], branchId := [],
      orderRestrictions := [], side := ascii "1", ordType := ascii "2", orderQty := 100,
      price := 10, applExtend := ⟨.extend100101, extend⟩ }
    let m : SzseBinary := ⟨100101, 0, ⟨.newOrder, order⟩, 0⟩
    let kept : NewOrder := { order with
      applId := ascii "010", clOrdId := ascii "C 1",
      applExtend := ⟨.extend100101, { extend with cashMargin := [] }⟩ }
    ∃ (buf : ByteBuf) (framed : Bytes) (checksum : Int32),
      m.encode .new = .ok buf ∧ buf.data = framed ++ (writeI32 checksum).bytes ∧
      (SzseBinary.decode.run buf).value =
        .ok { m with bodyLength := m.sized.lengthWord, body := ⟨.newOrder, kept⟩, checksum } ∧
      (SzseBinary.decode.run buf).state.readableBytes = 0 := by
  intro extend order m kept
  have known : newOrderMessageFactory.find (rtrim 3 order.applId) = some .extend100101 := by decide
  exact Szse.decode_encode_szseBinary m rfl ⟨known, trivial⟩

/-- Every `RootPacket` is read back, floats as their bit patterns. -/
theorem Root.decode_encode_rootPacket (m : RootPacket)
    (registered : rootPacketMessageFactory.find m.msgType = some m.payload.type)
    (fits : m.payload.fits) :
    ∃ (buf : ByteBuf) (framed : Bytes) (checksum : UInt32),
      m.encode .new = .ok buf ∧ buf.data = framed ++ (writeU32Le checksum).bytes ∧
      (RootPacket.decode.run buf).value =
        .ok { m with
          payloadLen := m.sized.lengthWord, payload := m.payload.trimmed, checksum } ∧
      (RootPacket.decode.run buf).state.readableBytes = 0 := by
  have valid : RootPacket.canonical
      { m with
        payloadLen := m.sized.lengthWord, payload := m.payload.trimmed
        checksum := crc32Calc (m.sized.written .new) } :=
    ⟨registered, m.payload.trimmed_trimmed, m.payload.fits_trimmed.mpr fits⟩
  obtain ⟨buf, encoded, data, value, used⟩ := SizedFrame.decode_encode_new (m := m) valid rfl
    m.payload.bytes_encode_trimmed rfl rfl
  exact ⟨buf, _, crc32Calc (m.sized.written .new), encoded, data, value, used⟩

theorem Root.decode_encode_nestedPacket :
    let nested : NestedPacket := {
      subPacket := ⟨1, [-1, 2]⟩, subPacketList := [⟨2, []⟩, ⟨3, [7]⟩], inerPacket := ⟨4, []⟩ }
    let m : RootPacket := ⟨3, 0, ⟨.nestedPacket, nested⟩, 0⟩
    ∃ (buf : ByteBuf) (framed : Bytes) (checksum : UInt32),
      m.encode .new = .ok buf ∧ buf.data = framed ++ (writeU32Le checksum).bytes ∧
      (RootPacket.decode.run buf).value =
        .ok { m with payloadLen := m.sized.lengthWord, checksum } ∧
      (RootPacket.decode.run buf).state.readableBytes = 0 := by
  intro nested m
  have outer : nested.subPacket.fieldI16List.length < 2 ^ 16 ∧
      nested.subPacketList.length < 2 ^ 16 ∧ nested.inerPacket.fieldI16List.length < 2 ^ 16 := by
    decide
  have inner : ∀ o ∈ nested.subPacketList, o.fieldI16List.length < 2 ^ 16 := by decide
  exact Root.decode_encode_rootPacket m rfl ⟨outer.1, outer.2.1, inner, outer.2.2⟩

end FinProto
