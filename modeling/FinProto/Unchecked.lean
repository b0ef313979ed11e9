import FinProto.Reencode
import FinProto.Transport

/-! The words that `encode` computes and `decode` does not look at. A frame with any other
length and checksum is accepted just the same; one choice of them is what `encode` sends, where
the sum in `int32_t` is taken to wrap. -/
namespace FinProto

open Wire

namespace AgreeOutside
variable {b c front word middle back : Bytes} {lengthAt trailer : Nat}

theorem length_of_parts (agree : AgreeOutside lengthAt trailer b c)
    (parts : b = front ++ word ++ middle ++ back) (start : front.length = lengthAt)
    (width : word.length = 4) (tail : back.length = trailer) :
    c.length = lengthAt + 4 + middle.length + trailer := by
  rw [agree.length, parts]
  simp only [List.length_append]
  omega

theorem take_front (agree : AgreeOutside lengthAt trailer b c)
    (parts : b = front ++ word ++ middle ++ back) (start : front.length = lengthAt) :
    c.take lengthAt = front := by
  apply List.ext_getElem?
  intro i
  by_cases before : i < lengthAt
  · have inside : i < front.length := by rwa [start]
    rw [List.getElem?_take_of_lt before, agree.header i before, parts, List.append_assoc,
      List.append_assoc, List.getElem?_append_left inside]
  · rw [List.getElem?_take_eq_none (Nat.le_of_not_lt before), List.getElem?_eq_none (by omega)]

theorem take_middle (agree : AgreeOutside lengthAt trailer b c)
    (parts : b = front ++ word ++ middle ++ back) (start : front.length = lengthAt)
    (width : word.length = 4) (tail : back.length = trailer) :
    (c.drop (lengthAt + 4)).take middle.length = middle := by
  have size := agree.length_of_parts parts start width tail
  apply List.ext_getElem?
  intro i
  by_cases within : i < middle.length
  · have around : (front ++ word).length = lengthAt + 4 := by
      rw [List.length_append, start, width]
    have total : lengthAt + 4 + i + trailer < b.length := by
      rw [← agree.length, size]
      omega
    rw [List.getElem?_take_of_lt within, List.getElem?_drop,
      agree.body _ (Nat.le_add_right _ _) total, parts,
      getElem?_middle (by omega) (by omega), around, Nat.add_sub_cancel_left]
  · rw [List.getElem?_take_eq_none (Nat.le_of_not_lt within),
      List.getElem?_eq_none (Nat.le_of_not_lt within)]

/-- Strings that differ only in a word and at the end have the same parts around them. -/
theorem split (agree : AgreeOutside lengthAt trailer b c)
    (parts : b = front ++ word ++ middle ++ back) (start : front.length = lengthAt)
    (width : word.length = 4) (tail : back.length = trailer) :
    ∃ word' back' : Bytes, c = front ++ word' ++ middle ++ back' ∧ word'.length = 4 ∧
      back'.length = trailer := by
  have size := agree.length_of_parts parts start width tail
  refine ⟨(c.drop lengthAt).take 4, c.drop (lengthAt + 4 + middle.length), ?_, ?_, ?_⟩
  · have behind := List.take_append_drop middle.length (c.drop (lengthAt + 4))
    rw [agree.take_middle parts start width tail, List.drop_drop] at behind
    calc c = c.take lengthAt ++ ((c.drop lengthAt).take 4 ++ (c.drop lengthAt).drop 4) := by
          rw [List.take_append_drop, List.take_append_drop]
      _ = _ := by
          rw [agree.take_front parts start, List.drop_drop, ← behind]
          simp only [List.append_assoc]
  · rw [List.length_take, List.length_drop, size]
    omega
  · rw [List.length_drop, size]
    omega

end AgreeOutside

/-- What an encoder leaves in a new buffer, of a frame whose body is of the class registered
for it and fits. -/
def Genuine {F : Type} (encode : F → FrameEncoder) (sendable : F → Prop) (c : Bytes) : Prop :=
  ∃ m buf, sendable m ∧ encode m .new = .ok buf ∧ buf.data = c

/-- The length word at `lengthAt` and the last `trailer` bytes are taken as they come: any in
their place are accepted, as the same frame but for `words`. One spelling is genuine. -/
structure Unchecked {F : Type} (encode : F → FrameEncoder) (decode : Decoder F)
    (sendable : F → Prop) (words : F → F → Prop) (lengthAt trailer : Nat) : Prop where
  accepted : ∀ (b c : Bytes) (m : F), (decode.run (.holding b)).value = .ok m →
    (decode.run (.holding b)).state.readableBytes = 0 → AgreeOutside lengthAt trailer b c →
      ∃ n, words m n ∧ (decode.run (.holding c)).value = .ok n ∧
        (decode.run (.holding c)).state.readableBytes = 0
  genuine : ∀ (b : Bytes) (m : F), (decode.run (.holding b)).value = .ok m →
    (decode.run (.holding b)).state.readableBytes = 0 →
      ∃! c, AgreeOutside lengthAt trailer b c ∧ Genuine encode sendable c

namespace Settles
variable {F : Type} [Settles F] {lengthAt trailer : Nat}

open SizedFrame (sized length checksum canonical)

theorem sent_reworded (m : F) (word : UInt32) (bytes : Bytes) :
    sent (reworded m word bytes) = sent m := by
  rw [sent, SizedFrame.spelled, computed, sized_reworded, trailer_reworded]
  rfl

/-- Input that a decode uses up is the spelling of what it returns. -/
theorem eq_spelled {b : Bytes} {m : F}
    (success : ((SizedFrame.decode (F := F)).run (.holding b)).value = .ok m)
    (used : ((SizedFrame.decode (F := F)).run (.holding b)).state.readableBytes = 0) :
    canonical m ∧ b = SizedFrame.spelled m (length m) (checksum m) := by
  obtain ⟨valid, ⟨rest, split⟩, state⟩ := (SizedFrame.inverts_decode (F := F)).sound success
  rw [ByteBuf.readableBytes_eq, state, Cursor.unread_advance, split, List.drop_left] at used
  rw [ByteBuf.unread_holding, List.eq_nil_of_length_eq_zero used, List.append_nil] at split
  exact ⟨valid, split⟩

/-- A canonical frame is read back with whatever words it is given. -/
theorem decode_reworded {m : F} (valid : canonical m) (word : UInt32) {bytes : Bytes}
    (width : bytes.length = (checksum m).length) :
    ((SizedFrame.decode (F := F)).run (.holding (SizedFrame.spelled m word bytes))).value =
        .ok (reworded m word bytes) ∧
      ((SizedFrame.decode (F := F)).run (.holding (SizedFrame.spelled m word bytes))).state.readableBytes
        = 0 := by
  have valid' : canonical (reworded m word bytes) := (canonical_reworded m word bytes).mpr valid
  have start : unread (ByteBuf.holding (SizedFrame.spelled m word bytes)) =
      ((sized (reworded m word bytes)).spelled (length (reworded m word bytes)) ++
        checksum (reworded m word bytes)) ++ [] := by
    rw [ByteBuf.unread_holding, sized_reworded, length_reworded, checksum_reworded m word width,
      List.append_nil]
    rfl
  obtain ⟨value, state⟩ := (SizedFrame.inverts_decode (F := F)).run valid' start
  refine ⟨value, ?_⟩
  rw [ByteBuf.readableBytes_eq, state, Cursor.unread_advance, start, List.append_nil,
    List.drop_length]
  rfl

/-- Whatever agrees with a frame outside its words is a spelling of it. -/
theorem spelled_of_agree (offset : ∀ m : F, (sized m).lengthOffset = lengthAt)
    (width : ∀ m : F, (checksum m).length = trailer) {m : F} {c : Bytes}
    (agree : AgreeOutside lengthAt trailer (SizedFrame.spelled m (length m) (checksum m)) c) :
    ∃ word bytes, c = SizedFrame.spelled m word bytes ∧ bytes.length = (checksum m).length := by
  obtain ⟨word, back, parts, four, tail⟩ := agree.split rfl (offset m)
    (Scalar.length_leBytes (length m)) (width m)
  refine ⟨Scalar.fromLe UInt32 word, back, ?_, tail.trans (width m).symm⟩
  have whole : Scalar.leBytes (Scalar.fromLe UInt32 word) = word := Scalar.leBytes_fromLe four
  rw [parts, SizedFrame.spelled, Sized.spelled, whole]

theorem unchecked (offset : ∀ m : F, (sized m).lengthOffset = lengthAt)
    (width : ∀ m : F, (checksum m).length = trailer) {words : F → F → Prop}
    (same : ∀ m word bytes, words m (reworded m word bytes)) :
    Unchecked (F := F) SizedFrame.encode SizedFrame.decode sendable words lengthAt trailer where
  accepted b c m success used agree := by
    obtain ⟨valid, rfl⟩ := eq_spelled success used
    obtain ⟨word, bytes, rfl, fill⟩ := spelled_of_agree offset width agree
    exact ⟨_, same m word bytes, decode_reworded valid word fill⟩
  genuine b m success used := by
    obtain ⟨valid, rfl⟩ := eq_spelled success used
    obtain ⟨buf, encoded, _, data⟩ := SizedFrame.encode_new m
    have computes : buf.data = sent m := data
    refine ⟨sent m, ⟨?_, m, buf, sendable_of_canonical valid, encoded, computes⟩, ?_⟩
    · have agree := (sized m).agreeOutside (length m) (sized m).lengthWord
        (length_computed m).symm
      rwa [offset, width] at agree
    · intro c other
      obtain ⟨agree, n, buf', fit, encoded', data'⟩ := other
      obtain ⟨word, bytes, rfl, fill⟩ := spelled_of_agree offset width agree
      obtain ⟨again, encoded'', _, data''⟩ := Transport.encode_new n
      cases encoded'.symm.trans encoded''
      have spelled : SizedFrame.spelled m word bytes = sent n := data'.symm.trans data''
      have read := (decode_reworded valid word fill).1
      have start : unread (ByteBuf.holding (SizedFrame.spelled m word bytes)) = sent n ++ [] := by
        rw [ByteBuf.unread_holding, spelled, List.append_nil]
      have settles : reworded m word bytes = settled n :=
        Except.ok.inj (read.symm.trans ((Transport.reads n fit).accepts _ [] start).1)
      rw [spelled, ← sent_settled, ← settles, sent_reworded]

end Settles

/-- No protocol with computed words checks them on the way in. -/
theorem computedWords_unchecked :
    Unchecked Rc.RcBinary.encode Rc.RcBinary.decode
      (fun m => Rc.rcBinaryMessageFactory.find m.msgType = some m.body.type ∧ m.body.fits)
      (fun m n => ∃ msgBodyLen, n = { m with msgBodyLen }) 8 0 ∧
    Unchecked Sse.SseBinary.encode Sse.SseBinary.decode
      (fun m => Sse.sseBinaryMessageFactory.find m.msgType = some m.body.type ∧ m.body.fits)
      (fun m n => ∃ msgBodyLen checksum, n = { m with msgBodyLen, checksum }) 12 4 ∧
    Unchecked Szse.SzseBinary.encode Szse.SzseBinary.decode
      (fun m => Szse.szseBinaryMessageFactory.find m.msgType = some m.body.type ∧ m.body.fits)
      (fun m n => ∃ bodyLength checksum, n = { m with bodyLength, checksum }) 4 4 ∧
    Unchecked Root.RootPacket.encode Root.RootPacket.decode
      (fun m => Root.rootPacketMessageFactory.find m.msgType = some m.payload.type ∧
        m.payload.fits)
      (fun m n => ∃ payloadLen checksum, n = { m with payloadLen, checksum }) 2 4 := by
  refine ⟨?rc, ?sse, ?szse, ?root⟩
  case rc =>
    exact Settles.unchecked Rc.RcBinary.lengthOffset_sized (fun _ => rfl)
      (fun _ word _ => ⟨word, rfl⟩)
  case sse =>
    exact Settles.unchecked Sse.SseBinary.lengthOffset_sized
      (fun m => length_writeU32 m.checksum) (fun _ word bytes => ⟨word, _, rfl⟩)
  case szse =>
    exact Settles.unchecked Szse.SzseBinary.lengthOffset_sized
      (fun m => length_writeI32 m.checksum) (fun _ word bytes => ⟨word, _, rfl⟩)
  case root =>
    exact Settles.unchecked Root.RootPacket.lengthOffset_sized
      (fun m => length_writeU32Le m.checksum) (fun _ word bytes => ⟨word, _, rfl⟩)

end FinProto
