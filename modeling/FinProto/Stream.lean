import FinProto.Bjse.Binary

/-! Streams of `BjseBinary`: what a sender appends, a receiver takes off again frame
by frame, and nothing but such streams is accepted. -/
namespace FinProto.Bjse

open Wire

/-- Encode frames in order into one buffer. -/
def encodeAll (frames : List BjseBinary) (buf : ByteBuf) : ByteBuf :=
  frames.foldl (fun buf m => (encode m).run buf) buf

theorem buffer_encodeAll (frames : List BjseBinary) (buf : ByteBuf) :
    (encodeAll frames buf).buffer = buf.buffer ++ frames.flatMap (fun m => (encode m).bytes) := by
  induction frames generalizing buf with
  | nil => simp [encodeAll]
  | cons m frames ih =>
    rw [encodeAll, List.foldl_cons, ← encodeAll, ih, Encoder.buffer_run]
    simp

theorem readerIndex_encodeAll (frames : List BjseBinary) (buf : ByteBuf) :
    (encodeAll frames buf).readerIndex = buf.readerIndex := by
  induction frames generalizing buf with
  | nil => rfl
  | cons m frames ih => rw [encodeAll, List.foldl_cons, ← encodeAll, ih, Encoder.readerIndex_run]

/-- Decode `n` frames, one after the other. -/
def decodeAll (n : Nat) : Decoder (List BjseBinary) := decode.times n

/-- A buffer that was read to its end holds, unread, what was appended since. -/
theorem unread_encodeAll {buf : ByteBuf} (drained : buf.readableBytes = 0)
    (frames : List BjseBinary) :
    unread (encodeAll frames buf) = frames.flatMap (fun m => (encode m).bytes) := by
  have bound := buf.reader_le
  have position : buf.readerIndex = buf.buffer.length := by
    simp only [ByteBuf.readableBytes] at drained
    omega
  change List.drop _ _ = _
  rw [readerIndex_encodeAll, buffer_encodeAll, position, List.drop_left]

/-- Receivers decode what senders encode, and accept nothing else. -/
theorem stream_inverse :
    (∀ (frames : List BjseBinary) (buf : ByteBuf), buf.readableBytes = 0 →
      (∀ m ∈ frames,
        bjseBinaryMessageFactory.find m.msgType = some m.body.type ∧ m.body.fits) →
      ((decodeAll frames.length).run (encodeAll frames buf)).value =
        .ok (frames.map fun m => { m with body := m.body.trimmed }) ∧
      ((decodeAll frames.length).run (encodeAll frames buf)).state.readableBytes = 0) ∧
    (∀ (buf : ByteBuf) (m : BjseBinary), (decode.run buf).value = .ok m →
      ∃ consumed rest, unread buf = consumed ++ rest ∧
        unread (decode (M := BjseBinary) |>.run buf).state = rest ∧
        ((encode m).run .new).data = consumed) := by
  constructor
  · intro frames buf drained sendable
    have trips : Inverts (decodeAll frames.length) (fun frames => frames.flatMap _) _ :=
      (inverts_decode BjseBinary).times frames.length
    have valid : (frames.map trimmed).length = frames.length ∧
        ∀ m ∈ frames.map trimmed, trimmed m = m ∧ fits m := by
      refine ⟨List.length_map _, ?_⟩
      intro m member
      obtain ⟨sent, present, rfl⟩ := List.mem_map.mp member
      exact ⟨trimmed_trimmed sent, (fits_trimmed sent).mpr (sendable sent present)⟩
    have split : unread (encodeAll frames buf) =
        (frames.map trimmed).flatMap (fun m => (encode m).bytes) ++ [] := by
      simp [unread_encodeAll drained, List.flatMap_map]
    obtain ⟨value, state⟩ := trips.run valid split
    refine ⟨value, ?_⟩
    rw [ByteBuf.readableBytes_eq, state, Cursor.unread_advance, split]
    simp
  · intro buf m success
    obtain ⟨_, ⟨rest, split⟩, state⟩ := (inverts_decode BjseBinary).sound success
    refine ⟨(encode m).bytes, rest, split, ?_, ?_⟩
    · rw [state, Cursor.unread_advance, split, List.drop_left]
    · rw [ByteBuf.data, Encoder.buffer_run]
      rfl

/-- An order with its extension and a logout; and an order in its own words, a byte behind it. -/
theorem stream_inverse_newOrder :
    let extend : ExtendNewOrder010 := {
      stopPx := 0, minQty := 100, maxPriceLevels := 5, timeInForce := ascii "0",
      cashMargin := ascii " ", settlType := [], settlPeriod := ascii "1 " }
    let order : NewOrder := {
      applId := ascii "0101", submittingPbuid := ascii "PBU", securityId := ascii "430047",
      securityIdsource := ascii "102", ownerType := 1, clearingFirm := [], transactTime := -1,
      userInfo := [], clOrdId := ascii "C 1 ", accountId := [], branchId := [],
      orderRestrictions := [], side := ascii "1", ordType := ascii "2", orderQty := 100,
      price := 10, applExtend := ⟨.extendNewOrder010, extend⟩ }
    let kept : NewOrder := { order with
      applId := ascii "010", clOrdId := ascii "C 1",
      applExtend := ⟨.extendNewOrder010,
        { extend with cashMargin := [], settlPeriod := ascii "1" }⟩ }
    let logout : BjseBinary := ⟨2, 0, ⟨.logout, { sessionStatus := 1, text := ascii "bye" }⟩, 5⟩
    let frames : List BjseBinary := [⟨101000, 8, ⟨.newOrder, order⟩, 9⟩, logout]
    let first : BjseBinary := ⟨101000, 8, ⟨.newOrder, kept⟩, 9⟩
    let bytes : Bytes := (encode first).bytes ++ [255]
    ((decodeAll 2).run (encodeAll frames .new)).value = .ok [first, logout] ∧
    ∃ consumed rest, bytes = consumed ++ rest ∧
      unread (decode (M := BjseBinary) |>.run (.holding bytes)).state = rest ∧
      ((encode first).run .new).data = consumed := by
  intro extend order kept logout frames first bytes
  constructor
  · have known : newOrderMessageFactory.find (rtrim 3 order.applId) = some .extendNewOrder010 := by
      decide
    have sendable : ∀ m ∈ frames,
        bjseBinaryMessageFactory.find m.msgType = some m.body.type ∧ m.body.fits := by
      intro m member
      simp only [frames, List.mem_cons, List.not_mem_nil, or_false] at member
      rcases member with here | there
      · subst here
        exact ⟨rfl, known, trivial⟩
      · subst there
        exact ⟨rfl, trivial⟩
    exact (stream_inverse.1 frames .new rfl sendable).1
  · have known : newOrderMessageFactory.find (rtrim 3 kept.applId) = some .extendNewOrder010 := by
      decide
    have valid : trimmed first = first ∧ fits first := ⟨rfl, rfl, known, trivial⟩
    have split : unread (ByteBuf.holding bytes) = (encode first).bytes ++ [255] :=
      ByteBuf.unread_holding bytes
    exact stream_inverse.2 _ first ((inverts_decode BjseBinary).run valid split).1

end FinProto.Bjse
