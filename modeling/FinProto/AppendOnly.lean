import FinProto.LengthField

/-! Frames one after the other in one buffer: where the length words land, and when
encoding only appends. -/
namespace FinProto

open Wire

/-- A run of frames never throws, and the lag it leaves is the sum of what its
frames left uncounted. -/
theorem lag_encodeFrames (frames : List Packet) (buf : ByteBuf) :
    ∃ out, encodeFrames Packet.encode frames buf = .ok out ∧
      out.lag = buf.lag + (frames.map Packet.uncounted).sum :=
  encodeFrames_measure Packet.lag_encode frames buf

/-- `m.encode(buf)` leaves the bytes already in the buffer as they are and patches
its length into bytes it appended itself. -/
def AppendOnly (m : SizedPacket) (buf : ByteBuf) : Prop :=
  ∃ out, m.encode buf = .ok out ∧ out.data.take buf.data.length = buf.data ∧
    buf.data.length ≤ m.lengthPos buf ∧ m.lengthPos buf + 4 ≤ out.data.length

theorem appendOnly_iff (m : SizedPacket) (buf : ByteBuf) :
    AppendOnly m buf ↔ buf.lag ≤ m.lengthOffset := by
  have bound := buf.writer_le
  obtain ⟨trailer, _, encoded⟩ := m.encode_eq buf
  constructor
  · intro appends
    obtain ⟨_, _, _, after, _⟩ := appends
    rw [m.lengthPos_eq] at after
    simp only [ByteBuf.data, ByteBuf.lag] at after ⊢
    omega
  · intro small
    have position : buf.data.length ≤ m.lengthPos buf := by
      rw [m.lengthPos_eq]
      simp only [ByteBuf.data, ByteBuf.lag] at small ⊢
      omega
    refine ⟨_, encoded, ?_, position, ?_⟩
    · have kept := m.sized.take_buffer_written (m.lengthOffset_sized ▸ small)
      have room : buf.buffer.length ≤ (m.sized.written buf).buffer.length := by
        rw [Sized.length_buffer_written]
        omega
      rw [ByteBuf.data, ByteBuf.data, Encoder.buffer_run, List.take_append_of_le_length room, kept]
    · rw [m.lengthPos_eq, ByteBuf.data, Encoder.buffer_run, List.length_append,
        Sized.length_buffer_written, m.lengthOffset_sized]
      omega

/-! ## Runs of `RcBinary` -/

namespace Rc

open RcBinary

/-- The encoding of a frame into a fresh buffer. -/
def fresh (m : RcBinary) : Bytes :=
  match m.encode .new with
  | .ok buf => buf.data
  | .error _ => []

/-- The buffer is the concatenation of the frames' fresh encodings, and what a frame
decoded to from its own buffer it decodes to at its place. -/
structure Concatenates (frames : List RcBinary) (buf : ByteBuf) : Prop where
  bytes : buf.data = frames.flatMap fresh
  decodes : ∀ before m after, frames = before ++ m :: after → ∀ n,
    (RcBinary.decode.run (.holding (fresh m))).value = .ok n →
    (RcBinary.decode.run (advance buf (before.flatMap fresh).length)).value = .ok n

theorem encode_eq (m : RcBinary) (buf : ByteBuf) : m.encode buf = .ok (m.sized.written buf) :=
  m.sized.encodeSized_eq buf

theorem fresh_eq (m : RcBinary) : fresh m = m.sized.spelled m.sized.lengthWord := by
  rw [fresh, encode_eq]
  exact m.sized.buffer_written_of_lag rfl

theorem lag_encode (m : RcBinary) (buf : ByteBuf) :
    ∃ out, m.encode buf = .ok out ∧ out.lag = buf.lag + m.body.encode.uncounted :=
  ⟨_, encode_eq m buf, m.sized.lag_written buf⟩

/-- A frame appends as many bytes as in a fresh buffer, wherever its length lands. -/
theorem length_encode (m : RcBinary) (buf : ByteBuf) :
    ∃ out, m.encode buf = .ok out ∧ out.data.length = buf.data.length + (fresh m).length := by
  refine ⟨_, encode_eq m buf, ?_⟩
  rw [ByteBuf.data, m.sized.length_buffer_written, fresh_eq, Sized.length_spelled, ByteBuf.data]
  omega

/-- The words of a body, in bytes: at least two lengths, at most four of them and
two prices. -/
theorem counted_body (body : Body) : body.encode.counted ∈ [32, 20, 28, 8] := by
  have word : Scalar.size UInt32 = 4 := rfl
  obtain ⟨type, m⟩ := body
  cases type with
  | newOrder =>
    change (FinProto.encode (M := NewOrder) m).counted ∈ _
    simp [FinProto.encode, word]
  | orderConfirm =>
    change (FinProto.encode (M := OrderConfirm) m).counted ∈ _
    simp [FinProto.encode, word]
  | executionReport =>
    change (FinProto.encode (M := ExecutionReport) m).counted ∈ _
    simp [FinProto.encode, word]
  | orderCancel =>
    change (FinProto.encode (M := OrderCancel) m).counted ∈ _
    simp [FinProto.encode, word]
  | cancelReject =>
    change (FinProto.encode (M := CancelReject) m).counted ∈ _
    simp [FinProto.encode, word]
  | riskResult =>
    change (FinProto.encode (M := RiskResult) m).counted ∈ _
    simp [FinProto.encode, word]

/-- So the length word that `encode` computes is never zero. -/
theorem leBytes_lengthWord (m : RcBinary) :
    ∃ c, c ≠ 0 ∧ Scalar.leBytes m.sized.lengthWord = [c, 0, 0, 0] := by
  have word : m.sized.lengthWord = UInt32.ofNat m.body.encode.counted := rfl
  have counted := counted_body m.body
  simp only [List.mem_cons, List.not_mem_nil, or_false] at counted
  rw [word]
  rcases counted with count | count | count | count
  · exact ⟨32, by decide, by rw [count]; decide⟩
  · exact ⟨20, by decide, by rw [count]; decide⟩
  · exact ⟨28, by decide, by rw [count]; decide⟩
  · exact ⟨8, by decide, by rw [count]; decide⟩

/-- Frames of words only, in a buffer whose end `writer_index_` has reached, land
one after the other as they would in fresh buffers. -/
theorem data_encodeFrames (frames : List RcBinary) {buf : ByteBuf} (level : buf.lag = 0)
    (words : ∀ m ∈ frames, m.body.encode.uncounted = 0) :
    ∃ out, encodeFrames RcBinary.encode frames buf = .ok out ∧
      out.readerIndex = buf.readerIndex ∧ out.data = buf.data ++ frames.flatMap fresh := by
  induction frames generalizing buf with
  | nil => exact ⟨buf, rfl, rfl, (List.append_nil _).symm⟩
  | cons m frames ih =>
    have still : (m.sized.written buf).lag = 0 := by
      rw [m.sized.lag_written, level, Nat.zero_add]
      exact words m List.mem_cons_self
    obtain ⟨out, run, reader, data⟩ :=
      ih still (fun n later => words n (List.mem_cons_of_mem _ later))
    refine ⟨out, ?_, ?_, ?_⟩
    · rw [encodeFrames_cons (encode_eq m buf), run]
    · rw [reader, m.sized.readerIndex_written]
    · have here := m.sized.buffer_written_of_lag level
      rw [data, ByteBuf.data, here, List.flatMap_cons, fresh_eq, List.append_assoc, ByteBuf.data]

/-- What a frame decoded to from its own buffer it decodes to at its place. -/
theorem concatenates_of_data {frames : List RcBinary} {buf : ByteBuf} (start : buf.readerIndex = 0)
    (bytes : buf.data = frames.flatMap fresh) : Concatenates frames buf where
  bytes := bytes
  decodes := by
    intro before m after split n success
    obtain ⟨consumed, rest, own, reads, _⟩ := RcBinary.decode.consumed success
    rw [ByteBuf.unread_holding] at own
    have whole : unread buf = buf.data := by
      change List.drop _ _ = _
      rw [start]
      rfl
    refine (reads.accepts _ (rest ++ after.flatMap fresh) ?_).1
    rw [Cursor.unread_advance, whole, bytes, split, List.flatMap_append, List.drop_left,
      List.flatMap_cons, own, List.append_assoc]

/-- One more frame where `writer_index_` is the end of the buffer. -/
theorem concatenates_written {init : List RcBinary} (last : RcBinary) {mid : ByteBuf}
    (level : mid.lag = 0) (start : mid.readerIndex = 0) (before : mid.data = init.flatMap fresh) :
    Concatenates (init ++ [last]) (last.sized.written mid) := by
  apply concatenates_of_data
  · rw [last.sized.readerIndex_written, start]
  · rw [ByteBuf.data, last.sized.buffer_written_of_lag level, ← fresh_eq, ← ByteBuf.data, before,
      List.flatMap_append, List.flatMap_singleton]

/-- A frame behind a lagging `writer_index_` keeps the zero it started its length with. -/
theorem not_concatenates {init : List RcBinary} {last : RcBinary} {mid : ByteBuf}
    (length : mid.data.length = (init.flatMap fresh).length) (behind : 0 < mid.lag) :
    (last.sized.written mid).data ≠ (init ++ [last]).flatMap fresh := by
  intro same
  obtain ⟨c, nonzero, word⟩ := leBytes_lengthWord last
  have stays := last.sized.getElem?_written_of_lag word behind
  have wanted : (fresh last)[last.sized.lengthOffset]? = some c := by
    rw [fresh_eq, Sized.spelled, word, List.append_assoc, Sized.lengthOffset,
      List.getElem?_append_right (Nat.le_refl _), Nat.sub_self]
    rfl
  rw [← ByteBuf.data, ← ByteBuf.data, same, length, List.flatMap_append,
    List.getElem?_append_right (Nat.le_add_right _ _), Nat.add_sub_cancel_left,
    List.flatMap_singleton, wanted] at stays
  exact nonzero (Option.some.inj stays)

/-- The lag in front of the last frame decides: zero, and every frame landed where a fresh
buffer would have put it; anything else, and the last frame's length word gives it away. -/
theorem concatenates_iff (frames : List RcBinary) :
    ∃ buf, encodeFrames RcBinary.encode frames .new = .ok buf ∧
      (Concatenates frames buf ↔ ∀ m ∈ frames.dropLast, wordsOnly m.body) := by
  rcases List.eq_nil_or_concat frames with empty | ⟨init, last, snoc⟩
  · subst empty
    refine ⟨.new, rfl, ?_⟩
    constructor
    · intro _ m member
      cases member
    · intro _
      exact concatenates_of_data rfl rfl
  · rw [List.concat_eq_append] at snoc
    subst snoc
    obtain ⟨mid, run, lag⟩ := encodeFrames_measure lag_encode init .new
    refine ⟨last.sized.written mid, ?_, ?_⟩
    · rw [encodeFrames_concat run, encode_eq]
    · rw [List.dropLast_concat]
      have total : mid.lag = (init.map fun m => m.body.encode.uncounted).sum :=
        lag.trans (Nat.zero_add _)
      constructor
      · intro joined m member
        obtain ⟨other, again, length⟩ := encodeFrames_measure length_encode init .new
        cases run.symm.trans again
        have whole : mid.data.length = (init.flatMap fresh).length := by
          rw [length, List.length_flatMap]
          exact Nat.zero_add _
        rcases Nat.eq_zero_or_pos mid.lag with level | behind
        · rw [total] at level
          exact (wordsOnly_iff m.body).mpr (Encoder.sum_uncounted_eq_zero.mp level m member)
        · exact absurd joined.bytes (not_concatenates whole behind)
      · intro words
        have none : ∀ m ∈ init, m.body.encode.uncounted = 0 := by
          intro m member
          exact (wordsOnly_iff m.body).mp (words m member)
        have fromNew : ByteBuf.new.lag = 0 := rfl
        obtain ⟨other, again, start, before⟩ := data_encodeFrames init fromNew none
        cases run.symm.trans again
        have level : mid.lag = 0 := total.trans (Encoder.sum_uncounted_eq_zero.mpr none)
        exact concatenates_written last level start before

end Rc

/-- Over all runs of frames into a new buffer: the next length-prefixed frame only
appends exactly while the frames before it left no more bytes uncounted than stand in
front of its length word, and `RcBinary` frames are concatenated exactly when all
of them but the last consist of words. -/
theorem encoding_appends_iff (frames : List Packet) (m : SizedPacket) (orders : List Rc.RcBinary) :
    (∃ buf, encodeFrames Packet.encode frames .new = .ok buf ∧
      (AppendOnly m buf ↔ (frames.map Packet.uncounted).sum ≤ m.lengthOffset)) ∧
    (∃ buf, encodeFrames Rc.RcBinary.encode orders .new = .ok buf ∧
      (Rc.Concatenates orders buf ↔ ∀ order ∈ orders.dropLast, Rc.wordsOnly order.body)) := by
  refine ⟨?_, Rc.concatenates_iff orders⟩
  obtain ⟨buf, run, lag⟩ := lag_encodeFrames frames .new
  have total : buf.lag = (frames.map Packet.uncounted).sum := lag.trans (Nat.zero_add _)
  refine ⟨buf, run, ?_⟩
  rw [appendOnly_iff, total]

/-- Two cancel rejects with nine bytes of text each: the second patches its length
into the last byte of the first and keeps a zero for its own. -/
theorem cancelReject_overwrites :
    let reject : Rc.RcBinary := ⟨290008, 1, 0, .cancelReject, {
      uniqueOrderId := ascii "order-001", uniqueOrigOrderId := [], clOrdId := [],
      origClOrdId := [], cxlRejReason := 0 : Rc.CancelReject }⟩
    (∃ buf, encodeFrames Packet.encode [.sized (.rc reject)] .new = .ok buf ∧
      ¬ AppendOnly (.rc reject) buf) ∧
    (∃ buf, encodeFrames Rc.RcBinary.encode [reject, reject] .new = .ok buf ∧
      ¬ Rc.Concatenates [reject, reject] buf) := by
  intro reject
  constructor
  · obtain ⟨buf, run, lag⟩ := lag_encodeFrames [.sized (.rc reject)] .new
    have nine : buf.lag = 9 := lag.trans rfl
    refine ⟨buf, run, ?_⟩
    rw [appendOnly_iff, nine]
    decide
  · obtain ⟨buf, run, joined⟩ := Rc.concatenates_iff [reject, reject]
    refine ⟨buf, run, ?_⟩
    rw [joined]
    intro words
    have text : ascii "order-001" = [] := (words reject List.mem_cons_self).1
    exact absurd text (by decide)

end FinProto
