import FinProto.Message
import FinProto.Checksum

/-! Frames: what the `encode` of every length-prefixed protocol has in common, and
runs of encoders over one buffer. -/
namespace FinProto

open Wire

/-- How far `writer_index_` lags behind the end of the buffer. -/
def ByteBuf.lag (buf : ByteBuf) : Nat := buf.buffer.length - buf.writerIndex

/-- Every writer moves the lag by what it appends uncounted. -/
theorem Encoder.lag_run (e : Encoder) (buf : ByteBuf) :
    (e.run buf).lag = buf.lag + e.uncounted := by
  have old := buf.writer_le
  have new := e.counted_le
  simp only [ByteBuf.lag, Encoder.uncounted, Encoder.buffer_run, Encoder.writerIndex_run,
    List.length_append]
  omega

/-- The effect of an `encode` that may throw. -/
abbrev FrameEncoder := ByteBuf → Except Fault ByteBuf

/-- Encode frames one after the other into one buffer. -/
def encodeFrames (encode : F → FrameEncoder) (frames : List F) : FrameEncoder := fun buf =>
  frames.foldlM (fun buf m => encode m buf) buf

theorem encodeFrames_cons {encode : F → FrameEncoder} {m : F} {buf next : ByteBuf}
    (encoded : encode m buf = .ok next) (frames : List F) :
    encodeFrames encode (m :: frames) buf = encodeFrames encode frames next := by
  rw [encodeFrames, List.foldlM_cons, encoded]
  rfl

theorem encodeFrames_concat {encode : F → FrameEncoder} {frames : List F} {buf mid : ByteBuf}
    (encoded : encodeFrames encode frames buf = .ok mid) (last : F) :
    encodeFrames encode (frames ++ [last]) buf = encode last mid := by
  rw [encodeFrames] at encoded ⊢
  rw [List.foldlM_append, encoded]
  exact bind_pure (encode last mid)

/-- A measure that each frame raises by its own cost is raised by a run of frames by
the sum of their costs. -/
theorem encodeFrames_measure {encode : F → FrameEncoder} {measure : ByteBuf → Nat} {cost : F → Nat}
    (step : ∀ m buf, ∃ out, encode m buf = .ok out ∧ measure out = measure buf + cost m)
    (frames : List F) (buf : ByteBuf) :
    ∃ out, encodeFrames encode frames buf = .ok out ∧
      measure out = measure buf + (frames.map cost).sum := by
  induction frames generalizing buf with
  | nil => exact ⟨buf, rfl, rfl⟩
  | cons m frames ih =>
    obtain ⟨next, encoded, raised⟩ := step m buf
    obtain ⟨out, run, total⟩ := ih next
    refine ⟨out, ?_, ?_⟩
    · rw [encodeFrames_cons encoded, run]
    · rw [total, raised, List.map_cons, List.sum_cons, Nat.add_assoc]

/-- Header, a zero length word, the body, and then the length patched in at the
position noted before it. -/
def encodeSized (header : Encoder) (writeLength : UInt32 → Encoder)
    (writeLengthAt : Nat → UInt32 → FrameEncoder) (body : Encoder) : FrameEncoder := fun buf =>
  let buf := header.run buf
  let lengthPos := buf.writerIndex
  let buf := (writeLength 0).run buf
  let bodyStart := buf.writerIndex
  let buf := body.run buf
  let bodyEnd := buf.writerIndex
  writeLengthAt lengthPos (UInt32.ofNat (bodyEnd - bodyStart)) buf

/-- The parts of a length-prefixed frame. Its header consists of words, which
`writer_index_` counts. -/
structure Sized where
  header : Encoder
  body : Encoder
  counted_header : header.counted = header.bytes.length

namespace Sized

/-- Where the length word stands in the frame. -/
def lengthOffset (f : Sized) : Nat := f.header.bytes.length

/-- The length the encoder computes from `writer_index_`. -/
def lengthWord (f : Sized) : UInt32 := UInt32.ofNat f.body.counted

/-- The frame's own bytes with a given length word. -/
def spelled (f : Sized) (length : UInt32) : Bytes :=
  f.header.bytes ++ Scalar.leBytes length ++ f.body.bytes

/-- The appends `encodeSized` makes before it patches the length in. -/
def appends (f : Sized) : Encoder := .seq [f.header, writeU32 0, f.body]

theorem bytes_appends (f : Sized) : f.appends.bytes = f.spelled 0 := by
  simp [appends, spelled, writeU32]

theorem counted_appends (f : Sized) : f.appends.counted = f.lengthOffset + 4 + f.body.counted := by
  simp only [appends, Encoder.counted_seq_cons, Encoder.counted_seq_nil, f.counted_header,
    lengthOffset]
  have word : (writeU32 0).counted = 4 := rfl
  omega

theorem length_spelled (f : Sized) (length : UInt32) :
    (f.spelled length).length = f.lengthOffset + 4 + f.body.bytes.length := by
  simp only [spelled, lengthOffset, List.length_append, Scalar.length_leBytes]
  rfl

/-- The word patched in ends inside the appended bytes at the latest. -/
theorem patch_inside (f : Sized) (buf : ByteBuf) :
    buf.writerIndex + f.lengthOffset + (Scalar.leBytes f.lengthWord).length ≤
      (buf.buffer ++ f.spelled 0).length := by
  have old := buf.writer_le
  have word : (Scalar.leBytes f.lengthWord).length = 4 := Scalar.length_leBytes _
  rw [List.length_append, f.length_spelled]
  omega

theorem inside (f : Sized) (buf : ByteBuf) :
    buf.writerIndex + f.lengthOffset + (Scalar.leBytes f.lengthWord).length ≤
      (f.appends.run buf).buffer.length := by
  rw [Encoder.buffer_run, f.bytes_appends]
  exact f.patch_inside buf

/-- The buffer `encodeSized` leaves. -/
def written (f : Sized) (buf : ByteBuf) : ByteBuf :=
  (f.appends.run buf).overwrite (buf.writerIndex + f.lengthOffset) (Scalar.leBytes f.lengthWord)
    (f.inside buf)

theorem encodeSized_eq (f : Sized) (buf : ByteBuf) :
    encodeSized f.header writeU32 writeU32At f.body buf = .ok (f.written buf) := by
  have start : (f.header.run buf).writerIndex = buf.writerIndex + f.lengthOffset := by
    rw [Encoder.writerIndex_run, f.counted_header, lengthOffset]
  have whole : f.body.run ((writeU32 0).run (f.header.run buf)) = f.appends.run buf := by
    simp [appends]
  have size : (f.appends.run buf).writerIndex - ((writeU32 0).run (f.header.run buf)).writerIndex =
      f.body.counted := by
    rw [← whole, Encoder.writerIndex_run, Nat.add_sub_cancel_left]
  unfold encodeSized
  simp only [start, whole, size]
  exact writeLeAt_eq (f.inside buf)

@[simp] theorem buffer_written (f : Sized) (buf : ByteBuf) :
    (f.written buf).buffer = ByteBuf.splice (buf.buffer ++ f.spelled 0)
      (buf.writerIndex + f.lengthOffset) (Scalar.leBytes f.lengthWord) := by
  simp [written, ByteBuf.overwrite, bytes_appends]

@[simp] theorem readerIndex_written (f : Sized) (buf : ByteBuf) :
    (f.written buf).readerIndex = buf.readerIndex :=
  f.appends.readerIndex_run buf

@[simp] theorem writerIndex_written (f : Sized) (buf : ByteBuf) :
    (f.written buf).writerIndex = buf.writerIndex + f.lengthOffset + 4 + f.body.counted := by
  have appended := f.appends.writerIndex_run buf
  rw [f.counted_appends] at appended
  simp only [written, ByteBuf.overwrite, appended, Nat.add_assoc]

theorem length_buffer_written (f : Sized) (buf : ByteBuf) :
    (f.written buf).buffer.length =
      buf.buffer.length + f.lengthOffset + 4 + f.body.bytes.length := by
  rw [buffer_written, ByteBuf.length_splice (f.patch_inside buf), List.length_append,
    f.length_spelled]
  omega

/-- While the lag is at most the length offset, the patch stays behind what stood
in the buffer before. -/
theorem take_buffer_written (f : Sized) {buf : ByteBuf} (small : buf.lag ≤ f.lengthOffset) :
    (f.written buf).buffer.take buf.buffer.length = buf.buffer := by
  have bound := buf.writer_le
  have after : buf.buffer.length ≤ buf.writerIndex + f.lengthOffset := by
    simp only [ByteBuf.lag] at small
    omega
  rw [buffer_written, ByteBuf.take_splice (f.patch_inside buf) after, List.take_left]

/-- Where `writer_index_` lags, the frame's own length word starts with a zero: the
patch falls short of it, all of it or all but zeros. -/
theorem getElem?_written_of_lag (f : Sized) {buf : ByteBuf} {c : UInt8}
    (word : Scalar.leBytes f.lengthWord = [c, 0, 0, 0]) (behind : 0 < buf.lag) :
    (f.written buf).buffer[buf.buffer.length + f.lengthOffset]? = some 0 := by
  have bound := buf.writer_le
  have zeros : Scalar.leBytes (0 : UInt32) = [0, 0, 0, 0] := by decide
  have unpatched : (buf.buffer ++ f.spelled 0)[buf.buffer.length + f.lengthOffset]? = some 0 := by
    rw [List.getElem?_append_right (Nat.le_add_right _ _), Nat.add_sub_cancel_left, spelled, zeros,
      List.append_assoc, lengthOffset, List.getElem?_append_right (Nat.le_refl _), Nat.sub_self]
    rfl
  rw [buffer_written, ByteBuf.getElem?_splice (f.patch_inside buf), unpatched]
  split
  · rename_i covered
    simp only [ByteBuf.lag] at behind
    have distance : buf.buffer.length + f.lengthOffset - (buf.writerIndex + f.lengthOffset) =
        buf.buffer.length - buf.writerIndex := by omega
    rw [word] at covered ⊢
    rw [distance]
    have width : [c, 0, 0, 0].length = 4 := rfl
    have cases : buf.buffer.length - buf.writerIndex = 1 ∨
        buf.buffer.length - buf.writerIndex = 2 ∨ buf.buffer.length - buf.writerIndex = 3 := by omega
    rcases cases with one | two | three
    · rw [one]; rfl
    · rw [two]; rfl
    · rw [three]; rfl
  · rfl

/-- Where `writer_index_` is the end of the buffer, the length lands in its place. -/
theorem buffer_written_of_lag (f : Sized) {buf : ByteBuf} (level : buf.lag = 0) :
    (f.written buf).buffer = buf.buffer ++ f.spelled f.lengthWord := by
  have start : buf.writerIndex = buf.buffer.length := by
    have bound := buf.writer_le
    simp only [ByteBuf.lag] at level
    omega
  have width :
      (Scalar.leBytes f.lengthWord).length = (Scalar.leBytes (0 : UInt32)).length := by simp
  have middle := ByteBuf.splice_middle (buf.buffer ++ f.header.bytes) f.body.bytes width
  rw [buffer_written, start, spelled, spelled]
  simpa [lengthOffset] using middle

/-- A frame adds to the lag exactly what its body wrote uncounted. -/
theorem lag_written (f : Sized) (buf : ByteBuf) :
    (f.written buf).lag = buf.lag + f.body.uncounted := by
  have old := buf.writer_le
  have body := f.body.counted_le
  simp only [ByteBuf.lag, Encoder.uncounted, length_buffer_written, writerIndex_written]
  omega

end Sized

/-- A length-prefixed protocol: a sized frame followed by a trailer of words that
is computed from the buffer, read back by a decoder that takes the length and
the trailer as it finds them. -/
class SizedFrame (F : Type) where
  encode : F → FrameEncoder
  decode : Decoder F
  sized : F → Sized
  length : F → UInt32
  checksum : F → Bytes
  trailer : F → ByteBuf → Encoder
  canonical : F → Prop
  encode_eq : ∀ m buf, encode m buf =
    .ok ((trailer m ((sized m).written buf)).run ((sized m).written buf))
  counted_trailer : ∀ m buf, (trailer m buf).counted = (trailer m buf).bytes.length
  length_trailer : ∀ m buf, (trailer m buf).bytes.length = (checksum m).length
  inverts_decode : Inverts decode (fun m => (sized m).spelled (length m) ++ checksum m) canonical

namespace SizedFrame
variable {F : Type} [SizedFrame F]

/-- The whole frame with a given length word and trailer. -/
def spelled (m : F) (length : UInt32) (trailer : Bytes) : Bytes :=
  (sized m).spelled length ++ trailer

theorem encode_words (m : F) (buf : ByteBuf) :
    ∃ trailer : Encoder, trailer.uncounted = 0 ∧
      encode m buf = .ok (trailer.run ((sized m).written buf)) := by
  refine ⟨_, ?_, encode_eq m buf⟩
  rw [Encoder.uncounted, counted_trailer, Nat.sub_self]

/-- A new buffer holds the frame with its own length and trailer. -/
theorem encode_new (m : F) :
    ∃ buf : ByteBuf, encode m .new = .ok buf ∧ unread buf = buf.data ∧
      buf.data = spelled m (sized m).lengthWord (trailer m ((sized m).written .new)).bytes := by
  refine ⟨_, encode_eq m .new, ?_, ?_⟩
  · change List.drop _ _ = _
    rw [Encoder.readerIndex_run, Sized.readerIndex_written]
    rfl
  · rw [ByteBuf.data, Encoder.buffer_run, Sized.buffer_written_of_lag _ rfl]
    rfl

/-- A canonical frame with the same header and body bytes, and with the length and
trailer that `encode` computed, is what `decode` returns, and it uses the buffer up. -/
theorem decode_encode_new {m n : F} (valid : canonical n)
    (header : (sized n).header.bytes = (sized m).header.bytes)
    (body : (sized n).body.bytes = (sized m).body.bytes)
    (word : length n = (sized m).lengthWord)
    (sum : checksum n = (trailer m ((sized m).written .new)).bytes) :
    ∃ buf : ByteBuf, encode m .new = .ok buf ∧
      buf.data = spelled m (sized m).lengthWord (trailer m ((sized m).written .new)).bytes ∧
      (decode (F := F) |>.run buf).value = .ok n ∧
      (decode (F := F) |>.run buf).state.readableBytes = 0 := by
  obtain ⟨buf, encoded, start, data⟩ := encode_new m
  have split : unread buf = spelled n (length n) (checksum n) ++ [] := by
    rw [start, data, List.append_nil, spelled, spelled, Sized.spelled, Sized.spelled, header, body,
      word, sum]
  obtain ⟨value, state⟩ := (inverts_decode (F := F)).run valid split
  refine ⟨buf, encoded, data, value, ?_⟩
  rw [ByteBuf.readableBytes_eq, state, Cursor.unread_advance, split]
  simp [spelled]

end SizedFrame

end FinProto
