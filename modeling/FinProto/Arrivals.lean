import FinProto.Transport
import FinProto.Wire.Feed

/-! Frames sent one after the other over a stream that arrives in pieces: what a receiver gets
that appends each piece to one buffer and calls `decode` in between. -/
namespace FinProto

open Wire

instance : Feed ByteBuf UInt8 where
  feed buf piece := (writeBytes piece).run buf
  unread_feed buf piece := (writeBytes piece).unread_run buf

/-! ## Decoders that start with a word -/

section
variable {p : Decoder α} {n : Nat}

/-- Without the word nothing is consumed. -/
theorem Keyed.short (keyed : Keyed p n) {buf : ByteBuf} (missing : buf.readableBytes < n) :
    (p.run buf).value = .error (.outOfRange "Not enough data to read") ∧
      (p.run buf).state = buf := by
  obtain ⟨_, key, k, walks, rfl⟩ := keyed
  obtain ⟨value, state⟩ := walks.short buf missing
  rw [Reader.run_bind, Reader.chain_error value]
  exact ⟨rfl, state⟩

/-- With it the word is consumed, whatever comes of the rest. -/
theorem Keyed.moves (keyed : Keyed p n) {buf : ByteBuf} (there : n ≤ buf.readableBytes) :
    buf.readerIndex + n ≤ (p.run buf).state.readerIndex := by
  obtain ⟨_, key, k, walks, rfl⟩ := keyed
  obtain ⟨⟨a, value⟩, state⟩ := walks.enough buf there
  have inside := buf.reader_le
  obtain ⟨m, within, moved⟩ := (k a).moves (advance buf n)
  rw [Reader.run_bind, Reader.chain_ok value]
  simp only [state, moved, Cursor.advance_advance]
  simp only [advance, ByteBuf.advance, ByteBuf.readableBytes] at there ⊢
  omega

end

namespace Transport
variable {F : Type} [Transport F]

/-- The stream of frames, each encoded into a buffer of its own. -/
def stream : List F → Except Fault Bytes
  | [] => .ok []
  | m :: frames => do
    let buf ← encode m .new
    let behind ← stream frames
    return buf.data ++ behind

theorem stream_eq (frames : List F) : stream frames = .ok (frames.flatMap sent) := by
  induction frames with
  | nil => rfl
  | cons m frames ih =>
    obtain ⟨buf, encoded, _, data⟩ := encode_new m
    rw [stream, encoded, ih, List.flatMap_cons, ← data]
    rfl

/-- The frames in `frames`, sent as a stream of which the events bring a part. -/
structure Sending (frames : List F) (events : List (Event UInt8)) : Prop where
  sendable : ∀ m ∈ frames, sendable m
  arriving : ∃ coming, stream frames = .ok (Event.arrived events ++ coming)

/-- What a receiver gets, starting with nothing unread: the frames in the order they were sent,
each settled, one for every call of `decode` up to the first that comes before its frame. That
call throws, and unless even the key of the frame was missing it has used up some of it. -/
structure Delivers (F : Type) [Transport F] : Prop where
  inOrder : ∀ (frames : List F) (events : List (Event UInt8)) (buf : ByteBuf),
    Sending frames events → buf.readableBytes = 0 →
      ∃ before after, Timely sent frames 0 events before after ∧
        (serve (decode (F := F)) buf events).1 =
          (frames.take (Event.polls before)).map settled
  punctual : ∀ (frames : List F) (events : List (Event UInt8)) (buf : ByteBuf),
    Sending frames events → buf.readableBytes = 0 → Punctual sent frames 0 events →
      serve decode buf events = ((frames.take (Event.polls events)).map settled, none)
  early : ∀ (frames : List F) (events : List (Event UInt8)) (buf : ByteBuf),
    Sending frames events → buf.readableBytes = 0 → ¬ Punctual sent frames 0 events →
      (serve (decode (F := F)) buf events).2 = some (.outOfRange "Not enough data to read")
  keeps : ∀ buf : ByteBuf, buf.readableBytes < keyWidth F →
    ((decode (F := F)).run buf).value = .error (.outOfRange "Not enough data to read") ∧
      ((decode (F := F)).run buf).state = buf
  loses : ∀ buf : ByteBuf, keyWidth F ≤ buf.readableBytes →
    buf.readerIndex + keyWidth F ≤ ((decode (F := F)).run buf).state.readerIndex

/-- The receiver's run against what it should get. -/
theorem serve_sent (positive : 0 < keyWidth F) {frames : List F} {events : List (Event UInt8)}
    {buf : ByteBuf} (sending : Sending frames events) (drained : buf.readableBytes = 0) :
    serve decode buf events =
      ((deliveries sent frames 0 events).1.map settled,
        if (deliveries sent frames 0 events).2 then some Truncation.short else none) := by
  obtain ⟨coming, arriving⟩ := sending.arriving
  have empty : unread buf = [] := by
    rw [ByteBuf.readableBytes_eq] at drained
    exact List.eq_nil_of_length_eq_zero drained
  have idle : ∀ s : ByteBuf, unread s = [] →
      ((decode (F := F)).run s).value = .error Truncation.short := by
    intro s none
    refine (keyed.short ?_).1
    rw [ByteBuf.readableBytes_eq, none]
    exact positive
  have whole : unread buf ++ (Event.arrived events ++ coming) = frames.flatMap sent := by
    rw [empty, List.nil_append]
    exact Except.ok.inj (arriving.symm.trans (stream_eq frames))
  have got := serve_eq idle (fun m member => reads m (sending.sendable m member)) whole
  rwa [empty] at got

theorem delivers (positive : 0 < keyWidth F) : Delivers F where
  inOrder frames events buf sending drained := by
    obtain ⟨before, after, timely, got⟩ := deliveries_timely (w := sent) frames 0 events
    refine ⟨before, after, timely, ?_⟩
    rw [serve_sent positive sending drained]
    exact congrArg (List.map settled) got
  punctual frames events buf sending drained punctual := by
    rw [serve_sent positive sending drained, deliveries_of_punctual punctual,
      (deliveries_whole_iff frames 0 events).mpr punctual]
    rfl
  early frames events buf sending drained late := by
    have cut : (deliveries sent frames 0 events).2 = true := by
      rw [← Bool.not_eq_false]
      exact fun whole => late ((deliveries_whole_iff frames 0 events).mp whole)
    rw [serve_sent positive sending drained, cut]
    rfl
  keeps _ missing := keyed.short missing
  loses _ there := keyed.moves there

end Transport

/-- Every protocol delivers. -/
theorem frames_delivered :
    Transport.Delivers Rc.RcBinary ∧ Transport.Delivers Sse.SseBinary ∧
      Transport.Delivers Szse.SzseBinary ∧ Transport.Delivers Bjse.BjseBinary ∧
      Transport.Delivers Root.RootPacket :=
  ⟨Transport.delivers (by decide), Transport.delivers (by decide), Transport.delivers (by decide),
    Transport.delivers (by decide), Transport.delivers (by decide)⟩

end FinProto
