import FinProto.Arrivals
import FinProto.LengthField
import FinProto.Wire.Mailbox

/-! One buffer that frames are encoded into and decoded from in any order. It is a queue of
frames as long as `writer_index_` keeps up, which words let it and strings do not. The sum in
`int32_t` over the whole buffer is taken to wrap. -/
namespace FinProto

open Wire

namespace Transport
variable {F : Type} [Transport F]

/-- Over every order of calls, the frames come out as they went in, each `alike`, and where none
is left `decode` throws and leaves the buffer as it is. -/
def Queues (F : Type) [Transport F] (level : ByteBuf → Prop) (admits : F → Prop)
    (alike : F → F → Prop) : Prop :=
  ∀ (posts : List (Post F)) (buf : ByteBuf), level buf → buf.readableBytes = 0 →
    (∀ m, .put m ∈ posts → admits m) →
    List.Forall₂ (Answers alike) (exchange encode decode buf posts) (answers [] posts)

theorem queues {level : ByteBuf → Prop} {admits : F → Prop} {alike : F → F → Prop}
    (positive : 0 < keyWidth F) (steady : ∀ buf n, level buf → level (advance buf n))
    (writes : ∀ buf (m : F), level buf → admits m → ∃ out word n, encode m buf = .ok out ∧
      level out ∧ unread out = unread buf ++ word ∧ alike m n ∧ Reads decode.run word n) :
    Queues F level admits alike := by
  intro posts buf start drained admitted
  have empty : ∀ s : ByteBuf, unread s = [] → s.readableBytes < keyWidth F := by
    intro s none
    rw [ByteBuf.readableBytes_eq, none]
    exact positive
  have held : Holds level alike decode buf [] := by
    refine ⟨start, [], ?_, .nil⟩
    rw [ByteBuf.readableBytes_eq] at drained
    exact List.eq_nil_of_length_eq_zero drained
  exact exchange_answers (fun s none => keyed.short (empty s none)) steady writes admitted held

end Transport

namespace Settles
variable {F : Type} [Settles F]

open SizedFrame

/-- A frame of words only, written where `writer_index_` is at the end, goes behind what is
unread, and is read back but for its trailer. -/
theorem writes (buf : ByteBuf) (m : F) (level : buf.lag = 0) (valid : sendable m)
    (words : (sized m).body.uncounted = 0) :
    ∃ (out : ByteBuf) (word bytes : Bytes), SizedFrame.encode m buf = .ok out ∧ out.lag = 0 ∧
      unread out = unread buf ++ word ∧
      Reads (SizedFrame.decode (F := F)).run word
        (reworded (stripped m) (sized m).lengthWord bytes) := by
  let written := (sized m).written buf
  let bytes := (trailer m written).bytes
  let n := reworded (stripped m) (sized m).lengthWord bytes
  have counted : (trailer m written).uncounted = 0 := by
    rw [Encoder.uncounted, counted_trailer, Nat.sub_self]
  have kept : ((trailer m written).run written).lag = 0 := by
    rw [Encoder.lag_run, counted, Sized.lag_written, level, words]
  have front : unread written = unread buf ++ (sized m).spelled (sized m).lengthWord := by
    change List.drop written.readerIndex written.buffer = List.drop _ _ ++ _
    rw [Sized.readerIndex_written, Sized.buffer_written_of_lag _ level,
      List.drop_append_of_le_length buf.reader_le]
  have width : bytes.length = (checksum (stripped m)).length := by
    rw [checksum_stripped]
    exact length_trailer m written
  have same : (sized n).spelled (length n) ++ checksum n =
      (sized m).spelled (sized m).lengthWord ++ bytes := by
    rw [sized_reworded, sized_stripped, length_reworded, checksum_reworded _ _ width]
  have canonical : canonical n := by
    rw [canonical_reworded, canonical_stripped]
    exact valid
  refine ⟨_, (sized m).spelled (sized m).lengthWord ++ bytes, bytes, encode_eq m buf, kept, ?_, ?_⟩
  · rw [Encoder.unread_run, front, List.append_assoc]
  · rw [← same]
    exact (SizedFrame.inverts_decode (F := F)).reads canonical

/-- So sized frames of words only queue where `writer_index_` is at the end. -/
theorem queues (positive : 0 < keyWidth F) {words : F → Prop}
    (uncounted : ∀ m : F, words m → (sized m).body.uncounted = 0) {alike : F → F → Prop}
    (same : ∀ (m : F) bytes, alike m (reworded (stripped m) (sized m).lengthWord bytes)) :
    Transport.Queues F (fun buf => buf.lag = 0) (fun m => sendable m ∧ words m) alike := by
  apply Transport.queues positive
  · intro buf n level
    exact level
  · intro buf m level admitted
    obtain ⟨out, word, bytes, encoded, kept, behind, reads⟩ :=
      writes buf m level admitted.1 (uncounted m admitted.2)
    exact ⟨out, word, _, encoded, kept, behind, same m bytes, reads⟩

end Settles

/-- `BjseBinary` queues whatever the buffer; the other frames do where their bodies are words
only, and all but the checksum comes out as it would from a buffer of its own. -/
theorem frames_queued :
    Transport.Queues Rc.RcBinary (fun buf => buf.lag = 0)
      (fun m => Transport.sendable m ∧ Rc.wordsOnly m.body)
      (fun m n => n = Transport.settled m) ∧
    Transport.Queues Sse.SseBinary (fun buf => buf.lag = 0)
      (fun m => Transport.sendable m ∧ Sse.wordsOnly m.body)
      (fun m n => ∃ checksum, n = { Transport.settled m with checksum }) ∧
    Transport.Queues Szse.SzseBinary (fun buf => buf.lag = 0)
      (fun m => Transport.sendable m ∧ Szse.wordsOnly m.body)
      (fun m n => ∃ checksum, n = { Transport.settled m with checksum }) ∧
    Transport.Queues Bjse.BjseBinary (fun _ => True) Transport.sendable
      (fun m n => n = Transport.settled m) ∧
    Transport.Queues Root.RootPacket (fun buf => buf.lag = 0)
      (fun m => Transport.sendable m ∧ Root.wordsOnly m.payload)
      (fun m n => ∃ checksum, n = { Transport.settled m with checksum }) := by
  refine ⟨?rc, ?sse, ?szse, ?bjse, ?root⟩
  case rc =>
    exact Settles.queues (by decide) (fun m => (Rc.wordsOnly_iff m.body).mp) fun _ _ => rfl
  case sse =>
    exact Settles.queues (by decide) (fun m => (Sse.wordsOnly_iff m.body).mp)
      fun _ bytes => ⟨Scalar.fromLe UInt32 bytes, rfl⟩
  case szse =>
    exact Settles.queues (by decide) (fun m => (Szse.wordsOnly_iff m.body).mp)
      fun _ bytes => ⟨Scalar.fromLe Int32 bytes, rfl⟩
  case bjse =>
    apply Transport.queues (by decide) (fun _ _ _ => trivial)
    intro buf m _ valid
    exact ⟨_, Transport.sent m, _, rfl, trivial, (encode m).unread_run buf, rfl,
      Transport.reads m valid⟩
  case root =>
    exact Settles.queues (by decide) (fun m => (Root.wordsOnly_iff m.payload).mp)
      fun _ bytes => ⟨Scalar.fromLe UInt32 bytes, rfl⟩

end FinProto
