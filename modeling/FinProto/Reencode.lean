import FinProto.Rc.Binary
import FinProto.Sse.Binary
import FinProto.Szse.Binary
import FinProto.Root.Packet

/-! Encoding undoes decoding: whatever bytes a decoder accepts, encoding its result
into a new buffer restores them outside the two words that `encode` computes. The sum in
`int32_t` is taken to wrap. -/
namespace FinProto

open Wire

/-- Accepted bytes `b` and the bytes `e` of the re-encoded frame have the same
length and agree outside the length word at `lengthAt` and the last `trailer` bytes. -/
structure AgreeOutside (lengthAt trailer : Nat) (b e : Bytes) : Prop where
  length : e.length = b.length
  header : ∀ i, i < lengthAt → e[i]? = b[i]?
  body : ∀ i, lengthAt + 4 ≤ i → i + trailer < b.length → e[i]? = b[i]?

/-- Re-encoding in a new buffer restores what decoding consumed. -/
def Reencodes {F : Type} (encode : F → FrameEncoder) (decode : Decoder F)
    (lengthAt trailer : Nat) : Prop :=
  ∀ (b : Bytes) (m : F), (decode.run (.holding b)).value = .ok m →
    ∃ k buf, k ≤ b.length ∧ (decode.run (.holding b)).state.readerIndex = k ∧
      encode m .new = .ok buf ∧ AgreeOutside lengthAt trailer (b.take k) buf.data

/-- An index into the middle of three parts. -/
theorem getElem?_middle {a b c : List α} {i : Nat} (after : a.length ≤ i)
    (inside : i < a.length + b.length) : (a ++ b ++ c)[i]? = b[i - a.length]? := by
  have bound : i - a.length < b.length := by omega
  rw [List.append_assoc, List.getElem?_append_right after, List.getElem?_append_left bound]

/-- Spellings of one frame differ in the length word and the trailer only. -/
theorem Sized.agreeOutside (f : Sized) (v w : UInt32) {s t : Bytes} (same : s.length = t.length) :
    AgreeOutside f.lengthOffset s.length (f.spelled v ++ s) (f.spelled w ++ t) where
  length := by simp [spelled, same]
  header i before := by
    have inside : i < f.header.bytes.length := before
    simp [spelled, List.append_assoc, List.getElem?_append_left inside]
  body i after inside := by
    have start : ∀ word : UInt32, (f.header.bytes ++ Scalar.leBytes word).length =
        f.lengthOffset + 4 := by
      intro word
      rw [List.length_append, Scalar.length_leBytes]
      rfl
    rw [List.length_append, f.length_spelled] at inside
    rw [spelled, spelled, getElem?_middle (by rw [start]; exact after) (by rw [start]; omega),
      getElem?_middle (by rw [start]; exact after) (by rw [start]; omega), start, start]

namespace SizedFrame
variable {F : Type} [SizedFrame F]

theorem reencodes {lengthAt trailer : Nat} (offset : ∀ m : F, (sized m).lengthOffset = lengthAt)
    (width : ∀ m : F, (checksum m).length = trailer) :
    Reencodes (encode (F := F)) decode lengthAt trailer := by
  intro b m success
  obtain ⟨_, ⟨rest, split⟩, state⟩ := (inverts_decode (F := F)).sound success
  obtain ⟨buf, encoded, _, data⟩ := encode_new m
  rw [ByteBuf.unread_holding] at split
  have consumed : b.take (spelled m (length m) (checksum m)).length =
      spelled m (length m) (checksum m) := by rw [split]; exact List.take_left
  have inside : (spelled m (length m) (checksum m)).length ≤ b.length := by
    rw [split]
    simp [spelled]
  refine ⟨(spelled m (length m) (checksum m)).length, buf, inside, ?_, encoded, ?_⟩
  · rw [state]
    exact ByteBuf.readerIndex_advance_holding inside
  · rw [consumed, data]
    have agree := (sized m).agreeOutside (length m) (sized m).lengthWord
      (length_trailer m ((sized m).written .new)).symm
    rwa [offset, width] at agree

end SizedFrame

/-- No two different byte strings decode, used up, to the same body of one class. -/
def BodyInjective {Tag : Type} (types : Tag → MessageType) : Prop :=
  ∀ (type : Tag) (b c : Bytes) (o : Object types),
    ((Object.decode types type).run (.holding b)).value = .ok o →
    ((Object.decode types type).run (.holding b)).state.readableBytes = 0 →
    ((Object.decode types type).run (.holding c)).value = .ok o →
    ((Object.decode types type).run (.holding c)).state.readableBytes = 0 → b = c

theorem Object.bodyInjective {Tag : Type} (types : Tag → MessageType) : BodyInjective types := by
  intro type b c o first used second used'
  have spelled : ∀ d : Bytes, ((Object.decode types type).run (.holding d)).value = .ok o →
      ((Object.decode types type).run (.holding d)).state.readableBytes = 0 →
      d = o.encode.bytes := by
    intro d success drained
    obtain ⟨_, ⟨rest, split⟩, state⟩ := (Object.inverts_decode type).sound success
    rw [ByteBuf.readableBytes_eq, state, Cursor.unread_advance, split, List.drop_left] at drained
    rw [ByteBuf.unread_holding, List.length_eq_zero_iff.mp drained, List.append_nil] at split
    exact split
  rw [spelled b first used, spelled c second used']

/-- In each length-prefixed protocol encoding undoes decoding, and a body's bytes
are determined by the body. -/
theorem encode_undoes_decode :
    (Reencodes Rc.RcBinary.encode Rc.RcBinary.decode 8 0 ∧ BodyInjective Rc.bodyTypes) ∧
    (Reencodes Sse.SseBinary.encode Sse.SseBinary.decode 12 4 ∧ BodyInjective Sse.bodyTypes) ∧
    (Reencodes Szse.SzseBinary.encode Szse.SzseBinary.decode 4 4 ∧ BodyInjective Szse.bodyTypes) ∧
    (Reencodes Root.RootPacket.encode Root.RootPacket.decode 2 4 ∧ BodyInjective Root.bodyTypes) := by
  refine ⟨⟨?rc, Object.bodyInjective _⟩, ⟨?sse, Object.bodyInjective _⟩,
    ⟨?szse, Object.bodyInjective _⟩, ⟨?root, Object.bodyInjective _⟩⟩
  case rc => exact SizedFrame.reencodes Rc.RcBinary.lengthOffset_sized (fun _ => rfl)
  case sse =>
    exact SizedFrame.reencodes Sse.SseBinary.lengthOffset_sized
      (fun m => length_writeU32 m.checksum)
  case szse =>
    exact SizedFrame.reencodes Szse.SzseBinary.lengthOffset_sized
      (fun m => length_writeI32 m.checksum)
  case root =>
    exact SizedFrame.reencodes Root.RootPacket.lengthOffset_sized
      (fun m => length_writeU32Le m.checksum)

/-- Two partition reports with a length and a checksum of their own, and a byte behind them. -/
theorem reportSynchronization_reencodes :
    let b : Bytes := [5, 0, 0, 0, 9, 9, 0, 0, 2, 0, 0, 0, 1, 0, 0, 0, 7, 0, 0, 0, 0, 0, 0, 0,
      2, 0, 0, 0, 8, 0, 0, 0, 0, 0, 0, 0, 3, 0, 0, 0, 255]
    let reports : Szse.ReportSynchronization := { partitionReport := [⟨1, 7⟩, ⟨2, 8⟩] }
    let m : Szse.SzseBinary := ⟨5, 2313, ⟨.reportSynchronization, reports⟩, 3⟩
    ∃ k buf, k ≤ b.length ∧ (Szse.SzseBinary.decode.run (.holding b)).state.readerIndex = k ∧
      m.encode .new = .ok buf ∧ AgreeOutside 4 4 (b.take k) buf.data := by
  have accepted : (Szse.SzseBinary.decode.run (.holding
      [5, 0, 0, 0, 9, 9, 0, 0, 2, 0, 0, 0, 1, 0, 0, 0, 7, 0, 0, 0, 0, 0, 0, 0,
        2, 0, 0, 0, 8, 0, 0, 0, 0, 0, 0, 0, 3, 0, 0, 0, 255])).value =
      .ok ⟨5, 2313, ⟨.reportSynchronization, { partitionReport := [⟨1, 7⟩, ⟨2, 8⟩] }⟩, 3⟩ := by
    rfl
  intro b reports m
  exact encode_undoes_decode.2.2.1.1 b m accepted

end FinProto
