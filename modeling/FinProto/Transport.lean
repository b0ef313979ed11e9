import FinProto.Interface
import FinProto.Trimming

/-! Frames between a sender and a receiver: what a new buffer holds after `encode` is sent,
and what `decode` makes of it is passed on the same way. Here and where this is used, the sum in
`int32_t` that `SzseBinary` sends is taken to wrap. -/
namespace FinProto

open Wire

/-- A decoder that starts with a word of `n` bytes. -/
def Keyed (p : Decoder α) (n : Nat) : Prop :=
  ∃ (β : Type) (key : Decoder β) (k : β → Decoder α), key.Walks n ∧ p = key >>= k

/-! ## Frames with computed words -/

/-- A sized frame that keeps its length and its trailer in fields, and that may be sent when
its body is of the class registered for it and fits. -/
class Settles (F : Type) extends SizedFrame F where
  reworded : F → UInt32 → Bytes → F
  stripped : F → F
  sendable : F → Prop
  keyWidth : Nat
  keyed : Keyed decode keyWidth
  sized_reworded : ∀ m word bytes, sized (reworded m word bytes) = sized m
  length_reworded : ∀ m word bytes, length (reworded m word bytes) = word
  checksum_reworded : ∀ m word {bytes}, bytes.length = (checksum m).length →
    checksum (reworded m word bytes) = bytes
  trailer_reworded : ∀ m word bytes, trailer (reworded m word bytes) = trailer m
  canonical_reworded : ∀ m word bytes, canonical (reworded m word bytes) ↔ canonical m
  sized_stripped : ∀ m, sized (stripped m) = sized m
  checksum_stripped : ∀ m, checksum (stripped m) = checksum m
  trailer_stripped : ∀ m, trailer (stripped m) = trailer m
  canonical_stripped : ∀ m, canonical (stripped m) ↔ sendable m
  stripped_of_canonical : ∀ {m}, canonical m → stripped m = m

namespace Settles
variable {F : Type} [Settles F]

open SizedFrame

/-- The trailer `encode` computes in a new buffer. -/
def computed (m : F) : Bytes := (trailer m ((sized m).written .new)).bytes

/-- What a new buffer holds after `encode`. -/
def sent (m : F) : Bytes := SizedFrame.spelled m (sized m).lengthWord (computed m)

/-- The frame at the other end: trimmed, with the words that `encode` computed. -/
def settled (m : F) : F := reworded (stripped m) (sized m).lengthWord (computed m)

theorem length_computed (m : F) : (computed m).length = (checksum m).length :=
  length_trailer m _

theorem sized_settled (m : F) : sized (settled m) = sized m := by
  rw [settled, sized_reworded, sized_stripped]

theorem computed_settled (m : F) : computed (settled m) = computed m := by
  rw [computed, sized_settled, settled, trailer_reworded, trailer_stripped]
  rfl

theorem sent_settled (m : F) : sent (settled m) = sent m := by
  rw [sent, SizedFrame.spelled, computed_settled, sized_settled]
  rfl

theorem canonical_settled (m : F) : canonical (settled m) ↔ sendable m := by
  rw [settled, canonical_reworded, canonical_stripped]

/-- Whatever was decoded may be sent on. -/
theorem sendable_of_canonical {m : F} (valid : canonical m) : sendable m := by
  rw [← canonical_stripped, stripped_of_canonical valid]
  exact valid

/-- The words of a settled frame are those that were sent. -/
theorem spelled_settled (m : F) :
    SizedFrame.spelled (settled m) (length (settled m)) (checksum (settled m)) = sent m := by
  have width : (computed m).length = (checksum (stripped m)).length := by
    rw [checksum_stripped, length_computed]
  have word : length (settled m) = (sized m).lengthWord := length_reworded _ _ _
  have trailer : checksum (settled m) = computed m := checksum_reworded _ _ width
  rw [SizedFrame.spelled, word, trailer, sized_settled]
  rfl

end Settles

instance : Settles Rc.RcBinary where
  reworded m word _ := { m with msgBodyLen := word }
  stripped m := { m with body := m.body.trimmed }
  sendable m := Rc.rcBinaryMessageFactory.find m.msgType = some m.body.type ∧ m.body.fits
  keyWidth := 4
  keyed := ⟨_, _, _, walks_read UInt32 false, rfl⟩
  sized_reworded _ _ _ := rfl
  length_reworded _ _ _ := rfl
  checksum_reworded _ _ _ width := (List.eq_nil_of_length_eq_zero width).symm
  trailer_reworded _ _ _ := rfl
  canonical_reworded _ _ _ := Iff.rfl
  sized_stripped m := by
    change Rc.RcBinary.sized { m with body := m.body.trimmed } = m.sized
    simp [Rc.RcBinary.sized, Rc.RcBinary.header, Object.encode_trimmed]
  checksum_stripped _ := rfl
  trailer_stripped _ := rfl
  canonical_stripped m := by
    change Rc.RcBinary.canonical { m with body := m.body.trimmed } ↔ _
    simp [Rc.RcBinary.canonical]
  stripped_of_canonical valid := by rw [valid.2.1]

instance : Settles Sse.SseBinary where
  reworded m word bytes := { m with msgBodyLen := word, checksum := Scalar.fromLe UInt32 bytes }
  stripped m := { m with body := m.body.trimmed }
  sendable m := Sse.sseBinaryMessageFactory.find m.msgType = some m.body.type ∧ m.body.fits
  keyWidth := 4
  keyed := ⟨_, _, _, walks_read UInt32 false, rfl⟩
  sized_reworded _ _ _ := rfl
  length_reworded _ _ _ := rfl
  checksum_reworded m _ bytes width := by
    have whole : bytes.length = Scalar.size UInt32 := width.trans (length_writeU32 m.checksum)
    exact Scalar.leBytes_fromLe whole
  trailer_reworded _ _ _ := rfl
  canonical_reworded _ _ _ := Iff.rfl
  sized_stripped m := by
    change Sse.SseBinary.sized { m with body := m.body.trimmed } = m.sized
    simp [Sse.SseBinary.sized, Sse.SseBinary.header, Object.encode_trimmed]
  checksum_stripped _ := rfl
  trailer_stripped _ := rfl
  canonical_stripped m := by
    change Sse.SseBinary.canonical { m with body := m.body.trimmed } ↔ _
    simp [Sse.SseBinary.canonical]
  stripped_of_canonical valid := by rw [valid.2.1]

instance : Settles Szse.SzseBinary where
  reworded m word bytes := { m with bodyLength := word, checksum := Scalar.fromLe Int32 bytes }
  stripped m := { m with body := m.body.trimmed }
  sendable m := Szse.szseBinaryMessageFactory.find m.msgType = some m.body.type ∧ m.body.fits
  keyWidth := 4
  keyed := ⟨_, _, _, walks_read UInt32 false, rfl⟩
  sized_reworded _ _ _ := rfl
  length_reworded _ _ _ := rfl
  checksum_reworded m _ bytes width := by
    have whole : bytes.length = Scalar.size Int32 := width.trans (length_writeI32 m.checksum)
    exact Scalar.leBytes_fromLe whole
  trailer_reworded _ _ _ := rfl
  canonical_reworded _ _ _ := Iff.rfl
  sized_stripped m := by
    change Szse.SzseBinary.sized { m with body := m.body.trimmed } = m.sized
    simp [Szse.SzseBinary.sized, Szse.SzseBinary.header, Object.encode_trimmed]
  checksum_stripped _ := rfl
  trailer_stripped _ := rfl
  canonical_stripped m := by
    change Szse.SzseBinary.canonical { m with body := m.body.trimmed } ↔ _
    simp [Szse.SzseBinary.canonical]
  stripped_of_canonical valid := by rw [valid.2.1]

instance : Settles Root.RootPacket where
  reworded m word bytes := { m with payloadLen := word, checksum := Scalar.fromLe UInt32 bytes }
  stripped m := { m with payload := m.payload.trimmed }
  sendable m := Root.rootPacketMessageFactory.find m.msgType = some m.payload.type ∧ m.payload.fits
  keyWidth := 2
  keyed := ⟨_, _, _, walks_read UInt16 false, rfl⟩
  sized_reworded _ _ _ := rfl
  length_reworded _ _ _ := rfl
  checksum_reworded m _ bytes width := by
    have whole : bytes.length = Scalar.size UInt32 := width.trans (length_writeU32Le m.checksum)
    exact Scalar.leBytes_fromLe whole
  trailer_reworded _ _ _ := rfl
  canonical_reworded _ _ _ := Iff.rfl
  sized_stripped m := by
    change Root.RootPacket.sized { m with payload := m.payload.trimmed } = m.sized
    simp [Root.RootPacket.sized, Root.RootPacket.header, Object.encode_trimmed]
  checksum_stripped _ := rfl
  trailer_stripped _ := rfl
  canonical_stripped m := by
    change Root.RootPacket.canonical { m with payload := m.payload.trimmed } ↔ _
    simp [Root.RootPacket.canonical]
  stripped_of_canonical valid := by rw [valid.2.1]

/-! ## Sending and receiving -/

/-- A protocol as its two ends see it. -/
class Transport (F : Type) where
  encode : F → FrameEncoder
  decode : Decoder F
  sendable : F → Prop
  keyWidth : Nat
  keyed : Keyed decode keyWidth
  sent : F → Bytes
  settled : F → F
  encode_new : ∀ m, ∃ buf, encode m .new = .ok buf ∧ unread buf = buf.data ∧ buf.data = sent m
  reads : ∀ m, sendable m → Reads decode.run (sent m) (settled m)
  sendable_settled : ∀ m, sendable m → sendable (settled m)
  sent_settled : ∀ m, sent (settled m) = sent m

instance {F : Type} [Settles F] : Transport F where
  encode := SizedFrame.encode
  decode := SizedFrame.decode
  sendable := Settles.sendable
  keyWidth := Settles.keyWidth F
  keyed := Settles.keyed
  sent := Settles.sent
  settled := Settles.settled
  encode_new m := SizedFrame.encode_new m
  reads m valid := by
    rw [← Settles.spelled_settled]
    exact SizedFrame.inverts_decode.reads ((Settles.canonical_settled m).mpr valid)
  sendable_settled m valid :=
    Settles.sendable_of_canonical ((Settles.canonical_settled m).mpr valid)
  sent_settled := Settles.sent_settled

instance : Transport Bjse.BjseBinary where
  encode := Packet.encode ∘ .bjse
  decode := decode
  sendable m := Bjse.bjseBinaryMessageFactory.find m.msgType = some m.body.type ∧ m.body.fits
  keyWidth := 4
  keyed := ⟨_, _, _, walks_read UInt32 false, rfl⟩
  sent m := (encode m).bytes
  settled m := { m with body := m.body.trimmed }
  encode_new m := by
    refine ⟨_, rfl, ?_, (encode m).buffer_run .new⟩
    change List.drop _ _ = _
    rw [Encoder.readerIndex_run]
    rfl
  reads m valid := by
    rw [← bytes_encode_trimmed m]
    exact (inverts_decode Bjse.BjseBinary).reads
      ⟨trimmed_trimmed m, (fits_trimmed m).mpr valid⟩
  sendable_settled m valid := (fits_trimmed m).mpr valid
  sent_settled := bytes_encode_trimmed

namespace Transport
variable {F : Type} [Transport F]

/-- Settling is done once. -/
theorem settled_settled {m : F} (valid : sendable m) : settled (settled m) = settled m := by
  have again := reads (settled m) (sendable_settled m valid)
  rw [sent_settled] at again
  have same : sent m ++ [] = sent m ++ [] := rfl
  exact (again.unique (reads m valid) same).2

/-- One hop: encode into a new buffer, decode at the other end what it holds. -/
def hop (m : F) : Except Fault F := do
  let buf ← encode m .new
  (decode.run (.holding buf.data)).value

/-- A frame passed on `n` times. -/
def hops : Nat → F → Except Fault F
  | 0, m => .ok m
  | n + 1, m => hop m >>= hops n

theorem hop_eq {m : F} (valid : sendable m) : hop m = .ok (settled m) := by
  obtain ⟨buf, encoded, _, data⟩ := encode_new m
  have start : unread (ByteBuf.holding buf.data) = sent m ++ [] := by
    rw [ByteBuf.unread_holding, data, List.append_nil]
  rw [hop, encoded]
  exact ((reads m valid).accepts _ [] start).1

theorem hops_eq {m : F} (valid : sendable m) (n : Nat) : hops (n + 1) m = .ok (settled m) := by
  induction n generalizing m with
  | zero =>
    rw [hops, hop_eq valid]
    rfl
  | succ n ih =>
    rw [hops, hop_eq valid]
    exact (ih (sendable_settled m valid)).trans (congrArg _ (settled_settled valid))

/-- Passing a frame on any number of times settles it at the first hop, and each hop sends
the same bytes. -/
structure Relays (F : Type) [Transport F] : Prop where
  settles : ∀ (m : F) (n : Nat), sendable m → hops (n + 1) m = .ok (settled m)
  sends : ∀ (m : F) (n : Nat) (r : F), sendable m → hops n m = .ok r →
    ∃ buf, encode r .new = .ok buf ∧ buf.data = sent m

theorem relays (F : Type) [Transport F] : Relays F where
  settles _ n valid := hops_eq valid n
  sends m n r valid passed := by
    cases n with
    | zero =>
      cases passed
      obtain ⟨buf, encoded, _, data⟩ := encode_new m
      exact ⟨buf, encoded, data⟩
    | succ n =>
      cases (hops_eq valid n).symm.trans passed
      obtain ⟨buf, encoded, _, data⟩ := encode_new (settled m)
      exact ⟨buf, encoded, data.trans (sent_settled m)⟩

end Transport

/-- Every protocol relays. -/
theorem frames_relayed :
    Transport.Relays Rc.RcBinary ∧ Transport.Relays Sse.SseBinary ∧
      Transport.Relays Szse.SzseBinary ∧ Transport.Relays Bjse.BjseBinary ∧
      Transport.Relays Root.RootPacket :=
  ⟨Transport.relays _, Transport.relays _, Transport.relays _, Transport.relays _,
    Transport.relays _⟩

end FinProto
