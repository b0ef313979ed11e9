import FinProto.Rc.Binary
import FinProto.Sse.Binary
import FinProto.Szse.Binary
import FinProto.Bjse.Binary
import FinProto.Root.Packet

/-! The frames of all protocols as one type: those whose length `encode` computes, and
`BjseBinary`, whose length is a field. -/
namespace FinProto

/-- A frame of a length-prefixed protocol. -/
inductive SizedPacket where
  | rc (m : Rc.RcBinary)
  | sse (m : Sse.SseBinary)
  | szse (m : Szse.SzseBinary)
  | root (m : Root.RootPacket)

namespace SizedPacket

def encode : SizedPacket → FrameEncoder
  | rc m => m.encode
  | sse m => m.encode
  | szse m => m.encode
  | root m => m.encode

def sized : SizedPacket → Sized
  | rc m => m.sized
  | sse m => m.sized
  | szse m => m.sized
  | root m => m.sized

/-- `body->encode`. -/
def body : SizedPacket → Encoder
  | rc m => m.body.encode
  | sse m => m.body.encode
  | szse m => m.body.encode
  | root m => m.payload.encode

/-- Bytes between the start of a frame and its length word. -/
def lengthOffset : SizedPacket → Nat
  | rc _ => 8
  | sse _ => 12
  | szse _ => 4
  | root _ => 2

/-- `writer_index()` after the header, where `encode` patches the length in. -/
def lengthPos (m : SizedPacket) (buf : ByteBuf) : Nat := (m.sized.header.run buf).writerIndex

theorem lengthOffset_sized (m : SizedPacket) : m.sized.lengthOffset = m.lengthOffset := by
  cases m with
  | rc m => exact m.lengthOffset_sized
  | sse m => exact m.lengthOffset_sized
  | szse m => exact m.lengthOffset_sized
  | root m => exact m.lengthOffset_sized

theorem body_sized (m : SizedPacket) : m.sized.body = m.body := by
  cases m with
  | rc m => rfl
  | sse m => rfl
  | szse m => rfl
  | root m => rfl

theorem lengthPos_eq (m : SizedPacket) (buf : ByteBuf) :
    m.lengthPos buf = buf.writerIndex + m.lengthOffset := by
  rw [lengthPos, Encoder.writerIndex_run, m.sized.counted_header, ← m.lengthOffset_sized]
  rfl

/-- After the patched frame come only words. -/
theorem encode_eq (m : SizedPacket) (buf : ByteBuf) :
    ∃ trailer : Encoder, trailer.uncounted = 0 ∧
      m.encode buf = .ok (trailer.run (m.sized.written buf)) := by
  cases m with
  | rc m => exact SizedFrame.encode_words m buf
  | sse m => exact SizedFrame.encode_words m buf
  | szse m => exact SizedFrame.encode_words m buf
  | root m => exact SizedFrame.encode_words m buf

end SizedPacket

/-- A frame of any protocol. -/
inductive Packet where
  | sized (m : SizedPacket)
  | bjse (m : Bjse.BjseBinary)

namespace Packet

def encode : Packet → FrameEncoder
  | sized m => m.encode
  | bjse m => fun buf => .ok ((FinProto.encode m).run buf)

/-- The bytes of a frame that `write_bytes`, `write_u8` and `write_i8` append: its
fixed-width strings, the contents of its dynamic strings and its 8-bit fields. -/
def uncounted : Packet → Nat
  | sized m => m.body.uncounted
  | bjse m => m.body.encode.uncounted

/-- One frame moves the lag by its uncounted bytes. -/
theorem lag_encode (m : Packet) (buf : ByteBuf) :
    ∃ out, m.encode buf = .ok out ∧ out.lag = buf.lag + m.uncounted := by
  cases m with
  | sized m =>
    obtain ⟨trailer, words, encoded⟩ := m.encode_eq buf
    exact ⟨_, encoded, by
      rw [Encoder.lag_run, words, Sized.lag_written, m.body_sized, Nat.add_zero, uncounted]⟩
  | bjse m =>
    refine ⟨_, rfl, ?_⟩
    rw [Encoder.lag_run]
    simp [FinProto.encode, uncounted]

end Packet

end FinProto
