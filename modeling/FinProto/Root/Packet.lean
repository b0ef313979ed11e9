import FinProto.Frame
import FinProto.Root.Messages

/-! `RootPacket`, the frame of `root_packet.hpp`. -/
namespace FinProto.Root

open Wire

structure RootPacket where
  msgType : UInt16
  payloadLen : UInt32
  payload : Body
  checksum : UInt32

namespace RootPacket

def header (m : RootPacket) : Encoder := .seq [writeU16Le m.msgType]

def encode (m : RootPacket) : FrameEncoder := fun buf => do
  let buf ← encodeSized m.header writeU32Le writeU32LeAt m.payload.encode buf
  match ChecksumServiceContext.shared.get UInt32 "CRC32" with
  | some service => return (writeU32Le (service buf)).run buf
  | none => return (writeU32Le m.checksum).run buf

def decode : Decoder RootPacket := do
  let msgType ← readU16Le
  return {
    msgType, payloadLen := ← readU32Le,
    payload := ← rootPacketMessageFactory.create msgType >>= Object.decode bodyTypes,
    checksum := ← readU32Le }

def equals (m o : RootPacket) : Bool :=
  m.msgType == o.msgType && m.payloadLen == o.payloadLen &&
  m.payload.equals o.payload && m.checksum == o.checksum

/-- The payload is a canonical object of the class registered for `msgType`. -/
def canonical (m : RootPacket) : Prop :=
  rootPacketMessageFactory.find m.msgType = some m.payload.type ∧
    m.payload.trimmed = m.payload ∧ m.payload.fits

def sized (m : RootPacket) : Sized := ⟨m.header, m.payload.encode, rfl⟩

theorem lengthOffset_sized (m : RootPacket) : m.sized.lengthOffset = 2 :=
  m.sized.counted_header.symm

instance : SizedFrame RootPacket where
  encode := encode
  decode := decode
  sized := sized
  length m := m.payloadLen
  checksum m := (writeU32Le m.checksum).bytes
  trailer _ buf := writeU32Le (crc32Calc buf)
  canonical := canonical
  encode_eq m buf := by
    have framed : encodeSized m.header writeU32Le writeU32LeAt m.payload.encode buf =
        .ok (m.sized.written buf) := m.sized.encodeSized_eq buf
    rw [encode, framed]
    rfl
  counted_trailer _ _ := rfl
  length_trailer _ _ := by simp [length_writeU32Le]
  inverts_decode := by
    have fields : Inverts decode _ (fun m => True ∧ _) :=
      .field RootPacket.msgType fun _ => .field RootPacket.payloadLen fun _ =>
      MessageFactory.inverts_field RootPacket.payload RootPacket.msgType
        (by simp +contextual) fun _ =>
      .field RootPacket.checksum fun _ => .done fun m => by cases m; simp [and_assoc]
    exact fields.congr (fun m => by simp [Sized.spelled, sized, header, writeU32Le])
      (fun m => by simp [canonical, Anything])

end RootPacket

end FinProto.Root
