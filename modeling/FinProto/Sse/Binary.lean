import FinProto.Frame
import FinProto.Sse.Messages

/-! `SseBinary`, the frame of `sse_binary.hpp`. -/
namespace FinProto.Sse

open Wire

structure SseBinary where
  msgType : UInt32
  msgSeqNum : UInt64
  msgBodyLen : UInt32
  body : Body
  checksum : UInt32

namespace SseBinary

def header (m : SseBinary) : Encoder := .seq [writeU32 m.msgType, writeU64 m.msgSeqNum]

def encode (m : SseBinary) : FrameEncoder := fun buf => do
  let buf ← encodeSized m.header writeU32 writeU32At m.body.encode buf
  match ChecksumServiceContext.shared.get UInt32 "SSE_BIN" with
  | some service => return (writeU32 (service buf)).run buf
  | none => return (writeU32 m.checksum).run buf

def decode : Decoder SseBinary := do
  let msgType ← readU32
  return {
    msgType, msgSeqNum := ← readU64, msgBodyLen := ← readU32,
    body := ← sseBinaryMessageFactory.create msgType >>= Object.decode bodyTypes,
    checksum := ← readU32 }

def equals (m o : SseBinary) : Bool :=
  m.msgType == o.msgType && m.msgSeqNum == o.msgSeqNum && m.msgBodyLen == o.msgBodyLen &&
  m.body.equals o.body && m.checksum == o.checksum

/-- The body is a canonical object of the class registered for `msgType`. -/
def canonical (m : SseBinary) : Prop :=
  sseBinaryMessageFactory.find m.msgType = some m.body.type ∧ m.body.trimmed = m.body ∧ m.body.fits

def sized (m : SseBinary) : Sized := ⟨m.header, m.body.encode, rfl⟩

theorem lengthOffset_sized (m : SseBinary) : m.sized.lengthOffset = 12 :=
  m.sized.counted_header.symm

instance : SizedFrame SseBinary where
  encode := encode
  decode := decode
  sized := sized
  length m := m.msgBodyLen
  checksum m := (writeU32 m.checksum).bytes
  trailer _ buf := writeU32 (sseBinCalc buf)
  canonical := canonical
  encode_eq m buf := by
    have framed : encodeSized m.header writeU32 writeU32At m.body.encode buf =
        .ok (m.sized.written buf) := m.sized.encodeSized_eq buf
    rw [encode, framed]
    rfl
  counted_trailer _ _ := rfl
  length_trailer _ _ := by simp [length_writeU32]
  inverts_decode := by
    have fields : Inverts decode _ (fun m => True ∧ _) :=
      .field SseBinary.msgType fun _ => .field SseBinary.msgSeqNum fun _ =>
      .field SseBinary.msgBodyLen fun _ =>
      MessageFactory.inverts_field SseBinary.body SseBinary.msgType (by simp +contextual) fun _ =>
      .field SseBinary.checksum fun _ => .done fun m => by cases m; simp [and_assoc]
    exact fields.congr (fun m => by simp [Sized.spelled, sized, header, writeU32])
      (fun m => by simp [canonical, Anything])

end SseBinary

end FinProto.Sse
