import FinProto.Frame
import FinProto.Szse.Messages

/-! `SzseBinary`, the frame of `szse_binary.hpp`. -/
namespace FinProto.Szse

open Wire

structure SzseBinary where
  msgType : UInt32
  bodyLength : UInt32
  body : Body
  checksum : Int32

namespace SzseBinary

def header (m : SzseBinary) : Encoder := .seq [writeU32 m.msgType]

def encode (m : SzseBinary) : FrameEncoder := fun buf => do
  let buf ← encodeSized m.header writeU32 writeU32At m.body.encode buf
  match ChecksumServiceContext.shared.get Int32 "SZSE_BIN" with
  | some service => return (writeI32 (service buf)).run buf
  | none => return (writeI32 m.checksum).run buf

def decode : Decoder SzseBinary := do
  let msgType ← readU32
  return {
    msgType, bodyLength := ← readU32,
    body := ← szseBinaryMessageFactory.create msgType >>= Object.decode bodyTypes,
    checksum := ← readI32 }

def equals (m o : SzseBinary) : Bool :=
  m.msgType == o.msgType && m.bodyLength == o.bodyLength &&
  m.body.equals o.body && m.checksum == o.checksum

/-- The body is a canonical object of the class registered for `msgType`. -/
def canonical (m : SzseBinary) : Prop :=
  szseBinaryMessageFactory.find m.msgType = some m.body.type ∧ m.body.trimmed = m.body ∧ m.body.fits

def sized (m : SzseBinary) : Sized := ⟨m.header, m.body.encode, rfl⟩

theorem lengthOffset_sized (m : SzseBinary) : m.sized.lengthOffset = 4 :=
  m.sized.counted_header.symm

instance : SizedFrame SzseBinary where
  encode := encode
  decode := decode
  sized := sized
  length m := m.bodyLength
  checksum m := (writeI32 m.checksum).bytes
  trailer _ buf := writeI32 (szseBinCalc buf)
  canonical := canonical
  encode_eq m buf := by
    have framed : encodeSized m.header writeU32 writeU32At m.body.encode buf =
        .ok (m.sized.written buf) := m.sized.encodeSized_eq buf
    rw [encode, framed]
    rfl
  counted_trailer _ _ := rfl
  length_trailer _ _ := by simp [length_writeI32]
  inverts_decode := by
    have fields : Inverts decode _ (fun m => True ∧ _) :=
      .field SzseBinary.msgType fun _ => .field SzseBinary.bodyLength fun _ =>
      MessageFactory.inverts_field SzseBinary.body SzseBinary.msgType (by simp +contextual) fun _ =>
      .field SzseBinary.checksum fun _ => .done fun m => by cases m; simp [and_assoc]
    exact fields.congr (fun m => by simp [Sized.spelled, sized, header, writeU32])
      (fun m => by simp [canonical, Anything])

end SzseBinary

end FinProto.Szse
