import FinProto.Frame
import FinProto.Rc.Messages

/-! `RcBinary`, the frame of `rc_binary.hpp`. -/
namespace FinProto.Rc

open Wire

structure RcBinary where
  msgType : UInt32
  version : UInt32
  msgBodyLen : UInt32
  body : Body

namespace RcBinary

def header (m : RcBinary) : Encoder := .seq [writeU32 m.msgType, writeU32 m.version]

def encode (m : RcBinary) : FrameEncoder :=
  encodeSized m.header writeU32 writeU32At m.body.encode

def decode : Decoder RcBinary := do
  let msgType ← readU32
  return {
    msgType, version := ← readU32, msgBodyLen := ← readU32,
    body := ← rcBinaryMessageFactory.create msgType >>= Object.decode bodyTypes }

def equals (m o : RcBinary) : Bool :=
  m.msgType == o.msgType && m.version == o.version && m.msgBodyLen == o.msgBodyLen &&
  m.body.equals o.body

/-- The body is a canonical object of the class registered for `msgType`. -/
def canonical (m : RcBinary) : Prop :=
  rcBinaryMessageFactory.find m.msgType = some m.body.type ∧ m.body.trimmed = m.body ∧ m.body.fits

def sized (m : RcBinary) : Sized := ⟨m.header, m.body.encode, rfl⟩

theorem lengthOffset_sized (m : RcBinary) : m.sized.lengthOffset = 8 :=
  m.sized.counted_header.symm

instance : SizedFrame RcBinary where
  encode := encode
  decode := decode
  sized := sized
  length m := m.msgBodyLen
  checksum _ := []
  trailer _ _ := .skip
  canonical := canonical
  encode_eq m buf := by
    have framed : m.encode buf = .ok (m.sized.written buf) := m.sized.encodeSized_eq buf
    rw [framed, Encoder.run_skip]
  counted_trailer _ _ := rfl
  length_trailer _ _ := rfl
  inverts_decode := by
    have fields : Inverts decode _ (fun m => True ∧ _) :=
      .field RcBinary.msgType fun _ => .field RcBinary.version fun _ =>
      .field RcBinary.msgBodyLen fun _ =>
      MessageFactory.inverts_field RcBinary.body RcBinary.msgType (by simp +contextual) fun _ =>
      .done fun m => by cases m; simp [and_assoc]
    exact fields.congr (fun m => by simp [Sized.spelled, sized, header, writeU32])
      (fun m => by simp [canonical, Anything])

end RcBinary

end FinProto.Rc
