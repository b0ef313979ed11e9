import FinProto.Bjse.Messages

/-! `BjseBinary`, the frame of `bjse_binary.hpp`. Its length and checksum are
fields like any other: what the caller put there is what is sent. -/
namespace FinProto.Bjse

open Wire

structure BjseBinary where
  msgType : UInt32
  bodyLength : UInt32
  body : Body
  checksum : UInt32

instance : Message BjseBinary where
  encode m := .seq [
    writeU32Le m.msgType, writeU32Le m.bodyLength, m.body.encode, writeU32Le m.checksum]
  decode := do
    let msgType ← readU32Le
    return {
      msgType, bodyLength := ← readU32Le,
      body := ← bjseBinaryMessageFactory.create msgType >>= Object.decode bodyTypes,
      checksum := ← readU32Le }
  equals m o :=
    m.msgType == o.msgType && m.bodyLength == o.bodyLength && m.body.equals o.body &&
    m.checksum == o.checksum
  trimmed m := { m with body := m.body.trimmed }
  fits m := bjseBinaryMessageFactory.find m.msgType = some m.body.type ∧ m.body.fits
  roundTrip := .record
    (.field BjseBinary.msgType fun _ => .field BjseBinary.bodyLength fun _ =>
    MessageFactory.inverts_field BjseBinary.body BjseBinary.msgType (by simp +contextual) fun _ =>
    .field BjseBinary.checksum fun _ => .done fun m => by cases m; simp [and_assoc])
    (fun m => by cases m; constructor <;> simp +contextual [Anything]) (fun _ => rfl)
    (fun _ => by simp) (fun _ => by simp) (fun _ => by simp)

end FinProto.Bjse
