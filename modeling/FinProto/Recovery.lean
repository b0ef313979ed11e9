import FinProto.Arrivals
import FinProto.Verdict

/-! Frames on a stream told apart: no two streams have the same bytes, and a frame of an
unregistered type can be skipped. -/
namespace FinProto

open Wire

/-! ## Streams -/

namespace Transport
variable {F : Type} [Transport F]

theorem sent_ne_nil (positive : 0 < keyWidth F) {m : F} (valid : sendable m) : sent m ≠ [] := by
  intro none
  have read := ((reads m valid).accepts_load []).1
  rw [none, List.append_nil] at read
  have missing : (load ([] : Bytes) : ByteBuf).readableBytes < keyWidth F := by
    rw [ByteBuf.readableBytes_eq, Cursor.unread_load]
    exact positive
  rw [((keyed (F := F)).short missing).1] at read
  cases read

/-- The bytes on the wire tell frames and streams of frames apart, but for what settles. -/
structure Readable (F : Type) [Transport F] : Prop where
  frame : ∀ m n : F, sendable m → sendable n → (sent m = sent n ↔ settled m = settled n)
  prefixFree : ∀ (m n : F) (rest : Bytes), sendable m → sendable n → sent m ++ rest = sent n →
    rest = [] ∧ settled m = settled n
  stream : ∀ frames others : List F, (∀ m ∈ frames, sendable m) → (∀ m ∈ others, sendable m) →
    (frames.flatMap sent = others.flatMap sent ↔ frames.map settled = others.map settled)

theorem flatMap_sent_settled (frames : List F) :
    (frames.map settled).flatMap sent = frames.flatMap sent := by
  rw [List.flatMap_map]
  exact List.flatMap_congr fun m _ => sent_settled m

theorem map_settled_of_flatMap (positive : 0 < keyWidth F) {frames others : List F}
    (valid : ∀ m ∈ frames, sendable m) (valid' : ∀ m ∈ others, sendable m)
    (same : frames.flatMap sent = others.flatMap sent) :
    frames.map settled = others.map settled := by
  induction frames generalizing others with
  | nil =>
    cases others with
    | nil => rfl
    | cons n others =>
      have front := (List.append_eq_nil_iff.mp same.symm).1
      exact absurd front (sent_ne_nil positive (valid' n List.mem_cons_self))
  | cons m frames ih =>
    cases others with
    | nil =>
      have front := (List.append_eq_nil_iff.mp same).1
      exact absurd front (sent_ne_nil positive (valid m List.mem_cons_self))
    | cons n others =>
      obtain ⟨front, head⟩ := (reads m (valid m List.mem_cons_self)).unique
        (reads n (valid' n List.mem_cons_self)) same
      rw [List.flatMap_cons, List.flatMap_cons, front] at same
      rw [List.map_cons, List.map_cons, head, ih (fun m member => valid m (.tail _ member))
        (fun m member => valid' m (.tail _ member)) (List.append_cancel_left same)]

theorem readable (positive : 0 < keyWidth F) : Readable F where
  frame m n valid valid' := by
    constructor
    · intro same
      exact ((reads m valid).unique (t := []) (u := []) (reads n valid') (by rw [same])).2
    · intro same
      rw [← sent_settled m, same, sent_settled]
  prefixFree m n rest valid valid' same := by
    obtain ⟨front, head⟩ :=
      (reads m valid).unique (reads n valid') (same.trans (List.append_nil _).symm)
    rw [front] at same
    exact ⟨List.self_eq_append_right.mp same.symm, head⟩
  stream frames others valid valid' := by
    constructor
    · exact map_settled_of_flatMap positive valid valid'
    · intro same
      rw [← flatMap_sent_settled frames, same, flatMap_sent_settled]

end Transport

/-- Every protocol can be read back from its bytes in one way only. -/
theorem frames_readable :
    Transport.Readable Rc.RcBinary ∧ Transport.Readable Sse.SseBinary ∧
      Transport.Readable Szse.SzseBinary ∧ Transport.Readable Bjse.BjseBinary ∧
      Transport.Readable Root.RootPacket :=
  ⟨Transport.readable (by decide), Transport.readable (by decide), Transport.readable (by decide),
    Transport.readable (by decide), Transport.readable (by decide)⟩

/-! ## Unregistered types

`decode` assigns the fields of its object one after the other, so an object whose `decode` threw
for an unregistered type has the header of that frame. -/

namespace Rc.RcBinary

/-- The assignments of `decode` that come before the object is created. -/
def decodeHeader (m : RcBinary) : Decoder RcBinary :=
  return { m with msgType := ← readU32, version := ← readU32, msgBodyLen := ← readU32 }

/-- The assignments that come after. -/
def decodeBody (m : RcBinary) : Decoder RcBinary :=
  return { m with body := ← rcBinaryMessageFactory.create m.msgType >>= Object.decode bodyTypes }

end Rc.RcBinary

namespace Sse.SseBinary

def decodeHeader (m : SseBinary) : Decoder SseBinary :=
  return { m with msgType := ← readU32, msgSeqNum := ← readU64, msgBodyLen := ← readU32 }

def decodeBody (m : SseBinary) : Decoder SseBinary :=
  return { m with
    body := ← sseBinaryMessageFactory.create m.msgType >>= Object.decode bodyTypes,
    checksum := ← readU32 }

end Sse.SseBinary

namespace Szse.SzseBinary

def decodeHeader (m : SzseBinary) : Decoder SzseBinary :=
  return { m with msgType := ← readU32, bodyLength := ← readU32 }

def decodeBody (m : SzseBinary) : Decoder SzseBinary :=
  return { m with
    body := ← szseBinaryMessageFactory.create m.msgType >>= Object.decode bodyTypes,
    checksum := ← readI32 }

end Szse.SzseBinary

namespace Bjse.BjseBinary

def decodeHeader (m : BjseBinary) : Decoder BjseBinary :=
  return { m with msgType := ← readU32Le, bodyLength := ← readU32Le }

def decodeBody (m : BjseBinary) : Decoder BjseBinary :=
  return { m with
    body := ← bjseBinaryMessageFactory.create m.msgType >>= Object.decode bodyTypes,
    checksum := ← readU32Le }

end Bjse.BjseBinary

namespace Root.RootPacket

def decodeHeader (m : RootPacket) : Decoder RootPacket :=
  return { m with msgType := ← readU16Le, payloadLen := ← readU32Le }

def decodeBody (m : RootPacket) : Decoder RootPacket :=
  return { m with
    payload := ← rootPacketMessageFactory.create m.msgType >>= Object.decode bodyTypes,
    checksum := ← readU32Le }

end Root.RootPacket

section
variable {F Key Tag : Type} [BEq Key]

/-- A decoder in these two parts, on any object: the header, with the key and the length in
their places, and what throws where the key is not registered. -/
structure Headed (decode : Decoder F) (decodeHeader decodeBody : F → Decoder F)
    (factory : MessageFactory Key Tag) (msgType : F → Key) (length : F → UInt32)
    (key : Bytes → Key) (header lengthAt : Nat) : Prop where
  inPlace : ∀ old, decode = decodeHeader old >>= decodeBody
  takes : ∀ old, ∃ f, Takes (decodeHeader old) header f ∧ ∀ window,
    msgType (f window) = key window ∧
      length (f window) = Scalar.fromLe UInt32 ((window.drop lengthAt).take 4)
  keyed : ∀ bytes, key (bytes.take header) = key bytes
  inside : lengthAt + 4 ≤ header
  refuses : ∀ m buf, factory.find (msgType m) = none →
    ((decodeBody m).run buf).value = .error (.runtimeError "No such message type") ∧
      ((decodeBody m).run buf).state = buf

/-- A whole frame whose key no class is registered for, with the length of its body. -/
structure Foreign (factory : MessageFactory Key Tag) (key : Bytes → Key)
    (header lengthAt trailer : Nat) (length : UInt32) (frame : Bytes) : Prop where
  size : frame.length = header + length.toNat + trailer
  announced : (frame.drop lengthAt).take 4 = Scalar.leBytes length
  unknown : factory.find (key frame) = none

theorem refuses_create {factory : MessageFactory Key Tag} {key : Key}
    (unknown : factory.find key = none) (k : Tag → Decoder α) (k' : α → Decoder β)
    (buf : ByteBuf) :
    ((factory.create key >>= k >>= k').run buf).value =
        .error (.runtimeError "No such message type") ∧
      ((factory.create key >>= k >>= k').run buf).state = buf := by
  rw [MessageFactory.create, unknown]
  exact ⟨rfl, rfl⟩

end

namespace Transport
variable {F : Type} [Transport F] {Key Tag : Type} [BEq Key] {factory : MessageFactory Key Tag}

/-- The buffer after a `decode` and the bytes taken off behind it. -/
def resumed (F : Type) [Transport F] (buf : ByteBuf) (n : Nat) : ByteBuf :=
  ((readBytes n).run ((decode (F := F)).run buf).state).state

/-- `decode` throws behind the header of a foreign frame, which its object then has. When the
caller takes off the body that header announces, and the trailer, the frame behind it is read as
if nothing had been there. -/
structure Skips (F : Type) [Transport F] (factory : MessageFactory Key Tag) (key : Bytes → Key)
    (header lengthAt trailer : Nat) (decodeHeader decodeBody : F → Decoder F)
    (length : F → UInt32) : Prop where
  inPlace : ∀ old, decode = decodeHeader old >>= decodeBody
  refused : ∀ (buf : ByteBuf) (old : F) (announced : UInt32) (frame rest : Bytes),
    Foreign factory key header lengthAt trailer announced frame → unread buf = frame ++ rest →
      ((decode (F := F)).run buf).value = .error (.runtimeError "No such message type") ∧
      ((decode (F := F)).run buf).state = advance buf header ∧
      ∃ m, ((decodeHeader old).run buf).value = .ok m ∧ length m = announced
  skipped : ∀ (buf : ByteBuf) (old m next : F) (announced : UInt32) (frame rest : Bytes),
    Foreign factory key header lengthAt trailer announced frame →
    unread buf = frame ++ (sent next ++ rest) → sendable next →
    ((decodeHeader old).run buf).value = .ok m →
      (decode.run (resumed F buf ((length m).toNat + trailer))).value = .ok (settled next) ∧
      unread ((decode (F := F)).run (resumed F buf ((length m).toNat + trailer))).state = rest

section
variable {decodeHeader decodeBody : F → Decoder F} {msgType : F → Key} {length : F → UInt32}
  {key : Bytes → Key} {header lengthAt trailer : Nat}

theorem refused_foreign
    (headed : Headed decode decodeHeader decodeBody factory msgType length key header lengthAt)
    (old : F) {buf : ByteBuf} {announced : UInt32} {frame rest : Bytes}
    (foreign : Foreign factory key header lengthAt trailer announced frame)
    (start : unread buf = frame ++ rest) :
    ((decode (F := F)).run buf).value = .error (.runtimeError "No such message type") ∧
      ((decode (F := F)).run buf).state = advance buf header ∧
      ∃ m, ((decodeHeader old).run buf).value = .ok m ∧ length m = announced := by
  have size := foreign.size
  have inside := headed.inside
  obtain ⟨f, takes, fields⟩ := headed.takes old
  have whole : header ≤ frame.length := by omega
  have window : (unread buf).take header = frame.take header := by
    rw [start, List.take_append_of_le_length whole]
  obtain ⟨value, state⟩ := takes.enough buf (by rw [start, List.length_append]; omega)
  rw [window] at value
  obtain ⟨keyed, sized⟩ := fields (frame.take header)
  have word : length (f (frame.take header)) = announced := by
    rw [sized, List.drop_take, List.take_take, Nat.min_eq_left (by omega), foreign.announced,
      Scalar.fromLe_leBytes]
  have unknown : factory.find (msgType (f (frame.take header))) = none := by
    rw [keyed, headed.keyed]
    exact foreign.unknown
  obtain ⟨failure, stop⟩ := headed.refuses _ (advance buf header) unknown
  rw [headed.inPlace old, Reader.run_bind, Reader.chain_ok value, state]
  exact ⟨failure, stop, _, value, word⟩

theorem skips (trailer : Nat)
    (headed : Headed decode decodeHeader decodeBody factory msgType length key header lengthAt) :
    Skips F factory key header lengthAt trailer decodeHeader decodeBody length where
  inPlace := headed.inPlace
  refused _ old _ _ _ foreign start := refused_foreign headed old foreign start
  skipped buf old m next announced frame rest foreign start valid value := by
    have size := foreign.size
    obtain ⟨_, stop, m', assigned, word⟩ := refused_foreign headed old foreign start
    rw [Except.ok.inj (assigned.symm.trans value)] at word
    have left : unread (advance buf header) = frame.drop header ++ (sent next ++ rest) := by
      rw [Cursor.unread_advance, start, List.drop_append_of_le_length (by omega)]
    have behind : (frame.drop header).length = announced.toNat + trailer := by
      rw [List.length_drop]
      omega
    have enough : announced.toNat + trailer ≤ (unread (advance buf header)).length := by
      rw [left, List.length_append]
      omega
    have taken : unread (resumed F buf (announced.toNat + trailer)) = sent next ++ rest := by
      rw [resumed, stop, ((takes_readBytes _).enough _ enough).2, Cursor.unread_advance, left,
        List.drop_left' behind]
    rw [word]
    obtain ⟨read, state⟩ := (reads next valid).accepts _ rest taken
    refine ⟨read, ?_⟩
    rw [state, Cursor.unread_advance, taken, List.drop_left]

end

end Transport

theorem takes_pure (a : α) : Takes (pure a : Decoder α) 0 fun _ => a where
  enough buf _ := ⟨rfl, (Cursor.advance_zero buf).symm⟩
  short _ missing := absurd missing (Nat.not_lt_zero _)

/-! ### The frames -/

theorem Rc.headed : Headed RcBinary.decode RcBinary.decodeHeader RcBinary.decodeBody
    rcBinaryMessageFactory RcBinary.msgType RcBinary.msgBodyLen key32 12 8 where
  inPlace old := by
    simp only [RcBinary.decode, RcBinary.decodeHeader, RcBinary.decodeBody, bind_assoc, pure_bind]
  takes old := by
    have parts := (takes_readLe UInt32).bind fun msgType =>
      (takes_readLe UInt32).bind fun version =>
      (takes_readLe UInt32).bind fun msgBodyLen =>
      takes_pure ({ old with msgType, version, msgBodyLen } : RcBinary)
    refine ⟨_, parts, fun window => ⟨rfl, ?_⟩⟩
    rw [List.drop_drop]
    rfl
  keyed bytes := by simp [key32, List.take_take]
  inside := by decide
  refuses m buf unknown := refuses_create unknown _ _ buf

theorem Sse.headed : Headed SseBinary.decode SseBinary.decodeHeader SseBinary.decodeBody
    sseBinaryMessageFactory SseBinary.msgType SseBinary.msgBodyLen key32 16 12 where
  inPlace old := by
    simp only [SseBinary.decode, SseBinary.decodeHeader, SseBinary.decodeBody, bind_assoc,
      pure_bind]
  takes old := by
    have parts := (takes_readLe UInt32).bind fun msgType =>
      (takes_readLe UInt64).bind fun msgSeqNum =>
      (takes_readLe UInt32).bind fun msgBodyLen =>
      takes_pure ({ old with msgType, msgSeqNum, msgBodyLen } : SseBinary)
    refine ⟨_, parts, fun window => ⟨rfl, ?_⟩⟩
    rw [List.drop_drop]
    rfl
  keyed bytes := by simp [key32, List.take_take]
  inside := by decide
  refuses m buf unknown := refuses_create unknown _ _ buf

theorem Szse.headed : Headed SzseBinary.decode SzseBinary.decodeHeader SzseBinary.decodeBody
    szseBinaryMessageFactory SzseBinary.msgType SzseBinary.bodyLength key32 8 4 where
  inPlace old := by
    simp only [SzseBinary.decode, SzseBinary.decodeHeader, SzseBinary.decodeBody, bind_assoc,
      pure_bind]
  takes old := by
    have parts := (takes_readLe UInt32).bind fun msgType =>
      (takes_readLe UInt32).bind fun bodyLength =>
      takes_pure ({ old with msgType, bodyLength } : SzseBinary)
    exact ⟨_, parts, fun window => ⟨rfl, rfl⟩⟩
  keyed bytes := by simp [key32, List.take_take]
  inside := by decide
  refuses m buf unknown := refuses_create unknown _ _ buf

theorem Bjse.headed : Headed (decode (M := BjseBinary)) BjseBinary.decodeHeader
    BjseBinary.decodeBody bjseBinaryMessageFactory BjseBinary.msgType BjseBinary.bodyLength
    key32 8 4 where
  inPlace old := by
    simp only [decode, BjseBinary.decodeHeader, BjseBinary.decodeBody, bind_assoc, pure_bind]
  takes old := by
    have parts := (takes_readLe UInt32).bind fun msgType =>
      (takes_readLe UInt32).bind fun bodyLength =>
      takes_pure ({ old with msgType, bodyLength } : BjseBinary)
    exact ⟨_, parts, fun window => ⟨rfl, rfl⟩⟩
  keyed bytes := by simp [key32, List.take_take]
  inside := by decide
  refuses m buf unknown := refuses_create unknown _ _ buf

theorem Root.headed : Headed RootPacket.decode RootPacket.decodeHeader RootPacket.decodeBody
    rootPacketMessageFactory RootPacket.msgType RootPacket.payloadLen key16 6 2 where
  inPlace old := by
    simp only [RootPacket.decode, RootPacket.decodeHeader, RootPacket.decodeBody, bind_assoc,
      pure_bind]
  takes old := by
    have parts := (takes_readLe UInt16).bind fun msgType =>
      (takes_readLe UInt32).bind fun payloadLen =>
      takes_pure ({ old with msgType, payloadLen } : RootPacket)
    exact ⟨_, parts, fun window => ⟨rfl, rfl⟩⟩
  keyed bytes := by simp [key16, List.take_take]
  inside := by decide
  refuses m buf unknown := refuses_create unknown _ _ buf

/-- Every protocol skips. -/
theorem frames_skipped :
    Transport.Skips Rc.RcBinary Rc.rcBinaryMessageFactory key32 12 8 0
      Rc.RcBinary.decodeHeader Rc.RcBinary.decodeBody Rc.RcBinary.msgBodyLen ∧
    Transport.Skips Sse.SseBinary Sse.sseBinaryMessageFactory key32 16 12 4
      Sse.SseBinary.decodeHeader Sse.SseBinary.decodeBody Sse.SseBinary.msgBodyLen ∧
    Transport.Skips Szse.SzseBinary Szse.szseBinaryMessageFactory key32 8 4 4
      Szse.SzseBinary.decodeHeader Szse.SzseBinary.decodeBody Szse.SzseBinary.bodyLength ∧
    Transport.Skips Bjse.BjseBinary Bjse.bjseBinaryMessageFactory key32 8 4 4
      Bjse.BjseBinary.decodeHeader Bjse.BjseBinary.decodeBody Bjse.BjseBinary.bodyLength ∧
    Transport.Skips Root.RootPacket Root.rootPacketMessageFactory key16 6 2 4
      Root.RootPacket.decodeHeader Root.RootPacket.decodeBody Root.RootPacket.payloadLen :=
  ⟨Transport.skips 0 Rc.headed, Transport.skips 4 Sse.headed, Transport.skips 4 Szse.headed,
    Transport.skips 4 Bjse.headed, Transport.skips 4 Root.headed⟩

end FinProto
