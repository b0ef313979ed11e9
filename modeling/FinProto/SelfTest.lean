import FinProto.RootEquality
import FinProto.Transport

/-! The round trips the tests run: encode into a new buffer, decode from it, compare. They
succeed on exactly the values that encoding keeps, less those with a NaN. The sum in `int32_t` is
taken to wrap. -/
namespace FinProto

open Wire

/-! ## Message classes -/

/-- The test of a message class. -/
def original_eq_decoded [BinaryCodec M] (original : M) : Bool :=
  match ((decode (M := M)).run ((encode original).run .new)).value with
  | .ok decoded => equals original decoded
  | .error _ => false

section
variable {M : Type} [Message M]

/-- A message as it was written into a new buffer is read back exactly when it is canonical. -/
theorem decode_run_new {m : M} (settled : trimmed m = m) (fit : fits m) :
    ((decode (M := M)).run ((encode m).run .new)).value = .ok m := by
  have start : unread ((encode m).run .new) = (encode m).bytes ++ [] := by
    rw [Encoder.unread_run, List.append_nil]
    rfl
  exact ((inverts_decode M).run ⟨settled, fit⟩ start).1

variable [ComparesNumbers M]

/-- Equality with a canonical message makes a message canonical. -/
theorem canonical_of_equals {m d : M} (same : equals m d = true) (settled : trimmed d = d)
    (fit : fits d) : trimmed m = m ∧ fits m ∧ Numeric m := by
  obtain ⟨numeric, _, keys⟩ := (ComparesNumbers.compares m d).mp same
  refine ⟨?_, ?_, numeric⟩
  · rw [← ComparesNumbers.settled_iff, ComparesNumbers.unsigned_trimmed, keys,
      ← ComparesNumbers.unsigned_trimmed, settled]
  · rw [← ComparesNumbers.fits_unsigned, keys, ComparesNumbers.fits_unsigned]
    exact fit

theorem original_eq_decoded_iff (m : M) :
    original_eq_decoded m = true ↔ trimmed m = m ∧ fits m ∧ Numeric m := by
  constructor
  · intro test
    unfold original_eq_decoded at test
    split at test
    · rename_i d decoded
      obtain ⟨settled, fit⟩ := ((inverts_decode M).sound decoded).1
      exact canonical_of_equals test settled fit
    · cases test
  · intro canonical
    obtain ⟨settled, fit, numeric⟩ := canonical
    rw [original_eq_decoded, decode_run_new settled fit]
    exact (ComparesNumbers.compares.self_iff m).mpr numeric

end

/-! ### The remaining classes compare every field -/

instance : LawfulEquals Szse.PlatformPartition :=
  inferInstanceAs (LawfulEquals (Szse.bodyTypes .platformPartition).carrier)

instance : LawfulEquals Szse.PlatformInfo where
  equals_iff m o := by
    cases m
    cases o
    simp [equals]

instance : LawfulEquals Bjse.NoPartitions where
  equals_iff m o := by
    cases m
    cases o
    simp [equals]

instance (type : Bjse.UnlistedType) : LawfulEquals (Bjse.unlistedTypes type).carrier := by
  cases type
  all_goals
    apply LawfulEquals.of_class
    intro m o
    cases m
    cases o
    simp [equals, and_assoc]

instance : (c : MessageClass) → ComparesNumbers c.type.carrier
  | .rc type => inferInstanceAs (ComparesNumbers (Rc.bodyTypes type).carrier)
  | .sse type => inferInstanceAs (ComparesNumbers (Sse.bodyTypes type).carrier)
  | .subExecRptSync => inferInstanceAs (ComparesNumbers Sse.SubExecRptSync)
  | .subExecRptSyncRsp => inferInstanceAs (ComparesNumbers Sse.SubExecRptSyncRsp)
  | .szse type => inferInstanceAs (ComparesNumbers (Szse.bodyTypes type).carrier)
  | .szseExtend type => inferInstanceAs (ComparesNumbers (Szse.extendTypes type).carrier)
  | .szsePartitionReport => inferInstanceAs (ComparesNumbers Szse.PartitionReport)
  | .szsePlatformInfo => inferInstanceAs (ComparesNumbers Szse.PlatformInfo)
  | .bjse type => inferInstanceAs (ComparesNumbers (Bjse.bodyTypes type).carrier)
  | .bjseExtend type => inferInstanceAs (ComparesNumbers (Bjse.extendTypes type).carrier)
  | .bjseUnlisted type => inferInstanceAs (ComparesNumbers (Bjse.unlistedTypes type).carrier)
  | .quote1 => inferInstanceAs (ComparesNumbers Bjse.Quote1)
  | .reportPartitionSync => inferInstanceAs (ComparesNumbers Bjse.ReportPartitionSync)
  | .noPartitions => inferInstanceAs (ComparesNumbers Bjse.NoPartitions)
  | .root type => inferInstanceAs (ComparesNumbers (Root.bodyTypes type).carrier)
  | .subPacket => inferInstanceAs (ComparesNumbers Root.SubPacket)
  | .inerPacket => inferInstanceAs (ComparesNumbers Root.InerPacket)

/-- Only the basic packet has numbers that can be a NaN. -/
def MessageClass.numeric : (c : MessageClass) → c.type.carrier → Prop
  | .root .basicPacket => Root.BasicPacket.Numeric
  | _ => fun _ => True

theorem MessageClass.numeric_iff (c : MessageClass) (m : c.type.carrier) :
    c.numeric m ↔ Numeric m := by
  cases c with
  | root type => cases type <;> exact Iff.rfl
  | _ => exact Iff.rfl

/-! ## Frames -/

/-- The test of a frame: the words that `encode` computes are copied from the decoded frame
before the two are compared. -/
def TestSucceeds {F : Type} (encode : F → FrameEncoder) (decode : Decoder F)
    (equals : F → F → Bool) (copied : F → F → F) (original : F) : Prop :=
  ∃ buf decoded, encode original .new = .ok buf ∧ (decode.run buf).value = .ok decoded ∧
    equals (copied original decoded) decoded = true

/-- A sized frame with its `equals`, which sees the frame's own fields as they are. -/
class Tested (F : Type) extends Settles F where
  equals : F → F → Bool
  copied : F → F → F
  Numeric : F → Prop
  unsigned : F → F
  compares : Compares equals Numeric unsigned
  copied_eq : ∀ m d, copied m d = reworded m (length d) (checksum d)
  reworded_self : ∀ m, reworded m (length m) (checksum m) = m
  reworded_reworded : ∀ m word word' bytes bytes',
    reworded (reworded m word bytes) word' bytes' = reworded m word' bytes'
  canonical_unsigned : ∀ m, canonical (unsigned m) ↔ canonical m
  numeric_reworded : ∀ m word bytes, Numeric (reworded m word bytes) ↔ Numeric m

theorem Tested.testSucceeds_iff {F : Type} [Tested F] (m : F) :
    TestSucceeds SizedFrame.encode SizedFrame.decode (equals (F := F)) copied m ↔
      SizedFrame.canonical m ∧ Numeric m := by
  constructor
  · intro test
    obtain ⟨buf, d, _, decoded, same⟩ := test
    have valid := (SizedFrame.inverts_decode.sound decoded).1
    rw [copied_eq] at same
    obtain ⟨numeric, _, keys⟩ := (compares _ d).mp same
    refine ⟨?_, (numeric_reworded m _ _).mp numeric⟩
    rw [← Settles.canonical_reworded m (SizedFrame.length d) (SizedFrame.checksum d),
      ← canonical_unsigned, keys, canonical_unsigned]
    exact valid
  · intro both
    obtain ⟨valid, numeric⟩ := both
    obtain ⟨buf, encoded, start, data⟩ := SizedFrame.encode_new m
    have sendable := Settles.sendable_of_canonical valid
    have front : unread buf = Settles.sent m ++ [] := by
      rw [start, data, List.append_nil]
      rfl
    have decoded := ((Transport.reads m sendable).accepts buf [] front).1
    refine ⟨buf, Settles.settled m, encoded, decoded, ?_⟩
    have settled : Settles.settled m =
        Settles.reworded m (SizedFrame.sized m).lengthWord (Settles.computed m) := by
      rw [Settles.settled, Settles.stripped_of_canonical valid]
    have alike : copied m (Settles.settled m) = Settles.settled m := by
      rw [copied_eq]
      nth_rewrite 3 [← reworded_self (Settles.settled m)]
      rw [settled, reworded_reworded]
    rw [alike, compares.self_iff, settled]
    exact (numeric_reworded m _ _).mpr numeric

/-- A word that was written is the word that is read. -/
theorem fromLe_write [Scalar T] (value : T) : Scalar.fromLe T (writeLe value).bytes = value :=
  Scalar.fromLe_leBytes value

instance : Tested Rc.RcBinary where
  equals := Rc.RcBinary.equals
  copied original decoded := { original with msgBodyLen := decoded.msgBodyLen }
  Numeric _ := True
  unsigned m := m
  compares := Compares.ofLawful fun m o => by
    cases m
    cases o
    simp [Rc.RcBinary.equals, and_assoc]
  copied_eq _ _ := rfl
  reworded_self _ := rfl
  reworded_reworded _ _ _ _ _ := rfl
  canonical_unsigned _ := Iff.rfl
  numeric_reworded _ _ _ := Iff.rfl

instance : Tested Sse.SseBinary where
  equals := Sse.SseBinary.equals
  copied original decoded :=
    { original with msgBodyLen := decoded.msgBodyLen, checksum := decoded.checksum }
  Numeric _ := True
  unsigned m := m
  compares := Compares.ofLawful fun m o => by
    cases m
    cases o
    simp [Sse.SseBinary.equals, and_assoc]
  copied_eq m d := congrArg (fun checksum => { m with msgBodyLen := d.msgBodyLen, checksum })
    (fromLe_write d.checksum).symm
  reworded_self m := congrArg (fun checksum => { m with checksum }) (fromLe_write m.checksum)
  reworded_reworded _ _ _ _ _ := rfl
  canonical_unsigned _ := Iff.rfl
  numeric_reworded _ _ _ := Iff.rfl

instance : Tested Szse.SzseBinary where
  equals := Szse.SzseBinary.equals
  copied original decoded :=
    { original with bodyLength := decoded.bodyLength, checksum := decoded.checksum }
  Numeric _ := True
  unsigned m := m
  compares := Compares.ofLawful fun m o => by
    cases m
    cases o
    simp [Szse.SzseBinary.equals, and_assoc]
  copied_eq m d := congrArg (fun checksum => { m with bodyLength := d.bodyLength, checksum })
    (fromLe_write d.checksum).symm
  reworded_self m := congrArg (fun checksum => { m with checksum }) (fromLe_write m.checksum)
  reworded_reworded _ _ _ _ _ := rfl
  canonical_unsigned _ := Iff.rfl
  numeric_reworded _ _ _ := Iff.rfl

theorem Root.RootPacket.compares_equals :
    Compares Root.RootPacket.equals (fun m => m.payload.Numeric)
      fun m => { m with payload := m.payload.unsigned } := by
  intro m o
  cases m
  cases o
  simp only [Root.RootPacket.equals, Bool.and_eq_true, beq_iff_eq, Object.compares _ _,
    Root.RootPacket.mk.injEq]
  grind

instance : Tested Root.RootPacket where
  equals := Root.RootPacket.equals
  copied original decoded :=
    { original with payloadLen := decoded.payloadLen, checksum := decoded.checksum }
  Numeric m := m.payload.Numeric
  unsigned m := { m with payload := m.payload.unsigned }
  compares := Root.RootPacket.compares_equals
  copied_eq m d := congrArg (fun checksum => { m with payloadLen := d.payloadLen, checksum })
    (fromLe_write d.checksum).symm
  reworded_self m := congrArg (fun checksum => { m with checksum }) (fromLe_write m.checksum)
  reworded_reworded _ _ _ _ _ := rfl
  canonical_unsigned m := and_congr_right fun _ => m.payload.canonical_unsigned_iff
  numeric_reworded _ _ _ := Iff.rfl

instance : LawfulEquals Bjse.BjseBinary where
  equals_iff m o := by
    cases m
    cases o
    simp [equals, and_assoc]

/-- The tests of the frames and of every message class succeed on canonical values without a
NaN, and fail on all others. -/
theorem selfTests_iff :
    (∀ m : Rc.RcBinary,
      TestSucceeds Rc.RcBinary.encode Rc.RcBinary.decode Rc.RcBinary.equals
        (fun original decoded => { original with msgBodyLen := decoded.msgBodyLen }) m ↔
      m.canonical) ∧
    (∀ m : Sse.SseBinary,
      TestSucceeds Sse.SseBinary.encode Sse.SseBinary.decode Sse.SseBinary.equals
        (fun original decoded =>
          { original with msgBodyLen := decoded.msgBodyLen, checksum := decoded.checksum }) m ↔
      m.canonical) ∧
    (∀ m : Szse.SzseBinary,
      TestSucceeds Szse.SzseBinary.encode Szse.SzseBinary.decode Szse.SzseBinary.equals
        (fun original decoded =>
          { original with bodyLength := decoded.bodyLength, checksum := decoded.checksum }) m ↔
      m.canonical) ∧
    (∀ m : Bjse.BjseBinary, original_eq_decoded m = true ↔
      Bjse.bjseBinaryMessageFactory.find m.msgType = some m.body.type ∧ m.body.trimmed = m.body ∧
        m.body.fits) ∧
    (∀ m : Root.RootPacket,
      TestSucceeds Root.RootPacket.encode Root.RootPacket.decode Root.RootPacket.equals
        (fun original decoded =>
          { original with payloadLen := decoded.payloadLen, checksum := decoded.checksum }) m ↔
      m.canonical ∧ Root.numeric m.payload) ∧
    (∀ (c : MessageClass) (m : c.type.carrier), original_eq_decoded m = true ↔
      trimmed m = m ∧ fits m ∧ c.numeric m) := by
  refine ⟨?rc, ?sse, ?szse, ?bjse, ?root, ?message⟩
  case rc =>
    intro m
    exact (Tested.testSucceeds_iff m).trans (and_iff_left trivial)
  case sse =>
    intro m
    exact (Tested.testSucceeds_iff m).trans (and_iff_left trivial)
  case szse =>
    intro m
    exact (Tested.testSucceeds_iff m).trans (and_iff_left trivial)
  case bjse =>
    intro m
    rw [original_eq_decoded_iff]
    cases m
    simp only [trimmed, fits, Numeric, Bjse.BjseBinary.mk.injEq, true_and, and_true]
    grind
  case root =>
    intro m
    refine (Tested.testSucceeds_iff m).trans (and_congr_right fun _ => ?_)
    rw [Root.numeric_eq]
    exact Iff.rfl
  case message =>
    intro c m
    rw [original_eq_decoded_iff, c.numeric_iff]

end FinProto
