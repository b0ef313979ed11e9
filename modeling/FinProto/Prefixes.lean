import FinProto.Frame

/-! Length and count prefixes. A size that its prefix cannot hold is cast and written all
the same, and no reader recovers from it; every other value is read back, and the stream
goes on behind it. -/
namespace FinProto

open Wire

/-- A writer as a call: it never throws. -/
def Encoder.call (e : Encoder) : FrameEncoder := fun buf => .ok (e.run buf)

/-- Written behind all that was read of a buffer and followed by any `t`, the value is
returned by the reader, which leaves exactly `t`. -/
def ReadsBack (writer : FrameEncoder) (reader : Decoder α) (value : α) : Prop :=
  ∀ (buf : ByteBuf) (t : Bytes), buf.readableBytes = 0 →
    ∃ out, writer buf = .ok out ∧ (reader.run ((writeBytes t).run out)).value = .ok value ∧
      unread (reader.run ((writeBytes t).run out)).state = t

/-- What a prefixed writer owes its reader: a value that fits is read back, and one that
does not is refused. -/
structure KeepsSync (fits : Prop) (writer : FrameEncoder) (reader : Decoder α) (value : α) :
    Prop where
  written : fits → ReadsBack writer reader value
  refused : ¬ fits → ∀ buf, ∃ fault, writer buf = .error fault

/-- Both come down to whether the value fits. -/
def SyncIff (fits : Prop) (writer : Encoder) (reader : Decoder α) (value : α) : Prop :=
  (KeepsSync fits writer.call reader value ↔ fits) ∧ (ReadsBack writer.call reader value ↔ fits)

theorem readsBack_iff {reader : Decoder α} {writer : α → Encoder} {norm : α → α} {fits : α → Prop}
    (trip : RoundTrip reader (fun a => (writer a).bytes) norm fits) (a : α) :
    ReadsBack (writer a).call reader (norm a) ↔ fits a := by
  constructor
  · intro back
    obtain ⟨out, called, value, _⟩ := back .new [] rfl
    exact (trip.fits_norm a).mp (trip.inverts.sound value).1.2
  · intro fit buf t drained
    refine ⟨(writer a).run buf, rfl, ?_⟩
    have nothing : unread buf = [] := by
      rw [ByteBuf.readableBytes_eq] at drained
      exact List.length_eq_zero_iff.mp drained
    have split : unread ((writeBytes t).run ((writer a).run buf)) = (writer a).bytes ++ t := by
      rw [Encoder.unread_run, Encoder.unread_run, nothing, List.nil_append]
      rfl
    obtain ⟨value, state⟩ := (trip.reads fit).accepts _ t split
    refine ⟨value, ?_⟩
    rw [state, Cursor.unread_advance, split, List.drop_left]

theorem syncIff {reader : Decoder α} {writer : α → Encoder} {norm : α → α} {fits : α → Prop}
    (trip : RoundTrip reader (fun a => (writer a).bytes) norm fits) (a : α) :
    SyncIff (fits a) (writer a) reader (norm a) := by
  have back := readsBack_iff trip a
  refine ⟨⟨?_, ?_⟩, back⟩
  · intro sync
    apply Classical.byContradiction
    intro wraps
    obtain ⟨fault, refused⟩ := sync.refused wraps .new
    cases refused
  · intro fit
    exact ⟨back.mpr, fun wraps => absurd fit wraps⟩

/-- Each of the prefixed codecs keeps the stream in step exactly for the values whose sizes,
outer and inner, fit their prefixes. -/
theorem prefixes_sync_iff (T K E M : Type) [Scalar T] [Scalar K] [Scalar E] [Message M]
    (s : Bytes) (strings : List Bytes) (values : List E) (objects : List M)
    (fixedLen : Nat) (padChar : UInt8) (padLeft : Bool) :
    SyncIff (FitsPrefix T s.length) (writeString T s) (readString T) s ∧
    SyncIff (FitsPrefix T s.length) (writeStringLe T s) (readStringLe T) s ∧
    SyncIff (FitsPrefix T strings.length ∧ ∀ s ∈ strings, FitsPrefix K s.length)
      (writeStringList T K strings) (readStringList T K) strings ∧
    SyncIff (FitsPrefix T strings.length ∧ ∀ s ∈ strings, FitsPrefix K s.length)
      (writeStringListLe T K strings) (readStringListLe T K) strings ∧
    SyncIff (FitsPrefix T strings.length)
      (writeFixedStringListPad T strings fixedLen padChar padLeft)
      (readFixedStringListPad T fixedLen padChar padLeft)
      (strings.map (cut fixedLen padChar padLeft)) ∧
    SyncIff (FitsPrefix T strings.length)
      (writeFixedStringListLePad T strings fixedLen padChar padLeft)
      (readFixedStringListLePad T fixedLen padChar padLeft)
      (strings.map (cut fixedLen padChar padLeft)) ∧
    SyncIff (FitsPrefix T values.length) (writeBasicType T E values) (readBasicType T E) values ∧
    SyncIff (FitsPrefix T values.length) (writeBasicTypeLe T E values)
      (readBasicTypeLe T E) values ∧
    SyncIff (FitsPrefix T objects.length ∧ ∀ m ∈ objects, fits m)
      (writeObjectList T objects) (readObjectList T M) (objects.map trimmed) ∧
    SyncIff (FitsPrefix T objects.length ∧ ∀ m ∈ objects, fits m)
      (writeObjectListLe T objects) (readObjectListLe T M) (objects.map trimmed) := by
  have string : RoundTrip (readStringLe T) (fun s => (writeStringLe T s).bytes) id
      (fun s => FitsPrefix T s.length) := .exact (inverts_readStringLe T)
  have stringList : RoundTrip (readStringListLe T K)
      (fun list => (writeStringListLe T K list).bytes)
      id (fun list => FitsPrefix T list.length ∧ ∀ s ∈ list, FitsPrefix K s.length) :=
    .exact (inverts_readStringListLe T K)
  have fixedList := roundTrip_fixedStringListLePad T fixedLen padChar padLeft
  have basic : RoundTrip (readBasicTypeLe T E) (fun list => (writeBasicTypeLe T E list).bytes) id
      (fun list => FitsPrefix T list.length) := .exact (inverts_readBasicTypeLe T E)
  have fixed : SyncIff (FitsPrefix T strings.length)
      (writeFixedStringListLePad T strings fixedLen padChar padLeft)
      (readFixedStringListLePad T fixedLen padChar padLeft)
      (strings.map (cut fixedLen padChar padLeft)) := by
    simpa using syncIff fixedList strings
  -- The default byte order is little-endian, so the two of each pair are one codec.
  exact ⟨syncIff string s, syncIff string s, syncIff stringList strings,
    syncIff stringList strings, fixed, fixed, syncIff basic values, syncIff basic values,
    syncIff (roundTrip_objectListLe T M) objects, syncIff (roundTrip_objectListLe T M) objects⟩

/-- 256 bytes behind a one-byte length: the length is written as zero. -/
theorem writeString_wraps :
    let s : Bytes := List.replicate 256 7
    (writeString UInt8 s).bytes = 0 :: s ∧
      ¬ KeepsSync (FitsPrefix UInt8 s.length) (writeString UInt8 s).call (readString UInt8) s ∧
      ¬ ReadsBack (writeString UInt8 s).call (readString UInt8) s := by
  intro s
  have size : s.length = 256 := List.length_replicate
  have word : Scalar.leBytes (Scalar.cast UInt8 256) = [0] := by decide
  have wide : ¬ FitsPrefix UInt8 s.length := by
    rw [size]
    decide
  have sync := syncIff (.exact (inverts_readString UInt8)) s
  refine ⟨?_, fun kept => wide (sync.1.mp kept), fun back => wide (sync.2.mp back)⟩
  simp [writeString, size, word]

end FinProto
