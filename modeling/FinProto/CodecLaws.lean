import FinProto.Codec
import FinProto.Wire.Padding

/-! Every reader of `namespace codec` returns the normal form of what the
matching writer was given, and reads nothing the writer does not produce. -/
namespace FinProto

open Wire

/-! ## Scalars -/

section
variable (T : Type) [Scalar T]

theorem inverts_read : Inverts (read T false) (fun value => (write value false).bytes) Anything :=
  inverts_readLe T

instance : Inverse readU8 (fun val => (writeU8 val).bytes) Anything := ⟨inverts_readU8⟩
instance : Inverse readI8 (fun val => (writeI8 val).bytes) Anything := ⟨inverts_readI8⟩
instance : Inverse readU16 (fun val => (writeU16 val).bytes) Anything := ⟨inverts_read UInt16⟩
instance : Inverse readU32 (fun val => (writeU32 val).bytes) Anything := ⟨inverts_read UInt32⟩
instance : Inverse readU64 (fun val => (writeU64 val).bytes) Anything := ⟨inverts_read UInt64⟩
instance : Inverse readI16 (fun val => (writeI16 val).bytes) Anything := ⟨inverts_read Int16⟩
instance : Inverse readI32 (fun val => (writeI32 val).bytes) Anything := ⟨inverts_read Int32⟩
instance : Inverse readI64 (fun val => (writeI64 val).bytes) Anything := ⟨inverts_read Int64⟩
instance : Inverse readU16Le (fun val => (writeU16Le val).bytes) Anything := ⟨inverts_readLe UInt16⟩
instance : Inverse readU32Le (fun val => (writeU32Le val).bytes) Anything := ⟨inverts_readLe UInt32⟩
instance : Inverse readU64Le (fun val => (writeU64Le val).bytes) Anything := ⟨inverts_readLe UInt64⟩
instance : Inverse readI16Le (fun val => (writeI16Le val).bytes) Anything := ⟨inverts_readLe Int16⟩
instance : Inverse readI32Le (fun val => (writeI32Le val).bytes) Anything := ⟨inverts_readLe Int32⟩
instance : Inverse readI64Le (fun val => (writeI64Le val).bytes) Anything := ⟨inverts_readLe Int64⟩
instance : Inverse readF32Le (fun val => (writeF32Le val).bytes) Anything := ⟨inverts_readLe F32⟩
instance : Inverse readF64Le (fun val => (writeF64Le val).bytes) Anything := ⟨inverts_read F64⟩

end

/-! ## Dynamic strings -/

/-- The size of a string or list, as its prefix can hold it. -/
def FitsPrefix (T : Type) [Scalar T] (size : Nat) : Prop := size < 2 ^ (8 * Scalar.size T)

instance (T : Type) [Scalar T] (size : Nat) : Decidable (FitsPrefix T size) :=
  inferInstanceAs (Decidable (_ < _))

theorem fitsPrefix_iff (T : Type) [Scalar T] (size : Nat) (prefixed : T) :
    size = Scalar.toSize prefixed ↔ Scalar.cast T size = prefixed ∧ FitsPrefix T size := by
  constructor
  · intro same
    subst same
    exact ⟨Scalar.cast_toSize prefixed, (Scalar.toBits prefixed).isLt⟩
  · intro fitted
    obtain ⟨same, fits⟩ := fitted
    subst same
    rw [Scalar.toSize_cast, Nat.mod_eq_of_lt fits]

/-- A size prefix followed by exactly that much payload. -/
theorem inverts_prefixed [Scalar T] {count : Decoder T} {writer : T → Encoder}
    (prefixed : Inverts count (fun n => (writer n).bytes) Anything) {payload : Nat → Decoder α}
    {w : α → List UInt8} {P : α → Prop} (size : α → Nat)
    (body : ∀ n, Inverts (payload n) w (fun a => size a = n ∧ P a)) :
    Inverts (do
      let n ← count
      sizeFrom (Scalar.toSize n)
      payload (Scalar.toSize n))
      (fun a => (writer (Scalar.cast T (size a))).bytes ++ w a)
      (fun a => FitsPrefix T (size a) ∧ P a) := by
  have whole := Inverts.bind (C := fun _ => True) (Q := fun a => FitsPrefix T (size a) ∧ P a)
    (fun a => Scalar.cast T (size a)) prefixed (k := fun n => do
      sizeFrom (Scalar.toSize n)
      payload (Scalar.toSize n)) (W := w) (by
    intro n
    refine .note ((body (Scalar.toSize n)).congr (fun _ => rfl) (fun a => ?_))
    rw [fitsPrefix_iff, true_and, and_assoc])
  exact whole.congr (fun _ => rfl) (fun a => by simp [Anything])

theorem inverts_readStringLe (T : Type) [Scalar T] :
    Inverts (readStringLe T) (fun s => (writeStringLe T s).bytes)
      (fun s => FitsPrefix T s.length) := by
  have whole := inverts_prefixed (inverts_readLe T) List.length (P := fun _ => True)
    (fun n => (inverts_readBytes n).congr (fun _ => rfl) (fun s => by simp))
  exact whole.congr (fun s => by simp [writeStringLe]) (fun s => by simp)

theorem inverts_readString (T : Type) [Scalar T] :
    Inverts (readString T) (fun s => (writeString T s).bytes) (fun s => FitsPrefix T s.length) :=
  inverts_readStringLe T

instance (T : Type) [Scalar T] :
    Inverse (readStringLe T) (fun s => (writeStringLe T s).bytes)
      (fun s => FitsPrefix T s.length) :=
  ⟨inverts_readStringLe T⟩

instance (T : Type) [Scalar T] :
    Inverse (readString T) (fun s => (writeString T s).bytes) (fun s => FitsPrefix T s.length) :=
  ⟨inverts_readString T⟩

/-! ## Fixed-width strings -/

theorem drop_findIdx (s : Bytes) (c : UInt8) :
    (match s.findIdx? (· != c) with | some start => s.drop start | none => []) =
      s.dropWhile (· == c) := by
  induction s with
  | nil => rfl
  | cons head tail ih =>
    by_cases same : head = c
    · subst head
      rw [List.findIdx?_cons]
      simp only [bne_self_eq_false, Bool.false_eq_true, ↓reduceIte, List.dropWhile_cons,
        beq_self_eq_true]
      rw [← ih]
      cases tail.findIdx? (· != c) <;> rfl
    · simp [List.findIdx?_cons, same]

/-- The two `find` branches erase exactly the pad characters of one end. -/
theorem trimPad_eq (s : Bytes) (pad : UInt8) (left : Bool) :
    trimPad s pad left = strip pad left s := by
  cases left with
  | true => exact drop_findIdx s pad
  | false =>
    have mirrored := congrArg List.reverse (drop_findIdx s.reverse pad)
    simp only [trimPad, strip, Bool.false_eq_true, ↓reduceIte, findLastNotOf] at mirrored ⊢
    rw [← mirrored]
    cases found : s.reverse.findIdx? (· != pad) with
    | none => simp
    | some i =>
      have bound : i < s.length := by
        have := (List.findIdx?_eq_some_iff_getElem.mp found).1
        simpa using this
      have index : s.length - 1 - i + 1 = s.length - i := by omega
      simp [List.reverse_drop, index]

theorem bytes_writeFixedStringPad (s : Bytes) (n : Nat) (pad : UInt8) (left : Bool) :
    (writeFixedStringPad s n pad left).bytes = padTo n pad left s := by
  unfold writeFixedStringPad padTo extend
  by_cases long : s.length ≥ n
  · simp [long]
  · have whole : s.take n = s := List.take_of_length_le (by omega)
    cases left <;> simp [long, whole]

theorem counted_writeFixedStringPad (s : Bytes) (n : Nat) (pad : UInt8) (left : Bool) :
    (writeFixedStringPad s n pad left).counted = 0 := by
  unfold writeFixedStringPad
  by_cases long : s.length ≥ n
  · simp [long]
  · cases left <;> simp [long]

theorem inverts_readFixedStringPad (n : Nat) (pad : UInt8) (left : Bool) :
    Inverts (readFixedStringPad n pad left) (fun s => (writeFixedStringPad s n pad left).bytes)
      (fun s => cut n pad left s = s) := by
  have exactly : ∀ c a, Reads (readFixedStringPad n pad left).run c a ↔
      c.length = n ∧ strip pad left c = a := by
    intro c a
    rw [readFixedStringPad, Reader.reads_bind]
    constructor
    · intro reads
      obtain ⟨c₁, c₂, w, split, head, tail⟩ := reads
      obtain ⟨rfl, width⟩ := (inverts_readBytes n c₁ w).mp head
      obtain ⟨rfl, same⟩ := Reader.reads_pure.mp tail
      rw [trimPad_eq] at same
      simp [split, width, same]
    · intro walked
      obtain ⟨width, same⟩ := walked
      refine ⟨c, [], c, by simp, (inverts_readBytes n c c).mpr ⟨rfl, width⟩, ?_⟩
      exact Reader.reads_pure.mpr ⟨rfl, by rw [trimPad_eq, same]⟩
  refine .ofWidth exactly ?_ ?_ ?_
  · intro s _
    rw [bytes_writeFixedStringPad, length_padTo]
  · intro s settled
    rw [bytes_writeFixedStringPad, strip_padTo, settled]
  · intro c width
    rw [bytes_writeFixedStringPad, padTo_strip width, cut_strip width]
    exact ⟨rfl, rfl⟩

theorem roundTrip_fixedStringPad (n : Nat) (pad : UInt8) (left : Bool) :
    RoundTrip (readFixedStringPad n pad left) (fun s => (writeFixedStringPad s n pad left).bytes)
      (cut n pad left) (fun _ => True) where
  spelled s := by simp [bytes_writeFixedStringPad]
  settled := cut_cut
  fits_norm _ := Iff.rfl
  inverts := (inverts_readFixedStringPad n pad left).congr (fun _ => rfl) (fun _ => by simp)

@[simp] theorem bytes_writeFixedStringPad_cut (s : Bytes) (n : Nat) (pad : UInt8) (left : Bool) :
    (writeFixedStringPad (cut n pad left s) n pad left).bytes =
      (writeFixedStringPad s n pad left).bytes :=
  (roundTrip_fixedStringPad n pad left).spelled s

/-- What a space-padded field of width `n` keeps of a string: its first `n`
bytes without trailing spaces. -/
def rtrim (n : Nat) (s : Bytes) : Bytes := cut n space false s

@[simp] theorem rtrim_rtrim (n : Nat) (s : Bytes) : rtrim n (rtrim n s) = rtrim n s := cut_cut s

@[simp] theorem bytes_writeFixedString_rtrim (s : Bytes) (n : Nat) :
    (writeFixedString (rtrim n s) n).bytes = (writeFixedString s n).bytes :=
  bytes_writeFixedStringPad_cut s n space false

instance (n : Nat) (pad : UInt8) (left : Bool) :
    Inverse (readFixedStringPad n pad left) (fun s => (writeFixedStringPad s n pad left).bytes)
      (fun s => cut n pad left s = s) :=
  ⟨inverts_readFixedStringPad n pad left⟩

instance (n : Nat) :
    Inverse (readFixedString n) (fun s => (writeFixedString s n).bytes) (fun s => rtrim n s = s) :=
  ⟨inverts_readFixedStringPad n space false⟩

/-! ## Counted lists -/

theorem bytes_seq_map (f : α → Encoder) (list : List α) :
    (Encoder.seq (list.map f)).bytes = list.flatMap (fun a => (f a).bytes) := by
  induction list with
  | nil => rfl
  | cons head tail ih => simp [ih]

theorem map_eq_self_iff {f : α → α} {list : List α} : list.map f = list ↔ ∀ a ∈ list, f a = a := by
  induction list with
  | nil => simp
  | cons head tail ih => simp [ih]

/-- A counted list round-trips when its elements do. -/
theorem roundTrip_counted [Scalar T] {count : Decoder T} {writer : T → Encoder}
    {element : Decoder α} {w : α → Encoder} {norm : α → α} {fits : α → Prop}
    (prefixed : Inverts count (fun n => (writer n).bytes) Anything)
    (trip : RoundTrip element (fun a => (w a).bytes) norm fits) :
    RoundTrip (readCounted count element)
      (fun list => (writeCounted (writer (Scalar.cast T list.length)) w list).bytes)
      (List.map norm) (fun list => FitsPrefix T list.length ∧ ∀ a ∈ list, fits a) where
  spelled list := by
    simp only [writeCounted, Encoder.andThen, bytes_seq_map, List.length_map, List.flatMap_map,
      trip.spelled]
  settled list := by simp [trip.settled]
  fits_norm list := by simp [trip.fits_norm]
  inverts := by
    have whole := inverts_prefixed prefixed List.length (fun n => trip.inverts.times n)
    refine whole.congr (fun list => ?_) (fun list => ?_)
    · simp only [writeCounted, Encoder.andThen, bytes_seq_map]
    · rw [map_eq_self_iff]
      constructor
      · intro trimmed
        obtain ⟨fits, valid⟩ := trimmed
        exact ⟨fun a member => (valid a member).1, fits, fun a member => (valid a member).2⟩
      · intro settling
        obtain ⟨settled, fits, valid⟩ := settling
        exact ⟨fits, fun a member => ⟨settled a member, valid a member⟩⟩

section
variable (T : Type) [Scalar T] (K : Type) [Scalar K]

theorem inverts_readBasicTypeLe :
    Inverts (readBasicTypeLe T K) (fun list => (writeBasicTypeLe T K list).bytes)
      (fun list => FitsPrefix T list.length) :=
  (roundTrip_counted (inverts_readLe T) (.exact (inverts_readLe K))).inverts.congr (fun _ => rfl)
    (fun list => by simp [Anything])

theorem inverts_readBasicType :
    Inverts (readBasicType T K) (fun list => (writeBasicType T K list).bytes)
      (fun list => FitsPrefix T list.length) :=
  inverts_readBasicTypeLe T K

theorem inverts_readStringListLe :
    Inverts (readStringListLe T K) (fun list => (writeStringListLe T K list).bytes)
      (fun list => FitsPrefix T list.length ∧ ∀ s ∈ list, FitsPrefix K s.length) :=
  (roundTrip_counted (inverts_readLe T) (.exact (inverts_readStringLe K))).inverts.congr
    (fun _ => rfl) (fun list => by simp)

instance : Inverse (readBasicTypeLe T K) (fun list => (writeBasicTypeLe T K list).bytes)
    (fun list => FitsPrefix T list.length) :=
  ⟨inverts_readBasicTypeLe T K⟩

instance : Inverse (readBasicType T K) (fun list => (writeBasicType T K list).bytes)
    (fun list => FitsPrefix T list.length) :=
  ⟨inverts_readBasicType T K⟩

instance : Inverse (readStringListLe T K) (fun list => (writeStringListLe T K list).bytes)
    (fun list => FitsPrefix T list.length ∧ ∀ s ∈ list, FitsPrefix K s.length) :=
  ⟨inverts_readStringListLe T K⟩

theorem roundTrip_fixedStringListLePad (n : Nat) (pad : UInt8) (left : Bool) :
    RoundTrip (readFixedStringListLePad T n pad left)
      (fun list => (writeFixedStringListLePad T list n pad left).bytes)
      (List.map (cut n pad left)) (fun list => FitsPrefix T list.length ∧ ∀ s ∈ list, True) :=
  roundTrip_counted (inverts_readLe T) (roundTrip_fixedStringPad n pad left)

theorem roundTrip_fixedStringList (n : Nat) :
    RoundTrip (readFixedStringList T n) (fun list => (writeFixedStringList T list n).bytes)
      (List.map (rtrim n)) (fun list => FitsPrefix T list.length ∧ ∀ s ∈ list, True) :=
  roundTrip_fixedStringListLePad T n space false

@[simp] theorem bytes_writeFixedStringListLePad_cut (list : List Bytes) (n : Nat) (pad : UInt8)
    (left : Bool) : (writeFixedStringListLePad T (list.map (cut n pad left)) n pad left).bytes =
      (writeFixedStringListLePad T list n pad left).bytes :=
  (roundTrip_fixedStringListLePad T n pad left).spelled list

@[simp] theorem bytes_writeFixedStringList_rtrim (list : List Bytes) (n : Nat) :
    (writeFixedStringList T (list.map (rtrim n)) n).bytes = (writeFixedStringList T list n).bytes :=
  (roundTrip_fixedStringList T n).spelled list

instance (n : Nat) (pad : UInt8) (left : Bool) :
    Inverse (readFixedStringListLePad T n pad left)
      (fun list => (writeFixedStringListLePad T list n pad left).bytes)
      (fun list =>
        list.map (cut n pad left) = list ∧ FitsPrefix T list.length ∧ ∀ s ∈ list, True) :=
  ⟨(roundTrip_fixedStringListLePad T n pad left).inverts⟩

instance (n : Nat) : Inverse (readFixedStringList T n)
    (fun list => (writeFixedStringList T list n).bytes)
    (fun list => list.map (rtrim n) = list ∧ FitsPrefix T list.length ∧ ∀ s ∈ list, True) :=
  ⟨(roundTrip_fixedStringList T n).inverts⟩

end

end FinProto
