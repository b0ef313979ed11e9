import FinProto.Interface

/-! Positional writes: a patch inside the buffer changes its own bytes only, and one that
does not fit is refused, unless its end wraps around to a position that exists. -/
namespace FinProto

open Wire

theorem ByteBuf.patch_error {buf : ByteBuf} {bytes : List UInt8} {pos : Nat} {fault : Fault}
    (stopped : store buf.buffer pos bytes = .error fault) : buf.patch pos bytes = .error fault := by
  rw [patch]
  split
  · rename_i found
    cases found.symm.trans stopped
  · rename_i fault' found
    rw [Except.error.inj (found.symm.trans stopped)]

/-! ## The buffer a call leaves -/

/-- How a positional write ends, and the buffer it leaves, also where it throws. -/
structure Effect where
  value : Except Fault Unit
  state : ByteBuf

/-- What an `Except` says of an effect. -/
def Effect.outcome (effect : Effect) : Except Fault ByteBuf :=
  effect.value.map fun _ => effect.state

/-- The assignments `buffer_[pos + i] = bytes[i]`, each to the buffer the last one left. -/
def ByteBuf.assign (pos : Nat) : List UInt8 → ByteBuf → Effect
  | [], buf => ⟨.ok (), buf⟩
  | byte :: bytes, buf =>
    if inside : pos + 1 ≤ buf.buffer.length then
      assign (pos + 1) bytes (buf.overwrite pos [byte] inside)
    else ⟨.error (.badSubscript pos), buf⟩

/-- `write_at(pos, value, big_endian)` with the buffer it leaves. The test stands before the
first assignment. -/
def writeAtEffect [Scalar T] (pos : Nat) (value : T) (bigEndian : Bool) (buf : ByteBuf) : Effect :=
  if (pos + Scalar.size T) % 2 ^ 64 > buf.buffer.length then
    if bigEndian then ⟨.error (.outOfRange "Position out of bounds for write_be_at"), buf⟩
    else ⟨.error (.outOfRange "Position out of bounds for write_le_at"), buf⟩
  else if bigEndian then buf.assign pos (Scalar.beBytes value)
  else buf.assign pos (Scalar.leBytes value)

theorem ByteBuf.overwrite_one {buf : ByteBuf} {pos : Nat} {byte : UInt8}
    (inside : pos + 1 ≤ buf.buffer.length) :
    (buf.overwrite pos [byte] inside).buffer = buf.buffer.set pos byte := by
  have bound : pos < buf.buffer.length := inside
  change splice buf.buffer pos [byte] = _
  rw [← splice_set bound]
  simp [splice]

/-- The first of several assignments. -/
theorem ByteBuf.patch_cons {buf : ByteBuf} {pos : Nat} {byte : UInt8} (bytes : List UInt8)
    (inside : pos + 1 ≤ buf.buffer.length) :
    buf.patch pos (byte :: bytes) = (buf.overwrite pos [byte] inside).patch (pos + 1) bytes := by
  have bound : pos < buf.buffer.length := inside
  have stored : store buf.buffer pos (byte :: bytes) =
      store (buf.overwrite pos [byte] inside).buffer (pos + 1) bytes := by
    rw [store, if_pos bound, overwrite_one]
  unfold patch
  split
  · rename_i out found
    split
    · rename_i out' found'
      cases Except.ok.inj (found.symm.trans (stored.trans found'))
      rfl
    · rename_i fault found'
      cases found.symm.trans (stored.trans found')
  · rename_i fault found
    split
    · rename_i out found'
      cases found.symm.trans (stored.trans found')
    · rename_i fault' found'
      rw [Except.error.inj (found.symm.trans (stored.trans found'))]

/-- The assignments one by one end as all of them at once. -/
theorem ByteBuf.outcome_assign (bytes : List UInt8) (pos : Nat) (buf : ByteBuf) :
    (buf.assign pos bytes).outcome = buf.patch pos bytes := by
  induction bytes generalizing pos buf with
  | nil => rfl
  | cons byte bytes ih =>
    rw [assign]
    split
    · rename_i inside
      rw [patch_cons bytes inside]
      exact ih _ _
    · rename_i outside
      have past : buf.buffer.length < pos + 1 := Nat.lt_of_not_le outside
      have stopped : store buf.buffer pos (byte :: bytes) = .error (.badSubscript pos) := by
        rw [store, if_neg (by omega)]
      rw [patch_error stopped]
      rfl

/-- A refused write has assigned nothing. -/
theorem writeAtEffect_refused [Scalar T] {pos : Nat} {value : T} {buf : ByteBuf}
    (bigEndian : Bool) (stops : (pos + Scalar.size T) % 2 ^ 64 > buf.buffer.length) :
    ∃ what, writeAtEffect pos value bigEndian buf = ⟨.error (.outOfRange what), buf⟩ := by
  rw [writeAtEffect, if_pos stops]
  cases bigEndian with
  | false => exact ⟨_, rfl⟩
  | true => exact ⟨_, rfl⟩

theorem writeAtEffect_outcome [Scalar T] (pos : Nat) (value : T) (bigEndian : Bool)
    (buf : ByteBuf) :
    (writeAtEffect pos value bigEndian buf).outcome = writeAt pos value bigEndian buf := by
  cases bigEndian with
  | false =>
    simp only [writeAtEffect, writeAt, writeLeAt, Bool.false_eq_true, if_false]
    split
    · rfl
    · exact ByteBuf.outcome_assign _ _ _
  | true =>
    simp only [writeAtEffect, writeAt, writeBeAt, if_true]
    split
    · rfl
    · exact ByteBuf.outcome_assign _ _ _

/-! ## Patches -/

/-- An assignment past the end of the buffer is reached when not all bytes fit. -/
theorem ByteBuf.store_outside {buffer bytes : List UInt8} {pos : Nat}
    (outside : buffer.length < pos + bytes.length) (some : 0 < bytes.length) :
    ∃ index, store buffer pos bytes = .error (.badSubscript index) := by
  induction bytes generalizing buffer pos with
  | nil => cases some
  | cons byte bytes ih =>
    rw [List.length_cons] at outside
    rw [store]
    split
    · rename_i here
      apply ih
      · rw [List.length_set]
        omega
      · omega
    · exact ⟨pos, rfl⟩

theorem ByteBuf.patch_outside {buf : ByteBuf} {bytes : List UInt8} {pos : Nat}
    (outside : buf.buffer.length < pos + bytes.length) (some : 0 < bytes.length) :
    ∃ index, buf.patch pos bytes = .error (.badSubscript index) := by
  obtain ⟨index, stopped⟩ := store_outside outside some
  exact ⟨index, patch_error stopped⟩

theorem Primitive.size_pos (t : Primitive) : 0 < Scalar.size t.carrier := by
  cases t <;> decide

theorem Primitive.size_le (t : Primitive) : Scalar.size t.carrier ≤ 8 := by
  cases t <;> decide

/-- `bytes` stand at `pos`, and nothing else of the buffer changed. -/
structure Replaced (buf : ByteBuf) (pos : Nat) (bytes : Bytes) (out : ByteBuf) : Prop where
  data : ∀ i, out.data[i]? =
    if pos ≤ i ∧ i < pos + bytes.length then bytes[i - pos]? else buf.data[i]?
  size : out.data.length = buf.data.length
  reader : out.readerIndex = buf.readerIndex

theorem replaced_overwrite {buf : ByteBuf} {bytes : Bytes}
    (inside : pos + bytes.length ≤ buf.buffer.length) :
    Replaced buf pos bytes (buf.overwrite pos bytes inside) where
  data := ByteBuf.getElem?_splice inside
  size := ByteBuf.length_splice inside
  reader := rfl

/-- `write_*_at(pos, val)` puts what `write_*(val)` would append in the place of as many
bytes at `pos`, and throws exactly when these do not exist, with the buffer as it was. -/
structure WritesInPlace (method : Method) (t : Primitive) (pos : UInt64) (val : t.carrier)
    (buf : ByteBuf) : Prop where
  throws : buf.data.length < pos.toNat + (writeBy method t val).bytes.length →
    ∃ what, writeAtBy method t pos.toNat val buf = .error (.outOfRange what) ∧
      writeAtEffect pos.toNat val method.bigEndian buf = ⟨.error (.outOfRange what), buf⟩
  replaces : pos.toNat + (writeBy method t val).bytes.length ≤ buf.data.length →
    ∃ out, writeAtBy method t pos.toNat val buf = .ok out ∧
      Replaced buf pos.toNat (writeBy method t val).bytes out

/-- A window whose end wraps around to a position that exists passes the test, and is
assigned outside the buffer. -/
theorem writeAtBy_stray {method : Method} {t : Primitive} {pos : UInt64} {val : t.carrier}
    {buf : ByteBuf} (bounded : buf.data.length < 2 ^ 64)
    (wraps : 2 ^ 64 ≤ pos.toNat + Scalar.size t.carrier)
    (lands : pos.toNat + Scalar.size t.carrier - 2 ^ 64 ≤ buf.data.length) :
    ∃ index, writeAtBy method t pos.toNat val buf = .error (.badSubscript index) := by
  have range : pos.toNat < 2 ^ 64 := pos.toNat_lt
  have narrow := t.size_le
  have width : (write val method.bigEndian).bytes.length = Scalar.size t.carrier :=
    length_write val method.bigEndian
  have passes : ¬ (pos.toNat + Scalar.size t.carrier) % 2 ^ 64 > buf.buffer.length := by
    rw [ByteBuf.data] at lands
    omega
  have outside : buf.buffer.length < pos.toNat + (write val method.bigEndian).bytes.length := by
    rw [width]
    rw [ByteBuf.data] at bounded
    omega
  obtain ⟨what, tested⟩ := writeAt_eq pos.toNat val method.bigEndian buf
  obtain ⟨index, stray⟩ := ByteBuf.patch_outside outside (width ▸ t.size_pos)
  exact ⟨index, by rw [writeAtBy_eq, tested, if_neg passes, stray]⟩

/-- A positional write does what it should exactly when the end of its window does not wrap
around in `size_t`, or wraps around to a position that is still past the end. -/
theorem writesInPlace_iff (method : Method) (t : Primitive) (pos : UInt64) (val : t.carrier)
    (buf : ByteBuf) (bounded : buf.data.length < 2 ^ 64) :
    WritesInPlace method t pos val buf ↔
      pos.toNat + Scalar.size t.carrier < 2 ^ 64 ∨
        buf.data.length < pos.toNat + Scalar.size t.carrier - 2 ^ 64 := by
  have narrow := t.size_le
  have range : pos.toNat < 2 ^ 64 := pos.toNat_lt
  have width : (writeBy method t val).bytes.length = Scalar.size t.carrier := by
    rw [bytes_writeBy]
    exact length_write val method.bigEndian
  constructor
  · intro right
    apply Classical.byContradiction
    intro wraps
    have around : 2 ^ 64 ≤ pos.toNat + Scalar.size t.carrier := by omega
    have lands : pos.toNat + Scalar.size t.carrier - 2 ^ 64 ≤ buf.data.length := by omega
    obtain ⟨index, stray⟩ : ∃ index, writeAtBy method t pos.toNat val buf =
      .error (.badSubscript index) := writeAtBy_stray bounded around lands
    obtain ⟨what, thrown, _⟩ := right.throws (by omega)
    cases thrown.symm.trans stray
  · intro straight
    obtain ⟨_, tested⟩ := writeAt_eq pos.toNat val method.bigEndian buf
    rw [← writeAtBy_eq, ← bytes_writeBy] at tested
    rw [ByteBuf.data] at bounded straight
    refine ⟨?_, ?_⟩
    · intro missing
      have stops : (pos.toNat + Scalar.size t.carrier) % 2 ^ 64 > buf.buffer.length := by
        rw [width, ByteBuf.data] at missing
        omega
      obtain ⟨what, refused⟩ := writeAtEffect_refused method.bigEndian stops
      refine ⟨what, ?_, refused⟩
      rw [writeAtBy_eq, ← writeAtEffect_outcome, refused]
      rfl
    · intro inside
      have passes : ¬ (pos.toNat + Scalar.size t.carrier) % 2 ^ 64 > buf.buffer.length := by
        have wrapped := Nat.mod_le (pos.toNat + Scalar.size t.carrier) (2 ^ 64)
        rw [width, ByteBuf.data] at inside
        omega
      refine ⟨_, ?_, replaced_overwrite inside⟩
      rw [tested, if_neg passes, ByteBuf.patch_eq inside]

/-- A two-byte value behind the first byte of four, and one that would stick out. -/
theorem writesInPlace_straight :
    let buf := (writeBytes [1, 2, 3, 4]).run .new
    WritesInPlace .namedLe .i16 1 (-2 : Int16) buf ∧
      WritesInPlace .named .u64 1 (0 : UInt64) buf := by
  intro buf
  exact ⟨(writesInPlace_iff .namedLe .i16 1 (-2 : Int16) buf (by decide)).mpr (.inl (by decide)),
    (writesInPlace_iff .named .u64 1 (0 : UInt64) buf (by decide)).mpr (.inl (by decide))⟩

/-- In a buffer of one byte, a two-byte value for the last position there is passes the
test and is assigned outside. -/
theorem writeU16At_wraps :
    let buf := (writeBytes [0]).run .new
    let pos : UInt64 := 0xFFFFFFFFFFFFFFFF
    writeU16At pos.toNat 7 buf = .error (.badSubscript 0xFFFFFFFFFFFFFFFF) ∧
      ¬ WritesInPlace .named .u16 pos (7 : UInt16) buf := by
  intro buf pos
  have position : pos.toNat = 0xFFFFFFFFFFFFFFFF := by decide
  have stray : writeU16At pos.toNat 7 buf = .error (.badSubscript 0xFFFFFFFFFFFFFFFF) := by
    rw [position, writeU16At, writeAt, if_neg (by decide), writeLeAt, if_neg (by decide)]
    rfl
  refine ⟨stray, ?_⟩
  intro right
  obtain ⟨what, thrown, _⟩ := right.throws (by decide)
  cases stray.symm.trans thrown

end FinProto
