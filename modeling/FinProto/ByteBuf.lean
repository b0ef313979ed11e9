import FinProto.Scalar
import FinProto.Wire.Inverse

/-! The byte buffer: bytes, a read position, and the write position that only
`write_le` and `write_be` maintain. Writers are kept as `Encoder`s, which carry
what they append; readers are self-delimiting `Decoder`s. -/
namespace FinProto

/-- How an operation ends when it does not return: the exceptions the code
throws, and a subscript outside `buffer_`, which is undefined behaviour. -/
inductive Fault where
  | outOfRange (what : String)
  | runtimeError (what : String)
  | badSubscript (index : Nat)
  deriving DecidableEq

/-- What a reader does besides returning a value: a subscript `buffer_[index]`
taken as the start of `span` bytes, and a container sized from a prefix while
`readable` bytes are unread. -/
inductive Access where
  | subscript (index span : Nat)
  | sized (count readable : Nat)
  deriving DecidableEq

/-- `class ByteBuf`. `writerIndex` is the member the writers advance, which is
not always the end of the buffer. -/
structure ByteBuf where
  buffer : List UInt8
  readerIndex : Nat
  writerIndex : Nat
  reader_le : readerIndex ≤ buffer.length
  writer_le : writerIndex ≤ buffer.length
  deriving DecidableEq

namespace ByteBuf

/-- The constructor; `capacity` only reserves storage. -/
def new : ByteBuf := ⟨[], 0, 0, Nat.le_refl 0, Nat.le_refl 0⟩

def reset (_ : ByteBuf) : ByteBuf where
  buffer := []
  readerIndex := 0
  writerIndex := 0
  reader_le := Nat.le_refl 0
  writer_le := Nat.le_refl 0

def data (buf : ByteBuf) : List UInt8 := buf.buffer

def readableBytes (buf : ByteBuf) : Nat := buf.buffer.length - buf.readerIndex

@[ext] theorem ext {a b : ByteBuf} (buffer : a.buffer = b.buffer)
    (reader : a.readerIndex = b.readerIndex) (writer : a.writerIndex = b.writerIndex) : a = b := by
  cases a
  cases b
  simp_all

/-- Insert bytes at the end and advance `writer_index_` by `counted`. -/
def append (buf : ByteBuf) (bytes : List UInt8) (counted : Nat) (bound : counted ≤ bytes.length) :
    ByteBuf where
  buffer := buf.buffer ++ bytes
  readerIndex := buf.readerIndex
  writerIndex := buf.writerIndex + counted
  reader_le := by
    have old := buf.reader_le
    rw [List.length_append]
    omega
  writer_le := by
    have old := buf.writer_le
    rw [List.length_append]
    omega

theorem append_append (buf : ByteBuf) {a b : List UInt8} {i j : Nat} (first : i ≤ a.length)
    (second : j ≤ b.length) (both : i + j ≤ (a ++ b).length) :
    (buf.append a i first).append b j second = buf.append (a ++ b) (i + j) both :=
  ext (List.append_assoc _ _ _) rfl (Nat.add_assoc _ _ _)

/-- Move the read position over `n` bytes, stopping at the end. -/
def advance (buf : ByteBuf) (n : Nat) : ByteBuf :=
  { buf with
    readerIndex := min (buf.readerIndex + n) buf.buffer.length
    reader_le := Nat.min_le_right _ _ }

/-- A new buffer into which `bytes` were put with `write_bytes`. -/
def holding (bytes : List UInt8) : ByteBuf := new.append bytes 0 (Nat.zero_le _)

instance : Wire.Cursor ByteBuf UInt8 where
  unread buf := buf.buffer.drop buf.readerIndex
  advance := advance
  load := holding
  unread_advance buf n := by
    simp only [advance, List.drop_drop]
    rcases Nat.le_total (buf.readerIndex + n) buf.buffer.length with inside | past
    · rw [Nat.min_eq_left inside]
    · rw [Nat.min_eq_right past, List.drop_length, List.drop_of_length_le past]
  advance_zero buf := ext rfl (Nat.min_eq_left buf.reader_le) rfl
  advance_advance buf m n := by
    refine ext rfl ?_ rfl
    simp only [advance]
    omega
  unread_load bytes := by simp [holding, append, new]

theorem unread_holding (bytes : List UInt8) : Wire.unread (holding bytes) = bytes :=
  Wire.Cursor.unread_load bytes

theorem readerIndex_advance_holding {bytes : List UInt8} (inside : n ≤ bytes.length) :
    (Wire.advance (holding bytes) n).readerIndex = n := by
  simp only [Wire.advance, advance, holding, append, new, Nat.zero_add, List.nil_append]
  exact Nat.min_eq_left inside

theorem readableBytes_eq (buf : ByteBuf) : buf.readableBytes = (Wire.unread buf).length :=
  List.length_drop.symm

instance : Wire.Truncation Fault := ⟨.outOfRange "Not enough data to read"⟩

/-- The span a subscript opens lies inside the buffer. -/
instance : Wire.Audit ByteBuf UInt8 Access where
  Sound buf
    | .subscript index span => index + span ≤ buf.buffer.length
    | .sized _ _ => True
  sound_advance _ _ _ := Iff.rfl

/-- What `check_read(n)` followed by a walk over the next `n` bytes does. -/
def walk (buf : ByteBuf) (n : Nat) (f : List UInt8 → α) (log : List Access) :
    Wire.Outcome ByteBuf Fault Access α :=
  if buf.readableBytes < n then ⟨.error (.outOfRange "Not enough data to read"), buf, []⟩
  else ⟨.ok (f ((buf.buffer.drop buf.readerIndex).take n)), buf.advance n, log⟩

end ByteBuf

/-- A function that writes into a buffer: it appends `bytes`, of which it lets
`counted` advance `writer_index_`, whatever the buffer holds. -/
structure Encoder where
  run : ByteBuf → ByteBuf
  bytes : List UInt8
  counted : Nat
  counted_le : counted ≤ bytes.length
  run_eq : ∀ buf, run buf = buf.append bytes counted counted_le

abbrev Decoder := Wire.Reader ByteBuf UInt8 Fault Access

namespace Encoder

def emit (bytes : List UInt8) (counted : Nat) (bound : counted ≤ bytes.length) : Encoder :=
  ⟨fun buf => buf.append bytes counted bound, bytes, counted, bound, fun _ => rfl⟩

def skip : Encoder := emit [] 0 (Nat.le_refl 0)

/-- One statement after another. -/
def andThen (first second : Encoder) : Encoder where
  run buf := second.run (first.run buf)
  bytes := first.bytes ++ second.bytes
  counted := first.counted + second.counted
  counted_le := by
    have := first.counted_le
    have := second.counted_le
    rw [List.length_append]
    omega
  run_eq buf := by rw [first.run_eq, second.run_eq, ByteBuf.append_append]

def seq : List Encoder → Encoder
  | [] => skip
  | first :: rest => first.andThen (seq rest)

@[simp] theorem buffer_run (e : Encoder) (buf : ByteBuf) :
    (e.run buf).buffer = buf.buffer ++ e.bytes := by
  rw [e.run_eq]
  rfl

@[simp] theorem readerIndex_run (e : Encoder) (buf : ByteBuf) :
    (e.run buf).readerIndex = buf.readerIndex := by
  rw [e.run_eq]
  rfl

@[simp] theorem writerIndex_run (e : Encoder) (buf : ByteBuf) :
    (e.run buf).writerIndex = buf.writerIndex + e.counted := by
  rw [e.run_eq]
  rfl

@[simp] theorem run_skip (buf : ByteBuf) : skip.run buf = buf :=
  ByteBuf.ext (List.append_nil _) rfl rfl

@[simp] theorem run_seq_nil (buf : ByteBuf) : (seq []).run buf = buf := run_skip buf

@[simp] theorem run_seq_cons (first : Encoder) (rest : List Encoder) (buf : ByteBuf) :
    (seq (first :: rest)).run buf = (seq rest).run (first.run buf) := rfl

/-- What is written stands behind what is still to be read. -/
theorem unread_run (e : Encoder) (buf : ByteBuf) :
    Wire.unread (e.run buf) = Wire.unread buf ++ e.bytes := by
  change List.drop _ _ = List.drop _ _ ++ _
  rw [e.readerIndex_run, e.buffer_run, List.drop_append_of_le_length buf.reader_le]

/-- The bytes a writer appends behind `writer_index_`'s back. -/
def uncounted (e : Encoder) : Nat := e.bytes.length - e.counted

@[simp] theorem bytes_skip : skip.bytes = [] := rfl
@[simp] theorem counted_skip : skip.counted = 0 := rfl
@[simp] theorem bytes_seq_nil : (seq []).bytes = [] := rfl
@[simp] theorem counted_seq_nil : (seq []).counted = 0 := rfl

@[simp] theorem bytes_seq_cons (first : Encoder) (rest : List Encoder) :
    (seq (first :: rest)).bytes = first.bytes ++ (seq rest).bytes := rfl

@[simp] theorem counted_seq_cons (first : Encoder) (rest : List Encoder) :
    (seq (first :: rest)).counted = first.counted + (seq rest).counted := rfl

theorem uncounted_andThen (first second : Encoder) :
    (first.andThen second).uncounted = first.uncounted + second.uncounted := by
  have head := first.counted_le
  have tail := second.counted_le
  simp only [uncounted, andThen, List.length_append]
  omega

@[simp] theorem uncounted_seq_nil : (seq []).uncounted = 0 := rfl

@[simp] theorem uncounted_seq_cons (first : Encoder) (rest : List Encoder) :
    (seq (first :: rest)).uncounted = first.uncounted + (seq rest).uncounted :=
  uncounted_andThen first (seq rest)

end Encoder

/-! The write primitives. `push_back` and `write_bytes` leave `writer_index_`
where it is; `write_le` and `write_be` advance it. -/

def writeBytes (bytes : List UInt8) : Encoder := .emit bytes 0 (Nat.zero_le _)

def writeU8 (val : UInt8) : Encoder := .emit [val] 0 (Nat.zero_le _)

def writeI8 (val : Int8) : Encoder := .emit [val.toUInt8] 0 (Nat.zero_le _)

def writeU8Le (val : UInt8) : Encoder := .emit [val] 0 (Nat.zero_le _)

def writeI8Le (val : Int8) : Encoder := .emit [val.toUInt8] 0 (Nat.zero_le _)

section
variable [Scalar T]

def writeLe (value : T) : Encoder :=
  .emit (Scalar.leBytes value) (Scalar.size T) (by simp)

def writeBe (value : T) : Encoder :=
  .emit (Scalar.beBytes value) (Scalar.size T) (by simp)

/-- `write(value, big_endian)`. -/
def write (value : T) (bigEndian : Bool) : Encoder :=
  if bigEndian then writeBe value else writeLe value

@[simp] theorem bytes_writeLe (value : T) : (writeLe value).bytes = Scalar.leBytes value := rfl
@[simp] theorem counted_writeLe (value : T) : (writeLe value).counted = Scalar.size T := rfl
@[simp] theorem write_false (value : T) : write value false = writeLe value := rfl

end

@[simp] theorem bytes_writeBytes (bytes : List UInt8) : (writeBytes bytes).bytes = bytes := rfl
@[simp] theorem counted_writeBytes (bytes : List UInt8) : (writeBytes bytes).counted = 0 := rfl
@[simp] theorem bytes_writeU8 (val : UInt8) : (writeU8 val).bytes = [val] := rfl
@[simp] theorem counted_writeU8 (val : UInt8) : (writeU8 val).counted = 0 := rfl
@[simp] theorem bytes_writeI8 (val : Int8) : (writeI8 val).bytes = [val.toUInt8] := rfl
@[simp] theorem counted_writeI8 (val : Int8) : (writeI8 val).counted = 0 := rfl

def writeU16 (val : UInt16) : Encoder := write val false
def writeU32 (val : UInt32) : Encoder := write val false
def writeU64 (val : UInt64) : Encoder := write val false
def writeI16 (val : Int16) : Encoder := write val false
def writeI32 (val : Int32) : Encoder := write val false
def writeI64 (val : Int64) : Encoder := write val false
def writeU16Le (val : UInt16) : Encoder := writeLe val
def writeU32Le (val : UInt32) : Encoder := writeLe val
def writeU64Le (val : UInt64) : Encoder := writeLe val
def writeI16Le (val : Int16) : Encoder := writeLe val
def writeI32Le (val : Int32) : Encoder := writeLe val
def writeI64Le (val : Int64) : Encoder := writeLe val
def writeF32Le (val : F32) : Encoder := writeLe val
def writeF64Le (val : F64) : Encoder := writeLe val

theorem length_writeU32 (val : UInt32) : (writeU32 val).bytes.length = 4 :=
  Scalar.length_leBytes val
theorem length_writeI32 (val : Int32) : (writeI32 val).bytes.length = 4 := Scalar.length_leBytes val
theorem length_writeU32Le (val : UInt32) : (writeU32Le val).bytes.length = 4 :=
  Scalar.length_leBytes val

@[simp] theorem counted_writeU32 (val : UInt32) : (writeU32 val).counted = 4 := rfl
@[simp] theorem counted_writeU64 (val : UInt64) : (writeU64 val).counted = 8 := rfl

namespace Encoder

@[simp] theorem uncounted_writeLe [Scalar T] (value : T) : (writeLe value).uncounted = 0 := by
  simp [uncounted]

@[simp] theorem uncounted_writeU8 (val : UInt8) : (writeU8 val).uncounted = 1 := rfl
@[simp] theorem uncounted_writeI8 (val : Int8) : (writeI8 val).uncounted = 1 := rfl

@[simp] theorem uncounted_writeBytes (bytes : List UInt8) :
    (writeBytes bytes).uncounted = bytes.length := rfl

@[simp] theorem uncounted_writeU16 (val : UInt16) : (writeU16 val).uncounted = 0 :=
  uncounted_writeLe val

@[simp] theorem uncounted_writeU32 (val : UInt32) : (writeU32 val).uncounted = 0 :=
  uncounted_writeLe val

@[simp] theorem uncounted_writeU64 (val : UInt64) : (writeU64 val).uncounted = 0 :=
  uncounted_writeLe val

@[simp] theorem uncounted_writeU32Le (val : UInt32) : (writeU32Le val).uncounted = 0 :=
  uncounted_writeLe val

@[simp] theorem uncounted_writeI32 (val : Int32) : (writeI32 val).uncounted = 0 :=
  uncounted_writeLe val

@[simp] theorem uncounted_writeI64 (val : Int64) : (writeI64 val).uncounted = 0 :=
  uncounted_writeLe val

end Encoder

/-! The read primitives. Each checks that its width is available and then walks
over exactly that many bytes. -/

open Wire in
theorem ByteBuf.walk_enough (f : List UInt8 → α) (log : List Access) {buf : ByteBuf}
    (enough : n ≤ (unread buf).length) :
    (buf.walk n f log).value = .ok (f ((unread buf).take n)) ∧
      (buf.walk n f log).state = advance buf n := by
  have guard : ¬ buf.readableBytes < n := by
    simpa [readableBytes, unread] using enough
  rw [walk, if_neg guard]
  exact ⟨rfl, rfl⟩

open Wire in
theorem ByteBuf.walk_short (f : List UInt8 → α) (log : List Access) {buf : ByteBuf}
    (missing : (unread buf).length < n) :
    (buf.walk n f log).value = .error Truncation.short ∧ (buf.walk n f log).state = buf := by
  have guard : buf.readableBytes < n := by
    simpa [readableBytes, unread] using missing
  rw [walk, if_pos guard]
  exact ⟨rfl, rfl⟩

/-- A reader of `n` bytes that computes `f` of them. -/
def Decoder.walk (n : Nat) (f : List UInt8 → α) (log : ByteBuf → List Access)
    (sound : ∀ buf : ByteBuf, n ≤ buf.readableBytes → ∀ e ∈ log buf, Wire.Audit.Sound buf e) :
    Decoder α :=
  .window (fun buf => buf.walk n f (log buf)) n f
    (fun buf => ByteBuf.walk_enough f (log buf)) (fun buf => ByteBuf.walk_short f (log buf))
    (by
      intro buf e member
      by_cases guard : buf.readableBytes < n
      · simp [ByteBuf.walk, guard] at member
      · simp only [ByteBuf.walk, guard, ↓reduceIte] at member
        exact sound buf (Nat.le_of_not_lt guard) e member)

/-- `read_bytes`: one subscript at `reader_index_`, then `std::memcpy`. -/
def readBytes (len : Nat) : Decoder (List UInt8) :=
  .walk len id (fun buf => [.subscript buf.readerIndex len]) (by
    intro buf enough e member
    have inside := buf.reader_le
    cases List.mem_singleton.mp member
    simp only [ByteBuf.readableBytes, Wire.Audit.Sound] at enough ⊢
    omega)

/-- `buffer_[reader_index_++]` as a value of a one-byte type. -/
def readByte (f : UInt8 → α) : Decoder α :=
  .walk 1 (fun bytes => f (bytes.getD 0 0)) (fun buf => [.subscript buf.readerIndex 1]) (by
    intro buf enough e member
    have inside := buf.reader_le
    cases List.mem_singleton.mp member
    simp only [ByteBuf.readableBytes, Wire.Audit.Sound] at enough ⊢
    omega)

def readU8 : Decoder UInt8 := readByte id

def readI8 : Decoder Int8 := readByte UInt8.toInt8

/-- The subscripts of `read_le`: `std::memcpy` from the first byte for a
floating type, one subscript a byte for an integer. -/
def scalarAccesses (T : Type) [Scalar T] (buf : ByteBuf) : List Access :=
  match Scalar.kind T with
  | .floating => [.subscript buf.readerIndex (Scalar.size T)]
  | _ => (List.range (Scalar.size T)).map (fun i => .subscript (buf.readerIndex + i) 1)

theorem sound_scalarAccesses (T : Type) [Scalar T] (buf : ByteBuf)
    (enough : Scalar.size T ≤ buf.readableBytes) :
    ∀ e ∈ scalarAccesses T buf, Wire.Audit.Sound buf e := by
  intro e member
  have inside := buf.reader_le
  simp only [ByteBuf.readableBytes] at enough
  unfold scalarAccesses at member
  split at member
  · cases List.mem_singleton.mp member
    simp only [Wire.Audit.Sound]
    omega
  · obtain ⟨i, range, rfl⟩ := List.mem_map.mp member
    have bound := List.mem_range.mp range
    simp only [Wire.Audit.Sound]
    omega

section
variable (T : Type) [Scalar T]

def readLe : Decoder T :=
  .walk (Scalar.size T) (Scalar.fromLe T) (scalarAccesses T) (sound_scalarAccesses T)

def readBe : Decoder T :=
  .walk (Scalar.size T) (Scalar.fromBe T) (scalarAccesses T) (sound_scalarAccesses T)

/-- `read<T>(big_endian)`. -/
def read (bigEndian : Bool) : Decoder T :=
  if bigEndian then readBe T else readLe T

@[simp] theorem read_false : read T false = readLe T := rfl

end

/-! `check_read(w); return read<T>();` The second check, inside `read_le`, finds
what the first one found, so the pair is one checked walk. -/

def readU16 : Decoder UInt16 := read UInt16 false
def readU32 : Decoder UInt32 := read UInt32 false
def readU64 : Decoder UInt64 := read UInt64 false
def readI16 : Decoder Int16 := read Int16 false
def readI32 : Decoder Int32 := read Int32 false
def readI64 : Decoder Int64 := read Int64 false
def readU16Le : Decoder UInt16 := readLe UInt16
def readU32Le : Decoder UInt32 := readLe UInt32
def readU64Le : Decoder UInt64 := readLe UInt64
def readI16Le : Decoder Int16 := readLe Int16
def readI32Le : Decoder Int32 := readLe Int32
def readI64Le : Decoder Int64 := readLe Int64
def readF32Le : Decoder F32 := readLe F32
def readF64Le : Decoder F64 := read F64 false

/-! Each reader is the inverse of the writer of its type. -/

open Wire

/-- Every value satisfies the vacuous requirement. -/
def Anything (_ : α) : Prop := True

theorem Decoder.reads_walk {f : List UInt8 → α} {log : ByteBuf → List Access} {sound}
    (c : List UInt8) (a : α) :
    Reads (Decoder.walk n f log sound).run c a ↔ c.length = n ∧ f c = a := by
  unfold Decoder.walk
  exact Reader.reads_window

theorem Decoder.inverts_walk {n : Nat} {f : List UInt8 → α} {log : ByteBuf → List Access} {sound}
    {w : α → List UInt8} (width : ∀ a, (w a).length = n) (back : ∀ a, f (w a) = a)
    (forth : ∀ c, c.length = n → w (f c) = c) :
    Inverts (Decoder.walk n f log sound) w Anything :=
  .ofWidth Decoder.reads_walk (fun a _ => width a) (fun a _ => back a)
    (fun c full => ⟨forth c full, trivial⟩)

theorem inverts_readBytes (len : Nat) :
    Inverts (readBytes len) (fun bytes => bytes) (fun bytes => bytes.length = len) :=
  .ofWidth Decoder.reads_walk (fun _ full => full) (fun _ _ => rfl)
    (fun _ full => ⟨rfl, full⟩)

theorem inverts_readByte {f : UInt8 → α} {g : α → UInt8} (back : ∀ a, f (g a) = a)
    (forth : ∀ byte, g (f byte) = byte) : Inverts (readByte f) (fun a => [g a]) Anything := by
  refine Decoder.inverts_walk (fun _ => rfl) (fun a => back a) ?_
  intro c full
  obtain ⟨byte, rfl⟩ := List.length_eq_one_iff.mp full
  simp [forth]

theorem inverts_readU8 : Inverts readU8 (fun val => (writeU8 val).bytes) Anything :=
  inverts_readByte (fun _ => rfl) (fun _ => rfl)

theorem inverts_readI8 : Inverts readI8 (fun val => (writeI8 val).bytes) Anything :=
  inverts_readByte (fun _ => by simp) (fun _ => by simp)

theorem inverts_readLe (T : Type) [Scalar T] :
    Inverts (readLe T) (fun value => (writeLe value).bytes) Anything :=
  Decoder.inverts_walk Scalar.length_leBytes Scalar.fromLe_leBytes (fun _ => Scalar.leBytes_fromLe)

theorem inverts_readBe (T : Type) [Scalar T] :
    Inverts (readBe T) (fun value => (writeBe value).bytes) Anything :=
  Decoder.inverts_walk Scalar.length_beBytes Scalar.fromBe_beBytes (fun _ => Scalar.beBytes_fromBe)

/-! Positional writes. The bounds test adds in `size_t`, so it wraps. -/

namespace ByteBuf

/-- `buffer_[pos + i] = bytes[i]`, one subscript at a time. -/
def store (buffer : List UInt8) (pos : Nat) : List UInt8 → Except Fault (List UInt8)
  | [] => .ok buffer
  | byte :: bytes =>
    if pos < buffer.length then store (buffer.set pos byte) (pos + 1) bytes
    else .error (.badSubscript pos)

/-- The buffer with `bytes` in place of what stood from `pos` on. -/
def splice (buffer : List UInt8) (pos : Nat) (bytes : List UInt8) : List UInt8 :=
  buffer.take pos ++ bytes ++ buffer.drop (pos + bytes.length)

theorem store_length {buffer bytes out : List UInt8} (stored : store buffer pos bytes = .ok out) :
    out.length = buffer.length := by
  induction bytes generalizing buffer pos with
  | nil =>
    cases stored
    rfl
  | cons byte bytes ih =>
    rw [store] at stored
    split at stored
    · simpa using ih stored
    · cases stored

theorem splice_set {buffer : List UInt8} (bound : pos < buffer.length) (byte : UInt8)
    (bytes : List UInt8) :
    splice (buffer.set pos byte) (pos + 1) bytes = splice buffer pos (byte :: bytes) := by
  have total : pos + (bytes.length + 1) = pos + 1 + bytes.length := by omega
  have before : pos < pos + 1 + bytes.length := by omega
  have here : (buffer.set pos byte).take (pos + 1) = buffer.take pos ++ [byte] := by
    rw [List.take_add_one, List.take_set, List.set_eq_of_length_le (List.length_take_le _ _)]
    simp [bound]
  rw [splice, splice, here, List.length_cons, total, List.drop_set_of_lt before]
  simp

theorem store_eq_splice {buffer bytes : List UInt8} (inside : pos + bytes.length ≤ buffer.length) :
    store buffer pos bytes = .ok (splice buffer pos bytes) := by
  induction bytes generalizing buffer pos with
  | nil => simp [store, splice]
  | cons byte bytes ih =>
    rw [List.length_cons] at inside
    have bound : pos < buffer.length := by omega
    have rest : pos + 1 + bytes.length ≤ (buffer.set pos byte).length := by
      rw [List.length_set]
      omega
    rw [store, if_pos bound, ih rest, splice_set bound]

theorem length_splice {buffer : List UInt8} {bytes : List UInt8}
    (inside : pos + bytes.length ≤ buffer.length) :
    (splice buffer pos bytes).length = buffer.length := by
  simp only [splice, List.length_append, List.length_take, List.length_drop]
  omega

/-- A splice changes the bytes of its window and no other. -/
theorem getElem?_splice {buffer : List UInt8} {bytes : List UInt8}
    (inside : pos + bytes.length ≤ buffer.length) (i : Nat) :
    (splice buffer pos bytes)[i]? =
      if pos ≤ i ∧ i < pos + bytes.length then bytes[i - pos]? else buffer[i]? := by
  have front : (buffer.take pos).length = pos := List.length_take_of_le (by omega)
  have window : (buffer.take pos ++ bytes).length = pos + bytes.length := by
    rw [List.length_append, front]
  by_cases before : i < pos
  · have outside : ¬ (pos ≤ i ∧ i < pos + bytes.length) := by omega
    rw [if_neg outside, splice, List.append_assoc, List.getElem?_append_left (by omega),
      List.getElem?_take_of_lt before]
  · by_cases within : i < pos + bytes.length
    · have here : pos ≤ i ∧ i < pos + bytes.length := by omega
      rw [if_pos here, splice, List.getElem?_append_left (by omega),
        List.getElem?_append_right (by omega), front]
    · have outside : ¬ (pos ≤ i ∧ i < pos + bytes.length) := by omega
      have index : pos + bytes.length + (i - (pos + bytes.length)) = i := by omega
      rw [if_neg outside, splice, List.getElem?_append_right (by omega), window, List.getElem?_drop,
        index]

/-- What stands before the window stays. -/
theorem take_splice {buffer bytes : List UInt8} (inside : pos + bytes.length ≤ buffer.length)
    (before : n ≤ pos) : (splice buffer pos bytes).take n = buffer.take n := by
  have front : n ≤ (buffer.take pos).length := by
    rw [List.length_take_of_le (by omega)]
    exact before
  rw [splice, List.append_assoc, List.take_append_of_le_length front, List.take_take,
    Nat.min_eq_left before]

theorem splice_append {front bytes : List UInt8} (inside : pos + bytes.length ≤ front.length)
    (back : List UInt8) : splice (front ++ back) pos bytes = splice front pos bytes ++ back := by
  have before : pos ≤ front.length := by omega
  rw [splice, splice, List.take_append_of_le_length before, List.drop_append_of_le_length inside,
    List.append_assoc, List.append_assoc, List.append_assoc]

/-- Replacing the middle of three parts by as many bytes. -/
theorem splice_middle (front : List UInt8) {old new : List UInt8} (back : List UInt8)
    (width : new.length = old.length) :
    splice (front ++ old ++ back) front.length new = front ++ new ++ back := by
  simp [splice, width, List.drop_append]

/-- The buffer after a positional write that stays inside it. -/
def overwrite (buf : ByteBuf) (pos : Nat) (bytes : List UInt8)
    (inside : pos + bytes.length ≤ buf.buffer.length) : ByteBuf where
  buffer := splice buf.buffer pos bytes
  readerIndex := buf.readerIndex
  writerIndex := buf.writerIndex
  reader_le := by rw [length_splice inside]; exact buf.reader_le
  writer_le := by rw [length_splice inside]; exact buf.writer_le

/-- Run the byte assignments of a positional write. -/
def patch (buf : ByteBuf) (pos : Nat) (bytes : List UInt8) : Except Fault ByteBuf :=
  match stored : store buf.buffer pos bytes with
  | .ok out => .ok {
      buf with
      buffer := out
      reader_le := by rw [store_length stored]; exact buf.reader_le
      writer_le := by rw [store_length stored]; exact buf.writer_le }
  | .error fault => .error fault

theorem patch_eq {buf : ByteBuf} {bytes : List UInt8}
    (inside : pos + bytes.length ≤ buf.buffer.length) :
    buf.patch pos bytes = .ok (buf.overwrite pos bytes inside) := by
  have stored := store_eq_splice inside
  rw [patch]
  split
  · rename_i out found
    have same : out = splice buf.buffer pos bytes := Except.ok.inj (found.symm.trans stored)
    subst same
    rfl
  · rename_i fault found
    cases found.symm.trans stored

end ByteBuf

section
variable [Scalar T]

def writeLeAt (pos : Nat) (value : T) (buf : ByteBuf) : Except Fault ByteBuf :=
  if (pos + Scalar.size T) % 2 ^ 64 > buf.buffer.length then
    .error (.outOfRange "Position out of bounds for write_le_at")
  else buf.patch pos (Scalar.leBytes value)

def writeBeAt (pos : Nat) (value : T) (buf : ByteBuf) : Except Fault ByteBuf :=
  if (pos + Scalar.size T) % 2 ^ 64 > buf.buffer.length then
    .error (.outOfRange "Position out of bounds for write_be_at")
  else buf.patch pos (Scalar.beBytes value)

/-- `write_at(pos, value, big_endian)`. -/
def writeAt (pos : Nat) (value : T) (bigEndian : Bool) (buf : ByteBuf) : Except Fault ByteBuf :=
  if bigEndian then writeBeAt pos value buf else writeLeAt pos value buf

end

def writeU32At (pos : Nat) (val : UInt32) : ByteBuf → Except Fault ByteBuf := writeAt pos val false
def writeU32LeAt (pos : Nat) (val : UInt32) : ByteBuf → Except Fault ByteBuf := writeLeAt pos val

/-- A positional write inside the buffer replaces exactly its window. -/
theorem writeLeAt_eq [Scalar T] {pos : Nat} {value : T} {buf : ByteBuf}
    (inside : pos + (Scalar.leBytes value).length ≤ buf.buffer.length) :
    writeLeAt pos value buf = .ok (buf.overwrite pos (Scalar.leBytes value) inside) := by
  have guard : ¬ (pos + Scalar.size T) % 2 ^ 64 > buf.buffer.length := by
    have wrapped := Nat.mod_le (pos + Scalar.size T) (2 ^ 64)
    rw [Scalar.length_leBytes] at inside
    omega
  rw [writeLeAt, if_neg guard, ByteBuf.patch_eq inside]

end FinProto
