import FinProto.Interface
import FinProto.Wire.Queue

/-! Appending to a buffer and consuming from it: in whatever order the calls come, the
bytes leave as they entered. -/
namespace FinProto

open Wire

/-- A call that appends to the buffer or consumes from it. -/
inductive Transfer where
  | write (method : Method) (t : Primitive) (val : t.carrier)
  | writeBytes (bytes : Bytes)
  | read (method : Method) (t : Primitive)
  | readBytes (len : Nat)

/-- What a call hands back. -/
inductive Delivery where
  | nothing
  | value (t : Primitive) (bigEndian : Bool) (val : t.carrier)
  | bytes (bytes : Bytes)

/-- The bytes handed over; a value's are those that writing it in the same byte order
appends. -/
def Delivery.spelled : Delivery → Bytes
  | .nothing => []
  | .value _ bigEndian val => (write val bigEndian).bytes
  | .bytes copied => copied

/-- Nothing is handed over by a call that throws. -/
def Delivery.received : Except Fault Delivery → Bytes
  | .ok delivery => delivery.spelled
  | .error _ => []

/-- Call a reader and hand over what it returns. -/
def receive (deliver : α → Delivery) (p : Decoder α) (buf : ByteBuf) :
    Except Fault Delivery × ByteBuf :=
  ((p.run buf).value.map deliver, (p.run buf).state)

namespace Transfer

def run : Transfer → ByteBuf → Except Fault Delivery × ByteBuf
  | .write method t val, buf => (.ok .nothing, (writeBy method t val).run buf)
  | .writeBytes bytes, buf => (.ok .nothing, (FinProto.writeBytes bytes).run buf)
  | .read method t, buf => receive (.value t method.bigEndian) (readBy method t) buf
  | .readBytes len, buf => receive .bytes (FinProto.readBytes len) buf

/-- The buffer the next call finds, whether this one returns or its exception is caught. -/
def step (buf : ByteBuf) (op : Transfer) : ByteBuf := (op.run buf).2

/-- The bytes a call appends. -/
def written : Transfer → Bytes
  | .write method _ val => (FinProto.write val method.bigEndian).bytes
  | .writeBytes bytes => bytes
  | .read _ _ => []
  | .readBytes _ => []

/-- The bytes a call delivers, if it returns. -/
def delivered (buf : ByteBuf) (op : Transfer) : Bytes := Delivery.received (op.run buf).1

/-- How many bytes a read asks for. -/
def width : Transfer → Option Nat
  | .read _ t => some (Scalar.size t.carrier)
  | .readBytes len => some len
  | .write _ _ _ => none
  | .writeBytes _ => none

/-! ## One call -/

theorem passes_write (e : Encoder) (buf : ByteBuf) :
    Passes (unread buf) e.bytes [] (unread (e.run buf)) := by
  rw [Encoder.unread_run]
  exact .put _ _

/-- A reader of fixed width that inverts a writer takes what that spells off the front. -/
theorem passes_receive {p : Decoder α} {w : α → Bytes} {P : α → Prop} {n : Nat}
    {deliver : α → Delivery} (walks : p.Walks n) (inverse : Inverts p w P)
    (spelled : ∀ a, (deliver a).spelled = w a) (buf : ByteBuf) :
    Passes (unread buf) [] (Delivery.received (receive deliver p buf).1)
      (unread (receive deliver p buf).2) := by
  unfold receive
  rcases Nat.lt_or_ge buf.readableBytes n with missing | full
  · obtain ⟨value, state⟩ := walks.short buf missing
    rw [value, state]
    exact .idle (unread buf)
  · obtain ⟨⟨a, value⟩, _⟩ := walks.enough buf full
    obtain ⟨_, ⟨t, split⟩, state⟩ := inverse.sound value
    have received : Delivery.received (Except.map deliver (.ok a)) = w a := spelled a
    rw [value, state, received, Cursor.unread_advance, split, List.drop_left]
    exact .take rfl

/-- Every call passes bytes on, in order. -/
theorem passes_step (buf : ByteBuf) (op : Transfer) :
    Passes (unread buf) op.written (delivered buf op) (unread (step buf op)) := by
  cases op with
  | write method t val =>
    rw [written, ← bytes_writeBy]
    exact passes_write (writeBy method t val) buf
  | writeBytes bytes => exact passes_write (FinProto.writeBytes bytes) buf
  | read method t =>
    exact passes_receive (walks_readBy method t) (inverts_readBy method t) (fun _ => rfl) buf
  | readBytes len =>
    exact passes_receive (walks_readBytes len) (inverts_readBytes len) (fun _ => rfl) buf

/-- A read that finds fewer bytes than it asks for throws and changes nothing; otherwise it
returns and moves the reader on. -/
theorem receive_walks {p : Decoder α} {n : Nat} (walks : p.Walks n) (deliver : α → Delivery)
    (buf : ByteBuf) :
    (buf.readableBytes < n →
      receive deliver p buf = (.error (.outOfRange "Not enough data to read"), buf)) ∧
    (n ≤ buf.readableBytes →
      (∃ a, (receive deliver p buf).1 = .ok (deliver a)) ∧
        (receive deliver p buf).2 = advance buf n) := by
  unfold receive
  constructor
  · intro missing
    obtain ⟨value, state⟩ := walks.short buf missing
    rw [value, state]
    rfl
  · intro full
    obtain ⟨⟨a, value⟩, state⟩ := walks.enough buf full
    rw [value, state]
    exact ⟨⟨a, rfl⟩, rfl⟩

/-- What a read of `n` bytes may do to a buffer. -/
structure Guarded (op : Transfer) (n : Nat) (buf : ByteBuf) : Prop where
  throws : (∃ what, (op.run buf).1 = .error (.outOfRange what)) ↔ buf.readableBytes < n
  unchanged : buf.readableBytes < n → (op.run buf).2 = buf
  returns : n ≤ buf.readableBytes → ∃ delivery, (op.run buf).1 = .ok delivery
  moves : n ≤ buf.readableBytes → (op.run buf).2.readerIndex = buf.readerIndex + n
  keeps : (op.run buf).2.data = buf.data

theorem readerIndex_advance {buf : ByteBuf} (full : n ≤ buf.readableBytes) :
    (advance buf n).readerIndex = buf.readerIndex + n := by
  have bound := buf.reader_le
  unfold ByteBuf.readableBytes at full
  change min _ _ = _
  omega

theorem guarded_receive {p : Decoder α} {n : Nat} {op : Transfer} {deliver : α → Delivery}
    (walks : p.Walks n) (called : ∀ buf, op.run buf = receive deliver p buf) (buf : ByteBuf) :
    op.Guarded n buf := by
  obtain ⟨short, enough⟩ := receive_walks walks deliver buf
  rw [← called] at short enough
  rcases Nat.lt_or_ge buf.readableBytes n with missing | full
  · have stopped := short missing
    refine ⟨⟨fun _ => missing, fun _ => ?_⟩, fun _ => ?_, ?_, ?_, ?_⟩
    · exact ⟨_, congrArg Prod.fst stopped⟩
    · rw [stopped]
    · intro full
      omega
    · intro full
      omega
    · rw [stopped]
  · obtain ⟨⟨a, value⟩, state⟩ := enough full
    refine ⟨⟨?_, ?_⟩, ?_, fun _ => ⟨_, value⟩, fun _ => ?_, ?_⟩
    · intro thrown
      obtain ⟨what, thrown⟩ := thrown
      cases value.symm.trans thrown
    · intro missing
      omega
    · intro missing
      omega
    · rw [state, readerIndex_advance full]
    · rw [state]
      rfl

theorem guarded {op : Transfer} {n : Nat} (asks : op.width = some n) (buf : ByteBuf) :
    op.Guarded n buf := by
  cases op with
  | write method t val => cases asks
  | writeBytes bytes => cases asks
  | read method t =>
    cases asks
    exact guarded_receive (walks_readBy method t) (fun _ => rfl) buf
  | readBytes len =>
    cases asks
    exact guarded_receive (walks_readBytes n) (fun _ => rfl) buf

/-- What a call appends stands at the end of the data; it never touches what is there. -/
theorem data_step (buf : ByteBuf) (op : Transfer) :
    (step buf op).data = buf.data ++ op.written := by
  cases op with
  | write method t val =>
    rw [written, ← bytes_writeBy]
    exact (writeBy method t val).buffer_run buf
  | writeBytes bytes => exact (FinProto.writeBytes bytes).buffer_run buf
  | read method t =>
    rw [written, List.append_nil]
    exact (guarded rfl buf).keeps
  | readBytes len =>
    rw [written, List.append_nil]
    exact (guarded rfl buf).keeps

/-! ## Runs -/

theorem data_run (ops : List Transfer) (buf : ByteBuf) :
    (ops.foldl step buf).data = buf.data ++ ops.flatMap written := by
  induction ops generalizing buf with
  | nil => exact (List.append_nil _).symm
  | cons op ops ih => rw [List.foldl_cons, ih, data_step, List.flatMap_cons, List.append_assoc]

/-- A read that starts where a write of its type and byte order started finds the value. -/
theorem read_write {before after : List Transfer} {t : Primitive} {w r : Method} {val : t.carrier}
    (order : w.bigEndian = r.bigEndian) {buf : ByteBuf}
    (ran : (before ++ .write w t val :: after).foldl step .new = buf)
    (start : buf.readerIndex = (before.foldl step .new).data.length) :
    (read r t).run buf = (.ok (.value t r.bigEndian val), advance buf (Scalar.size t.carrier)) := by
  have split : unread buf = (FinProto.write val r.bigEndian).bytes ++ after.flatMap written := by
    change buf.data.drop buf.readerIndex = _
    rw [start, ← ran, data_run, data_run, List.flatMap_append, ← List.append_assoc,
      List.drop_left, List.flatMap_cons, ← order]
    rfl
  obtain ⟨value, state⟩ := (inverts_readBy r t).run trivial split
  rw [length_write] at state
  change receive _ _ buf = _
  rw [receive, value, state]
  rfl

end Transfer

/-- First in, first out, for every interleaving of writes and reads on a new buffer. Every
read throws exactly when fewer bytes are unread than it asks for, and then changes nothing;
no write moves the reader; and a value is read back where it was written. -/
theorem transfers_fifo :
    (∀ ops : List Transfer, takenBy Transfer.step Transfer.delivered .new ops ++
        unread (ops.foldl Transfer.step .new) = ops.flatMap Transfer.written) ∧
    (∀ (op : Transfer) (n : Nat), op.width = some n → ∀ buf, op.Guarded n buf) ∧
    (∀ op : Transfer, op.width = none → ∀ buf,
      (op.run buf).2.readerIndex = buf.readerIndex ∧ (op.run buf).2.data = buf.data ++ op.written) ∧
    (∀ buf, (Transfer.readBytes 0).run buf = (.ok (.bytes []), buf)) ∧
    (∀ (before after : List Transfer) (t : Primitive) (w r : Method) (val : t.carrier)
      (buf : ByteBuf), w.bigEndian = r.bigEndian →
      (before ++ .write w t val :: after).foldl Transfer.step .new = buf →
      buf.readerIndex = (before.foldl Transfer.step .new).data.length →
      (Transfer.read r t).run buf =
        (.ok (.value t r.bigEndian val), advance buf (Scalar.size t.carrier))) := by
  refine ⟨?fifo, fun op n asks buf => Transfer.guarded asks buf, ?writes, ?none, ?value⟩
  case fifo =>
    intro ops
    exact (passes_run Transfer.passes_step .new ops).symm
  case writes =>
    intro op writes buf
    refine ⟨?_, Transfer.data_step buf op⟩
    cases op with
    | write method t val => exact (writeBy method t val).readerIndex_run buf
    | writeBytes bytes => exact (FinProto.writeBytes bytes).readerIndex_run buf
    | read method t => cases writes
    | readBytes len => cases writes
  case none =>
    intro buf
    exact Prod.ext rfl (Cursor.advance_zero buf)
  case value =>
    intro before after t w r val buf order ran start
    exact Transfer.read_write order ran start

/-- A negative value written in big-endian order behind a byte, with more behind it. -/
theorem fifo_negative :
    let before : List Transfer := [.write .named .u8 (7 : UInt8), .read .namedLe .u8]
    let after : List Transfer := [.writeBytes [9]]
    let buf :=
      (before ++ .write (.template true) .i16 (-2 : Int16) :: after).foldl Transfer.step .new
    (Transfer.read (.template true) .i16).run buf =
      (.ok (.value .i16 true (-2 : Int16)), advance buf 2) := by
  intro before after buf
  have start : buf.readerIndex = (before.foldl Transfer.step .new).data.length := by rfl
  exact transfers_fifo.2.2.2.2 before after .i16 (.template true) (.template true) (-2 : Int16) buf
    rfl rfl start

end FinProto
