import FinProto.Fifo

/-! `writer_index()` over whole runs of calls: it is the end of the buffer as long as
nothing was appended behind its back since the buffer was last reset. -/
namespace FinProto

open Wire

/-- Any call that may change a buffer. -/
inductive Call where
  | transfer (op : Transfer)
  | writeAt (method : Method) (t : Primitive) (pos : UInt64) (val : t.carrier)
  | reset

namespace Call

/-- The buffer after a call, whose exception is caught. There is none after an assignment
outside `buffer_`, which is undefined. -/
def run : Call → ByteBuf → Option ByteBuf
  | .transfer op, buf => some (op.step buf)
  | .writeAt method t pos val, buf =>
    match writeAtBy method t pos.toNat val buf with
    | .ok out => some out
    | .error (.badSubscript _) => none
    | .error _ => some buf
  | .reset, buf => some buf.reset

/-- The buffer after a sequence of calls. -/
def runs (calls : List Call) (buf : ByteBuf) : Option ByteBuf :=
  calls.foldlM (fun buf call => call.run buf) buf

def isReset : Call → Bool
  | .reset => true
  | _ => false

/-- The bytes a call appends without moving `writer_index_`: one for each `push_back`, and
all that `write_bytes` is given. -/
def uncounted : Call → Nat
  | .transfer (.write method t _) => if method.pushesBack t then 1 else 0
  | .transfer (.writeBytes bytes) => bytes.length
  | _ => 0

/-- The calls since the last reset, the latest first. -/
def sinceReset (calls : List Call) : List Call := calls.reverse.takeWhile (!·.isReset)

/-- How a call moves the lag of `writer_index_` behind the end of the buffer. -/
def lagAfter (call : Call) (lag : Nat) : Nat := if call.isReset then 0 else lag + call.uncounted

end Call

/-- Positional writes assign to bytes that exist. -/
theorem patch_keeps {buf out : ByteBuf} (patched : buf.patch pos bytes = .ok out) :
    out.lag = buf.lag := by
  unfold ByteBuf.patch at patched
  split at patched
  · rename_i stored found
    cases patched
    simp only [ByteBuf.lag, ByteBuf.store_length found]
  · cases patched

theorem writeAt_keeps [Scalar T] {value : T} {bigEndian : Bool} {buf out : ByteBuf}
    (written : writeAt pos value bigEndian buf = .ok out) : out.lag = buf.lag := by
  obtain ⟨what, tested⟩ := writeAt_eq pos value bigEndian buf
  rw [tested] at written
  split at written
  · cases written
  · exact patch_keeps written

theorem lag_reader (p : Decoder α) (buf : ByteBuf) : (p.run buf).state.lag = buf.lag := by
  obtain ⟨n, _, state⟩ := p.moves buf
  rw [state]
  rfl

namespace Call

theorem lag_transfer (op : Transfer) (buf : ByteBuf) :
    (op.step buf).lag = buf.lag + (transfer op).uncounted := by
  cases op with
  | write method t val =>
    have moved := (writeBy method t val).lag_run buf
    rw [uncounted_writeBy] at moved
    exact moved
  | writeBytes bytes => exact (FinProto.writeBytes bytes).lag_run buf
  | read method t => exact lag_reader (readBy method t) buf
  | readBytes len => exact lag_reader (FinProto.readBytes len) buf

theorem lag_run (call : Call) {buf out : ByteBuf} (ran : call.run buf = some out) :
    out.lag = call.lagAfter buf.lag := by
  cases call with
  | transfer op =>
    cases ran
    exact lag_transfer op buf
  | writeAt method t pos val =>
    rw [run, writeAtBy_eq] at ran
    change out.lag = buf.lag
    split at ran
    · rename_i written
      cases ran
      exact writeAt_keeps written
    · cases ran
    · cases ran
      rfl
  | reset =>
    cases ran
    rfl

theorem lag_runs {calls : List Call} {buf out : ByteBuf} (ran : runs calls buf = some out) :
    out.lag = calls.foldl (fun lag call => call.lagAfter lag) buf.lag := by
  induction calls generalizing buf with
  | nil =>
    cases ran
    rfl
  | cons call calls ih =>
    rw [runs, List.foldlM_cons, Option.bind_eq_bind, Option.bind_eq_some_iff] at ran
    obtain ⟨next, first, rest⟩ := ran
    rw [ih rest, lag_run call first, List.foldl_cons]

/-- Going back through the calls: no lag is left exactly when none was made since the
last reset. -/
theorem lag_eq_zero_iff (calls : List Call) :
    calls.foldl (fun lag call => call.lagAfter lag) 0 = 0 ↔
      ∀ call ∈ sinceReset calls, call.uncounted = 0 := by
  rw [sinceReset, ← List.foldr_reverse]
  induction calls.reverse with
  | nil => simp
  | cons call calls ih =>
    rw [List.foldr_cons, lagAfter, List.takeWhile_cons]
    cases isReset : call.isReset with
    | true => simp
    | false => simp [ih, and_comm]

end Call

/-- After any sequence of calls on a new buffer `writer_index()` is the size of the data
exactly when no `push_back` and no `write_bytes` of any bytes was made since the last
reset. -/
theorem writerIndex_eq_size_iff (calls : List Call) (buf : ByteBuf)
    (ran : Call.runs calls .new = some buf) :
    buf.writerIndex = buf.data.length ↔ ∀ call ∈ Call.sinceReset calls, call.uncounted = 0 := by
  have bound := buf.writer_le
  rw [← Call.lag_eq_zero_iff]
  have total : buf.lag = calls.foldl (fun lag call => call.lagAfter lag) 0 := Call.lag_runs ran
  rw [← total, ByteBuf.lag, ByteBuf.data]
  omega

/-- A byte pushed back before a reset leaves no trace; words, reads and patches keep the
index at the end. -/
theorem writerIndex_level :
    let calls : List Call := [
      .transfer (.write .named .u8 (1 : UInt8)), .reset,
      .transfer (.write .named .u32 (5 : UInt32)), .transfer (.read .named .u16),
      .writeAt .namedLe .i16 2 (-1 : Int16), .writeAt .named .u64 1 (0 : UInt64),
      .transfer (.write (.template true) .i8 (-1 : Int8))]
    ∃ buf, Call.runs calls .new = some buf ∧ buf.writerIndex = buf.data.length := by
  intro calls
  refine ⟨_, rfl, ?_⟩
  apply (writerIndex_eq_size_iff calls _ rfl).mpr
  simp [calls, Call.sinceReset, Call.isReset, Call.uncounted, Method.pushesBack]

/-- After `write_u8` on a new buffer `writer_index()` is still zero. -/
theorem writeU8_behind :
    ∃ buf, Call.runs [.transfer (.write .named .u8 (1 : UInt8))] .new = some buf ∧
      buf.writerIndex = 0 ∧ buf.data.length = 1 ∧ buf.writerIndex ≠ buf.data.length :=
  ⟨_, rfl, rfl, rfl, by decide⟩

end FinProto
