import FinProto.Bounds
import FinProto.Wire.Ledger

/-! One pass over the input. A decode reads on from where it stands: every subscript it
evaluates is the read position reached so far, so it copies each byte up to its final read
position once and in order, whether it returns or throws. -/
namespace FinProto

open Wire

/-- Where an access leads from a position: a subscript has to be that position, and a copy from
there moves behind what it takes. -/
def Access.follow (position : Nat) : Access → Option Nat
  | .subscript index span => if index = position then some (position + span) else none
  | .sized _ _ => some position

/-- Where accesses lead from a position, one after the other. -/
def follow : List Access → Nat → Option Nat
  | [], position => some position
  | e :: log, position => (e.follow position).bind (follow log)

/-- The positions in `buffer_` an access copies from. An empty read evaluates its subscript and
copies nothing. -/
def Access.copies : Access → List Nat
  | .subscript index span => List.range' index span
  | .sized _ _ => []

def copied (log : List Access) : List Nat := log.flatMap Access.copies

theorem follow_append (front back : List Access) (position : Nat) :
    follow (front ++ back) position = (follow front position).bind (follow back) := by
  induction front generalizing position with
  | nil => rfl
  | cons e front ih =>
    simp only [List.cons_append, follow]
    cases e.follow position with
    | none => rfl
    | some middle => exact ih middle

/-- Accesses that follow each other copy what lies between, once and in order. -/
theorem copied_of_follow {log : List Access} {start stop : Nat}
    (leads : follow log start = some stop) :
    start ≤ stop ∧ copied log = List.range' start (stop - start) := by
  induction log generalizing start with
  | nil =>
    cases leads
    exact ⟨Nat.le_refl _, by rw [Nat.sub_self]; rfl⟩
  | cons e log ih =>
    obtain ⟨middle, first, behind⟩ := Option.bind_eq_some_iff.mp leads
    obtain ⟨onward, rest⟩ := ih behind
    cases e with
    | sized count readable =>
      cases first
      exact ⟨onward, rest⟩
    | subscript index span =>
      obtain ⟨rfl, moved⟩ := Option.ite_none_right_eq_some.mp first
      cases moved
      obtain ⟨n, rfl⟩ := Nat.exists_eq_add_of_le onward
      refine ⟨Nat.le_trans (Nat.le_add_right _ _) onward, ?_⟩
      rw [Nat.add_sub_cancel_left] at rest
      rw [Nat.add_assoc, Nat.add_sub_cancel_left, ← List.range'_append_1, ← rest]
      rfl

/-- A run that reads on from where it stands and leaves the rest alone. -/
structure ByteBuf.PassesTo (buf : ByteBuf) (log : List Access) (after : ByteBuf) : Prop where
  data : after.data = buf.data
  writer : after.writerIndex = buf.writerIndex
  leads : follow log buf.readerIndex = some after.readerIndex

namespace ByteBuf.PassesTo

theorem still (buf : ByteBuf) : buf.PassesTo [] buf := ⟨rfl, rfl, rfl⟩

theorem onward {buf middle after : ByteBuf} {front back : List Access}
    (first : buf.PassesTo front middle) (second : middle.PassesTo back after) :
    buf.PassesTo (front ++ back) after where
  data := second.data.trans first.data
  writer := second.writer.trans first.writer
  leads := by
    rw [follow_append, first.leads]
    exact second.leads

/-- Taking `n` bytes that are there. -/
theorem advance {buf : ByteBuf} {n : Nat} {log : List Access} (room : n ≤ buf.readableBytes)
    (leads : follow log buf.readerIndex = some (buf.readerIndex + n)) :
    buf.PassesTo log (buf.advance n) := by
  have inside := buf.reader_le
  rw [ByteBuf.readableBytes] at room
  have moved : (buf.advance n).readerIndex = buf.readerIndex + n := Nat.min_eq_left (by omega)
  refine ⟨rfl, rfl, ?_⟩
  rw [moved]
  exact leads

end ByteBuf.PassesTo

/-- The account of how a decode reads on. -/
def passes : Ledger ByteBuf Access where
  Accounts := ByteBuf.PassesTo
  still := .still
  onward := .onward

/-! ## The readers -/

theorem accounted_walk {n : Nat} {f : List UInt8 → α} {log : ByteBuf → List Access} {sound}
    (leads : ∀ buf : ByteBuf, follow (log buf) buf.readerIndex = some (buf.readerIndex + n)) :
    Accounted passes (Decoder.walk n f log sound) := by
  apply Accounted.window
  · intro buf room
    rw [← ByteBuf.readableBytes_eq] at room
    rw [ByteBuf.walk, if_neg (Nat.not_lt.mpr room)]
    exact .advance room (leads buf)
  · intro buf missing
    rw [← ByteBuf.readableBytes_eq] at missing
    rw [ByteBuf.walk, if_pos missing]

theorem follow_block (position span : Nat) :
    follow [.subscript position span] position = some (position + span) := by
  simp [follow, Access.follow]

/-- A loop over the bytes of a scalar. -/
theorem follow_bytes (position n : Nat) :
    follow ((List.range' position n).map fun i => .subscript i 1) position =
      some (position + n) := by
  induction n generalizing position with
  | zero => rfl
  | succ n ih =>
    rw [List.range'_succ, List.map_cons, follow, Access.follow, if_pos rfl, Option.bind_some, ih]
    congr 1
    omega

theorem follow_scalarAccesses (T : Type) [Scalar T] (buf : ByteBuf) :
    follow (scalarAccesses T buf) buf.readerIndex =
      some (buf.readerIndex + Scalar.size T) := by
  unfold scalarAccesses
  split
  · exact follow_block _ _
  · rw [← follow_bytes, List.range'_eq_map_range, List.map_map]
    rfl

instance accounted_readBytes (n : Nat) : Accounted passes (readBytes n) :=
  accounted_walk fun _ => follow_block _ _

instance accounted_readLe (T : Type) [Scalar T] : Accounted passes (readLe T) :=
  accounted_walk (follow_scalarAccesses T)

instance accounted_sizeFrom (count : Nat) : Accounted passes (sizeFrom count) :=
  .note fun _ => ⟨rfl, rfl, rfl⟩

/-! ## The decodes -/

theorem Along.accounted {p : Decoder α} {layout : Layout UInt8} (along : Along p layout) :
    Accounted passes p := by
  induction along with
  | pure a => exact .pure a
  | stopped k => exact .stopped unknownType
  | byte f => exact accounted_walk fun _ => follow_block _ _
  | bytes n => exact accounted_readBytes n
  | scalar T => exact accounted_readLe T
  | text T => exact .next fun _ => .next fun _ => accounted_readBytes _
  | list T element ih => exact .next fun _ => .next fun _ => .times _
  | map _ g ih => exact .map g
  | bind _ _ ih ih' => exact .next ih'
  | choose _ _ _ ih ih' => exact .next ih'

/-- However it ends, a decode evaluates each subscript at the read position reached so far and
copies the bytes from its first to its last read position, each once and in order, and
`buffer_` and `writer_index_` are as before. -/
theorem decodes_pass (parse : Parse) (buf : ByteBuf) :
    buf.PassesTo (parse.decode.run buf).log (parse.decode.run buf).state ∧
    buf.readerIndex ≤ (parse.decode.run buf).state.readerIndex ∧
    copied (parse.decode.run buf).log = List.range' buf.readerIndex
      ((parse.decode.run buf).state.readerIndex - buf.readerIndex) := by
  have passed := parse.along.accounted.accounts buf
  exact ⟨passed, copied_of_follow passed.leads⟩

end FinProto
