import Mathlib.Data.Set.Function
import FinProto.CodecLaws

/-! Fixed-width strings: the windows of a field and the strings it keeps are in bijection,
by `write_fixed_string` one way and `read_fixed_string` the other. -/
namespace FinProto

open Wire

/-- The strings a field of `n` bytes keeps: they fit it, and no pad byte stands at the padded
end. -/
def keptStrings (n : Nat) (padChar : UInt8) (padLeft : Bool) : Set Bytes :=
  {s | s.length ≤ n ∧ Unpadded padChar padLeft s}

/-- What `write_fixed_string` and `read_fixed_string` of one width, pad byte and side do. -/
structure FixedWidth (n : Nat) (padChar : UInt8) (padLeft : Bool) : Prop where
  appends : ∀ (s : Bytes) (buf : ByteBuf),
    (writeFixedStringPad s n padChar padLeft).bytes.length = n ∧
      ((writeFixedStringPad s n padChar padLeft).run buf).data =
        buf.data ++ (writeFixedStringPad s n padChar padLeft).bytes
  returns : ∀ (s : Bytes) (buf : ByteBuf) (t : Bytes),
    unread buf = (writeFixedStringPad s n padChar padLeft).bytes ++ t →
      ((readFixedStringPad n padChar padLeft).run buf).value =
        .ok (strip padChar padLeft (s.take n)) ∧
      ((readFixedStringPad n padChar padLeft).run buf).state = advance buf n ∧
      unread ((readFixedStringPad n padChar padLeft).run buf).state = t
  blank : ∀ s : Bytes, strip padChar padLeft (s.take n) = [] ↔ ∀ byte ∈ s.take n, byte = padChar
  restores : ∀ (window : Bytes) (buf : ByteBuf) (t : Bytes), window.length = n →
    unread buf = window ++ t → ∃ s ∈ keptStrings n padChar padLeft,
      ((readFixedStringPad n padChar padLeft).run buf).value = .ok s ∧
      ((readFixedStringPad n padChar padLeft).run buf).state = advance buf n ∧
      (writeFixedStringPad s n padChar padLeft).bytes = window
  keeps : ∀ s ∈ keptStrings n padChar padLeft, strip padChar padLeft (s.take n) = s
  bijective : Set.BijOn (fun s => (writeFixedStringPad s n padChar padLeft).bytes)
    (keptStrings n padChar padLeft) {window | window.length = n}

variable {n : Nat} {padChar : UInt8} {padLeft : Bool}

theorem length_writeFixedStringPad (s : Bytes) :
    (writeFixedStringPad s n padChar padLeft).bytes.length = n := by
  rw [bytes_writeFixedStringPad, length_padTo]

/-- Reading what was written, whatever follows it. -/
theorem readFixedStringPad_written {s t : Bytes} {buf : ByteBuf}
    (written : unread buf = (writeFixedStringPad s n padChar padLeft).bytes ++ t) :
    ((readFixedStringPad n padChar padLeft).run buf).value = .ok (cut n padChar padLeft s) ∧
      ((readFixedStringPad n padChar padLeft).run buf).state = advance buf n ∧
      unread ((readFixedStringPad n padChar padLeft).run buf).state = t := by
  have reads := (roundTrip_fixedStringPad n padChar padLeft).reads (a := s) trivial
  obtain ⟨value, state⟩ := reads.accepts buf t written
  rw [length_writeFixedStringPad] at state
  refine ⟨value, state, ?_⟩
  rw [state, Cursor.unread_advance, written]
  exact List.drop_left' (length_writeFixedStringPad s)

/-- A window is what writing the string read from it appends. -/
theorem writeFixedStringPad_strip {window : Bytes} (width : window.length = n) :
    (writeFixedStringPad (strip padChar padLeft window) n padChar padLeft).bytes = window := by
  rw [bytes_writeFixedStringPad, padTo_strip width]

variable (n padChar padLeft)

theorem bijOn_writeFixedStringPad :
    Set.BijOn (fun s => (writeFixedStringPad s n padChar padLeft).bytes)
      (keptStrings n padChar padLeft) {window | window.length = n} := by
  have inverse : Set.InvOn (strip padChar padLeft)
      (fun s => (writeFixedStringPad s n padChar padLeft).bytes)
      (keptStrings n padChar padLeft) {window | window.length = n} := by
    constructor
    · intro s kept
      change strip padChar padLeft (writeFixedStringPad s n padChar padLeft).bytes = s
      rw [bytes_writeFixedStringPad, strip_padTo, cut_eq_self_iff.mpr kept]
    · intro window width
      exact writeFixedStringPad_strip width
  apply inverse.bijOn
  · intro s _
    exact length_writeFixedStringPad s
  · intro window width
    exact cut_eq_self_iff.mp (cut_strip width)

/-- For every width, pad byte and side, writing and reading are inverse to each other on the
strings kept, and reading restores the kept part of any string. -/
theorem fixedWidth : FixedWidth n padChar padLeft where
  appends s buf :=
    ⟨length_writeFixedStringPad s, (writeFixedStringPad s n padChar padLeft).buffer_run buf⟩
  returns _ _ _ written := readFixedStringPad_written written
  blank _ := strip_eq_nil_iff
  restores window buf t width here := by
    have written : (writeFixedStringPad (strip padChar padLeft window) n padChar padLeft).bytes =
        window := writeFixedStringPad_strip width
    obtain ⟨value, state, _⟩ := readFixedStringPad_written (here.trans (by rw [written]))
    rw [cut_strip width] at value
    exact ⟨_, cut_eq_self_iff.mp (cut_strip width), value, state, written⟩
  keeps _ kept := cut_eq_self_iff.mpr kept
  bijective := bijOn_writeFixedStringPad n padChar padLeft

end FinProto
