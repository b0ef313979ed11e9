import Mathlib.Data.List.TakeWhile

/-! Fixed-width strings: extending to a width with a pad symbol on one side and
stripping that symbol again. -/
namespace Wire

variable {α : Type} [DecidableEq α] {pad : α} {left : Bool} {n : Nat}

/-- Remove every pad symbol from one end. -/
def strip (pad : α) (left : Bool) (s : List α) : List α :=
  if left then s.dropWhile (· == pad) else (s.reverse.dropWhile (· == pad)).reverse

/-- Pad a string up to `n` symbols on one end. -/
def extend (n : Nat) (pad : α) (left : Bool) (s : List α) : List α :=
  if left then List.replicate (n - s.length) pad ++ s else s ++ List.replicate (n - s.length) pad

/-- The window a string occupies: its first `n` symbols, padded. -/
def padTo (n : Nat) (pad : α) (left : Bool) (s : List α) : List α := extend n pad left (s.take n)

/-- What survives a window: the first `n` symbols without padding. -/
def cut (n : Nat) (pad : α) (left : Bool) (s : List α) : List α := strip pad left (s.take n)

theorem dropWhile_replicate_append (k : Nat) (s : List α) :
    (List.replicate k pad ++ s).dropWhile (· == pad) = s.dropWhile (· == pad) := by
  induction k with
  | zero => rfl
  | succ k ih => simp [List.replicate_succ, ih]

/-- The dropped prefix can be restored from its length alone. -/
theorem replicate_append_dropWhile (pad : α) (s : List α) :
    List.replicate (s.length - (s.dropWhile (· == pad)).length) pad ++ s.dropWhile (· == pad) = s := by
  induction s with
  | nil => rfl
  | cons head tail ih =>
    by_cases same : head = pad
    · subst head
      have shorter := (List.dropWhile_sublist (l := tail) (· == pad)).length_le
      have count : tail.length + 1 - (tail.dropWhile (· == pad)).length =
          tail.length - (tail.dropWhile (· == pad)).length + 1 := by omega
      simpa [count, List.replicate_succ] using ih
    · simp [same]

theorem strip_length_le (s : List α) : (strip pad left s).length ≤ s.length := by
  unfold strip
  split
  · exact (List.dropWhile_sublist _).length_le
  · simpa using (List.dropWhile_sublist (l := s.reverse) (· == pad)).length_le

/-- Padding does not change what stripping returns. -/
theorem strip_extend (s : List α) : strip pad left (extend n pad left s) = strip pad left s := by
  cases left with
  | true => simp [strip, extend]
  | false =>
    simp only [strip, extend, Bool.false_eq_true, ↓reduceIte, List.reverse_append,
      List.reverse_replicate, dropWhile_replicate_append]

/-- Padding restores every window from its stripped contents. -/
theorem extend_strip {s : List α} (width : s.length = n) :
    extend n pad left (strip pad left s) = s := by
  subst width
  cases left with
  | true => simpa [strip, extend] using replicate_append_dropWhile pad s
  | false =>
    have restored := congrArg List.reverse (replicate_append_dropWhile pad s.reverse)
    simpa [strip, extend] using restored

theorem strip_strip (s : List α) : strip pad left (strip pad left s) = strip pad left s := by
  have again : strip pad left (extend s.length pad left (strip pad left s)) =
      strip pad left (strip pad left s) := strip_extend _
  rwa [extend_strip rfl, eq_comm] at again

omit [DecidableEq α] in
@[simp] theorem length_padTo (s : List α) : (padTo n pad left s).length = n := by
  unfold padTo extend
  split
  · rw [List.length_append, List.length_replicate, List.length_take]
    omega
  · rw [List.length_append, List.length_replicate, List.length_take]
    omega

theorem cut_length_le (s : List α) : (cut n pad left s).length ≤ n :=
  Nat.le_trans (strip_length_le _) (List.length_take_le n s)

theorem strip_padTo (s : List α) : strip pad left (padTo n pad left s) = cut n pad left s :=
  strip_extend _

@[simp] theorem padTo_cut (s : List α) :
    padTo n pad left (cut n pad left s) = padTo n pad left s := by
  rw [padTo, List.take_of_length_le (cut_length_le s), ← strip_padTo, extend_strip (length_padTo s)]

@[simp] theorem cut_cut (s : List α) : cut n pad left (cut n pad left s) = cut n pad left s := by
  rw [cut, List.take_of_length_le (cut_length_le s), cut, strip_strip]

theorem padTo_strip {s : List α} (width : s.length = n) :
    padTo n pad left (strip pad left s) = s := by
  have bound : (strip pad left s).length ≤ n := by
    rw [← width]
    exact strip_length_le s
  rw [padTo, List.take_of_length_le bound, extend_strip width]

theorem cut_strip {s : List α} (width : s.length = n) :
    cut n pad left (strip pad left s) = strip pad left s := by
  rw [← strip_padTo, padTo_strip width]

/-! ## The strings a window keeps -/

/-- No pad symbol stands at the padded end. -/
def Unpadded (pad : α) (left : Bool) (s : List α) : Prop :=
  (if left then s.head? else s.getLast?) ≠ some pad

theorem head?_dropWhile_ne (pad : α) (s : List α) :
    (s.dropWhile (· == pad)).head? ≠ some pad := by
  intro same
  have first := List.head?_dropWhile_not (· == pad) s
  rw [same] at first
  simp at first

theorem dropWhile_eq_self_of_ne {s : List α} (other : s.head? ≠ some pad) :
    s.dropWhile (· == pad) = s := by
  cases s with
  | nil => rfl
  | cons head tail =>
    have differ : head ≠ pad := fun same => other (congrArg some same)
    simp [differ]

theorem unpadded_strip (pad : α) (left : Bool) (s : List α) :
    Unpadded pad left (strip pad left s) := by
  cases left with
  | true => exact head?_dropWhile_ne pad s
  | false =>
    change (s.reverse.dropWhile (· == pad)).reverse.getLast? ≠ some pad
    rw [List.getLast?_reverse]
    exact head?_dropWhile_ne pad s.reverse

theorem strip_eq_self_iff {s : List α} : strip pad left s = s ↔ Unpadded pad left s := by
  constructor
  · intro settled
    rw [← settled]
    exact unpadded_strip pad left s
  · intro unpadded
    cases left with
    | true => exact dropWhile_eq_self_of_ne unpadded
    | false =>
      have mirrored : s.reverse.head? ≠ some pad := by
        rw [List.head?_reverse]
        exact unpadded
      exact (congrArg List.reverse (dropWhile_eq_self_of_ne mirrored)).trans s.reverse_reverse

theorem strip_eq_nil_iff {s : List α} : strip pad left s = [] ↔ ∀ a ∈ s, a = pad := by
  cases left with
  | true => simp [strip, List.dropWhile_eq_nil_iff]
  | false => simp [strip, List.dropWhile_eq_nil_iff]

/-- A window keeps the strings that fit it and are not padded already. -/
theorem cut_eq_self_iff {s : List α} :
    cut n pad left s = s ↔ s.length ≤ n ∧ Unpadded pad left s := by
  constructor
  · intro settled
    have short : s.length ≤ n := settled ▸ cut_length_le s
    rw [cut, List.take_of_length_le short, strip_eq_self_iff] at settled
    exact ⟨short, settled⟩
  · intro kept
    obtain ⟨short, unpadded⟩ := kept
    rw [cut, List.take_of_length_le short, strip_eq_self_iff.mpr unpadded]

end Wire
