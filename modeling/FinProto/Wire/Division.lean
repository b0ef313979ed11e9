import Mathlib.Algebra.CharP.Two
import Mathlib.Algebra.Field.ZMod
import Mathlib.Algebra.Polynomial.Div
import Mathlib.Algebra.Polynomial.RingDivision
import Mathlib.Data.List.GetD
import Mathlib.RingTheory.Coprime.Lemmas
import Mathlib.RingTheory.Ideal.Quotient.Basic
import FinProto.Wire.Crc

/-! The CRC register as long division over GF(2). A bit string is a polynomial whose
leading coefficient is its first bit, and so is a reflected register, low bit first; one
shift multiplies by `X` modulo the generator. -/
namespace Wire.Gf2

open Polynomial

/-! ## Bit strings as polynomials -/

def bit (b : Bool) : ZMod 2 := if b then 1 else 0

theorem bit_xor (a b : Bool) : bit (a ^^ b) = bit a + bit b := by
  cases a <;> cases b <;> decide

theorem bit_injective {a b : Bool} (same : bit a = bit b) : a = b := by
  revert same
  cases a <;> cases b <;> decide

noncomputable def ofBits : List Bool → (ZMod 2)[X]
  | [] => 0
  | b :: bits => C (bit b) * X ^ bits.length + ofBits bits

theorem ofBits_append (front back : List Bool) :
    ofBits (front ++ back) = ofBits front * X ^ back.length + ofBits back := by
  induction front with
  | nil => simp [ofBits]
  | cons b front ih =>
    rw [List.cons_append, ofBits, ih, ofBits, List.length_append, pow_add]
    ring

theorem coeff_ofBits (bits : List Bool) (k : Nat) :
    (ofBits bits).coeff k = bit (bits.reverse.getD k false) := by
  induction bits with
  | nil => simp [ofBits, bit]
  | cons b bits ih =>
    rw [ofBits, coeff_add, coeff_C_mul_X_pow, ih, List.reverse_cons]
    rcases Nat.lt_trichotomy k bits.length with before | here | after
    · have inside : k < bits.reverse.length := by rwa [List.length_reverse]
      rw [if_neg (Nat.ne_of_lt before), zero_add, List.getD_append _ _ _ _ inside]
    · subst here
      have past : bits.reverse.length ≤ bits.length := by rw [List.length_reverse]
      rw [if_pos rfl, List.getD_append_right _ _ _ _ past, List.getD_eq_default _ _ past]
      simp [bit]
    · have past : bits.reverse.length ≤ k := by
        rw [List.length_reverse]
        omega
      have last : (bits.reverse ++ [b]).length ≤ k := by
        rw [List.length_append, List.length_reverse, List.length_singleton]
        omega
      rw [if_neg (Nat.ne_of_gt after), zero_add, List.getD_eq_default _ _ past,
        List.getD_eq_default _ _ last]

theorem degree_ofBits_lt (bits : List Bool) : (ofBits bits).degree < bits.length := by
  rw [degree_lt_iff_coeff_zero]
  intro k past
  rw [coeff_ofBits, List.getD_eq_default _ _ (by simpa using past)]
  rfl

theorem ofBits_replicate_false (n : Nat) : ofBits (List.replicate n false) = 0 := by
  induction n with
  | zero => rfl
  | succ n ih => simp [List.replicate_succ, ofBits, ih, bit]

/-- Adding polynomials is the exclusive or of their bit strings. -/
theorem ofBits_zipWith {a b : List Bool} (same : a.length = b.length) :
    ofBits (List.zipWith xor a b) = ofBits a + ofBits b := by
  induction a generalizing b with
  | nil =>
    cases b with
    | nil => simp [ofBits]
    | cons _ _ => cases same
  | cons x a ih =>
    cases b with
    | nil => cases same
    | cons y b =>
      have rest : a.length = b.length := Nat.succ.inj same
      have width : (List.zipWith xor a b).length = b.length := by simp [rest]
      rw [List.zipWith_cons_cons, ofBits, ofBits, ofBits, ih rest, bit_xor, width, rest, C_add]
      ring

/-- Complementing a bit string adds ones everywhere. -/
theorem ofBits_map_not (bits : List Bool) :
    ofBits (bits.map not) = ofBits bits + ofBits (List.replicate bits.length true) := by
  rw [← ofBits_zipWith (by simp)]
  congr 1
  induction bits with
  | nil => rfl
  | cons b bits ih => simp [List.replicate_succ, ih]

theorem eq_false_of_ofBits_eq_zero {bits : List Bool} (zero : ofBits bits = 0) :
    ∀ b ∈ bits, b = false := by
  intro b member
  obtain ⟨k, bound, found⟩ := List.getElem_of_mem (List.mem_reverse.mpr member)
  have coefficient := coeff_ofBits bits k
  rw [zero, coeff_zero, List.getD_eq_getElem _ _ bound, found] at coefficient
  exact (bit_injective (a := false) coefficient).symm

theorem ofBits_eq_zero {bits : List Bool} (none : ∀ i : Nat, bits[i]? ≠ some true) :
    ofBits bits = 0 := by
  have clear : ∀ b ∈ bits, b = false := by
    intro b member
    obtain ⟨i, found⟩ := List.mem_iff_getElem?.mp member
    cases b with
    | false => rfl
    | true => exact absurd found (none i)
  rw [List.eq_replicate_of_mem clear]
  exact ofBits_replicate_false _

/-! ## Registers as polynomials -/

variable {w : Nat}

noncomputable def ofRegister (c : BitVec w) : (ZMod 2)[X] := ofBits ((List.range w).map c.getLsbD)

theorem coeff_ofRegister (c : BitVec w) (k : Nat) :
    (ofRegister c).coeff k = if k < w then bit (c.getLsbD (w - 1 - k)) else 0 := by
  rw [ofRegister, coeff_ofBits]
  split
  · rename_i inside
    have bound : k < ((List.range w).map c.getLsbD).reverse.length := by simpa using inside
    rw [List.getD_eq_getElem _ _ bound, List.getElem_reverse]
    simp
  · rename_i outside
    rw [List.getD_eq_default _ _ (by simpa using outside)]
    rfl

theorem degree_ofRegister_lt (c : BitVec w) : (ofRegister c).degree < w := by
  have bound := degree_ofBits_lt ((List.range w).map c.getLsbD)
  rwa [List.length_map, List.length_range] at bound

theorem ofRegister_xor (a b : BitVec w) : ofRegister (a ^^^ b) = ofRegister a + ofRegister b := by
  ext k
  rw [coeff_add, coeff_ofRegister, coeff_ofRegister, coeff_ofRegister]
  split
  · rw [BitVec.getLsbD_xor, bit_xor]
  · rw [add_zero]

/-- Multiplying by `X` moves the low bit out at the top. -/
theorem X_mul_ofRegister (c : BitVec w) :
    X * ofRegister c = C (bit (c.getLsbD 0)) * X ^ w + ofRegister (c >>> 1) := by
  cases w with
  | zero => simp [ofRegister, ofBits, bit]
  | succ n =>
    have front : (List.range (n + 1)).map c.getLsbD =
        c.getLsbD 0 :: (List.range n).map (fun i => c.getLsbD (i + 1)) := by
      simp [List.range_succ_eq_map]
    have back : (List.range (n + 1)).map (c >>> 1).getLsbD =
        (List.range n).map (fun i => c.getLsbD (i + 1)) ++ [false] := by
      simp [List.range_succ, Nat.add_comm]
    rw [ofRegister, ofRegister, front, back, ofBits, ofBits_append]
    simp only [ofBits, bit, List.length_map, List.length_range, List.length_singleton,
      List.length_nil, Bool.false_eq_true, if_false, map_zero, zero_mul, add_zero]
    ring

/-- A wider register holds the same bits with the leading coefficient in the same place. -/
theorem ofRegister_setWidth {n : Nat} (v : BitVec n) (wider : n ≤ w) :
    ofRegister (v.setWidth w) = ofRegister v * X ^ (w - n) := by
  obtain ⟨m, rfl⟩ := Nat.exists_eq_add_of_le wider
  have split : (List.range (n + m)).map (v.setWidth (n + m)).getLsbD =
      (List.range n).map v.getLsbD ++ List.replicate m false := by
    apply List.ext_getElem
    · simp
    · intro i bound _
      have inside : i < n + m := by simpa using bound
      by_cases low : i < n
      · simp [low, inside]
      · have gone : v.getLsbD i = false := BitVec.getLsbD_of_ge _ _ (Nat.le_of_not_lt low)
        simp [List.getElem_append, low, inside, gone]
  rw [ofRegister, split, ofBits_append, ofBits_replicate_false, List.length_replicate,
    Nat.add_sub_cancel_left, add_zero, ofRegister]

theorem ofRegister_allOnes : ofRegister (BitVec.allOnes w) = ofBits (List.replicate w true) := by
  have ones : (List.range w).map (BitVec.allOnes w).getLsbD = List.replicate w true := by
    apply List.ext_getElem
    · simp
    · intro i bound _
      simpa using bound
  rw [ofRegister, ones]

/-! ## Shifting is multiplying modulo the generator -/

/-- The monic polynomial whose lower coefficients a reflected constant holds. -/
noncomputable def generator (poly : BitVec w) : (ZMod 2)[X] := X ^ w + ofRegister poly

theorem generator_monic (poly : BitVec w) : (generator poly).Monic :=
  monic_X_pow_add (degree_ofRegister_lt poly)

theorem degree_generator (poly : BitVec w) : (generator poly).degree = w := by
  rw [generator, degree_add_eq_left_of_degree_lt]
  · exact degree_X_pow w
  · rw [degree_X_pow]
    exact degree_ofRegister_lt poly

theorem ofRegister_shift (poly c : BitVec w) :
    ofRegister (Crc.shift poly c) = X * ofRegister c + C (bit (c.getLsbD 0)) * generator poly := by
  have cancel : ∀ p q : (ZMod 2)[X], p + q + p = q := by
    intro p q
    rw [add_right_comm, CharTwo.add_self_eq_zero, zero_add]
  rw [X_mul_ofRegister, Crc.shift, generator]
  cases c.getLsbD 0 with
  | false => simp [bit]
  | true =>
    simp only [bit, if_true, map_one, one_mul, ofRegister_xor]
    rw [← add_assoc, cancel]

/-- Polynomials up to multiples of a divisor. -/
noncomputable def residue (g : (ZMod 2)[X]) : (ZMod 2)[X] →+* (ZMod 2)[X] ⧸ Ideal.span {g} :=
  Ideal.Quotient.mk (Ideal.span {g})

theorem residue_eq_iff {g p q : (ZMod 2)[X]} : residue g p = residue g q ↔ g ∣ p - q := by
  rw [residue, Ideal.Quotient.mk_eq_mk_iff_sub_mem, Ideal.mem_span_singleton]

theorem residue_self (g : (ZMod 2)[X]) : residue g g = 0 :=
  Ideal.Quotient.eq_zero_iff_mem.mpr (Ideal.mem_span_singleton_self g)

theorem residue_shifts (poly c : BitVec w) (n : Nat) :
    residue (generator poly) (ofRegister (Crc.shifts poly n c)) =
      residue (generator poly) (X ^ n * ofRegister c) := by
  induction n generalizing c with
  | zero => rw [Crc.shifts, pow_zero, one_mul]
  | succ n ih =>
    rw [Crc.shifts, ih, map_mul, ofRegister_shift, map_add, map_mul, map_mul, map_mul, residue_self,
      mul_zero, add_zero, ← map_mul, ← map_mul, ← map_mul]
    refine congrArg (residue (generator poly)) ?_
    ring

/-! ## The bits of a message -/

/-- The bits of a byte, least significant first. -/
def byteBits (byte : UInt8) : List Bool := (List.range 8).map byte.toBitVec.getLsbD

def messageBits (bytes : List UInt8) : List Bool := bytes.flatMap byteBits

@[simp] theorem length_messageBits (bytes : List UInt8) :
    (messageBits bytes).length = 8 * bytes.length := by
  simp [messageBits, byteBits, Nat.mul_comm]

theorem ofBits_messageBits_cons (byte : UInt8) (bytes : List UInt8) :
    ofBits (messageBits (byte :: bytes)) =
      ofRegister byte.toBitVec * X ^ (8 * bytes.length) + ofBits (messageBits bytes) := by
  rw [messageBits, List.flatMap_cons, ← messageBits, ofBits_append, length_messageBits]
  rfl

/-- Taking in bytes moves the register up and adds the message above it. -/
theorem residue_run (poly c : BitVec w) (wide : 8 ≤ w) (bytes : List UInt8) :
    residue (generator poly) (ofRegister (Crc.run poly c bytes)) =
      residue (generator poly)
        (X ^ (8 * bytes.length) * ofRegister c + X ^ w * ofBits (messageBits bytes)) := by
  induction bytes generalizing c with
  | nil => simp [Crc.run, messageBits, ofBits]
  | cons byte bytes ih =>
    have top : (X : (ZMod 2)[X]) ^ w = X ^ 8 * X ^ (w - 8) := by
      rw [← pow_add, Nat.add_sub_cancel' wide]
    have taken : residue (generator poly) (ofRegister (Crc.absorb poly c byte)) =
        residue (generator poly) (X ^ 8 * ofRegister c + X ^ w * ofRegister byte.toBitVec) := by
      rw [Crc.absorb, residue_shifts, ofRegister_xor, ofRegister_setWidth _ wide, top]
      refine congrArg (residue (generator poly)) ?_
      ring
    rw [Crc.run, List.foldl_cons, ← Crc.run, ih, map_add, map_mul, taken, ← map_mul, ← map_add,
      ofBits_messageBits_cons, List.length_cons, Nat.mul_succ, pow_add]
    refine congrArg (residue (generator poly)) ?_
    ring

theorem messageBits_injective {a b : List UInt8} (same : messageBits a = messageBits b) :
    a = b := by
  induction a generalizing b with
  | nil =>
    have empty := congrArg List.length same
    rw [length_messageBits, length_messageBits, List.length_nil] at empty
    exact (List.eq_nil_of_length_eq_zero (by omega)).symm
  | cons x a ih =>
    cases b with
    | nil =>
      have empty := congrArg List.length same
      rw [length_messageBits, length_messageBits, List.length_nil, List.length_cons] at empty
      omega
    | cons y b =>
      have bits : byteBits x = byteBits y ∧ messageBits a = messageBits b :=
        List.append_inj same (by simp [byteBits])
      have byte : x = y := by
        apply UInt8.toBitVec_inj.mp
        apply BitVec.eq_of_getLsbD_eq
        intro i bound
        exact List.map_inj_left.mp bits.1 i (List.mem_range.mpr bound)
      rw [byte, ih bits.2]

/-! ## The remainder -/

/-- The dividend of a CRC: the message followed by `w` zeros, its first `w` bits
complemented. -/
def dividend (w : Nat) (bits : List Bool) : List Bool :=
  ((bits ++ List.replicate w false).take w).map not ++ (bits ++ List.replicate w false).drop w

theorem ofBits_dividend (bits : List Bool) :
    ofBits (dividend w bits) =
      X ^ bits.length * ofBits (List.replicate w true) + X ^ w * ofBits bits := by
  have front : ((bits ++ List.replicate w false).take w).length = w := by simp
  have back : ((bits ++ List.replicate w false).drop w).length = bits.length := by simp
  have whole := ofBits_append ((bits ++ List.replicate w false).take w)
    ((bits ++ List.replicate w false).drop w)
  rw [List.take_append_drop, ofBits_append, ofBits_replicate_false, List.length_replicate, back,
    add_zero] at whole
  rw [dividend, ofBits_append, ofBits_map_not, front, back, add_mul, add_right_comm, ← whole]
  ring

/-- The register started with ones ends as the remainder of the dividend. -/
theorem ofRegister_run (poly : BitVec w) (wide : 8 ≤ w) (bytes : List UInt8) :
    ofRegister (Crc.run poly (BitVec.allOnes w) bytes) =
      ofBits (dividend w (messageBits bytes)) %ₘ generator poly := by
  have same := residue_run poly (BitVec.allOnes w) wide bytes
  rw [ofRegister_allOnes, ← length_messageBits, ← ofBits_dividend, residue_eq_iff] at same
  have reduced : ofRegister (Crc.run poly (BitVec.allOnes w) bytes) %ₘ generator poly =
      ofRegister (Crc.run poly (BitVec.allOnes w) bytes) := by
    rw [modByMonic_eq_self_iff (generator_monic poly), degree_generator]
    exact degree_ofRegister_lt _
  rw [← reduced]
  exact modByMonic_eq_of_dvd_sub (generator_monic poly) same

/-- The lower `w` coefficients of a polynomial as a word. -/
noncomputable def word (w : Nat) (p : (ZMod 2)[X]) : BitVec w :=
  (BitVec.ofBoolListLE ((List.range w).map (fun i => decide (p.coeff i = 1)))).setWidth w

/-- A register is the word of its polynomial, reversed. -/
theorem reverse_word_ofRegister (c : BitVec w) : (word w (ofRegister c)).reverse = c := by
  apply BitVec.eq_of_getLsbD_eq
  intro i bound
  have one : ∀ b : Bool, decide (bit b = 1) = b := by decide
  have mirror : w - 1 - (w - 1 - i) = i := by omega
  have inside : w - 1 - i < w := by omega
  rw [BitVec.getLsbD_reverse, BitVec.getMsbD_eq_getLsbD, word, BitVec.getLsbD_setWidth,
    BitVec.getLsbD_ofBoolListLE]
  simp [bound, inside, coeff_ofRegister, one, mirror]

/-! ## Bursts -/

theorem isCoprime_X {g : (ZMod 2)[X]} (unit : g.coeff 0 = 1) : IsCoprime g X := by
  refine ⟨1, - g.divX, ?_⟩
  have split := divX_mul_X_add g
  rw [unit, map_one] at split
  nth_rewrite 1 [← split]
  ring

/-- A divisor with a constant term divides no shifted bit string whose ones lie in a window
narrower than its degree, unless there are none. -/
theorem eq_false_of_dvd {g : (ZMod 2)[X]} (unit : g.coeff 0 = 1) (degree : g.degree = w)
    {bits : List Bool} {k m : Nat}
    (window : ∀ i, bits[i]? = some true → k ≤ i ∧ i < k + w) (divides : g ∣ X ^ m * ofBits bits) :
    ∀ b ∈ bits, b = false := by
  have front : ofBits (bits.take k) = 0 := by
    apply ofBits_eq_zero
    intro i one
    rw [List.getElem?_take] at one
    split at one
    · have position := window i one
      omega
    · cases one
  have back : ofBits ((bits.drop k).drop w) = 0 := by
    apply ofBits_eq_zero
    intro i one
    rw [List.getElem?_drop, List.getElem?_drop] at one
    have position := window _ one
    omega
  have middle : ofBits bits =
      X ^ ((bits.drop k).drop w).length * ofBits ((bits.drop k).take w) := by
    have outer := ofBits_append (bits.take k) (bits.drop k)
    have inner := ofBits_append ((bits.drop k).take w) ((bits.drop k).drop w)
    rw [List.take_append_drop] at outer inner
    rw [outer, front, inner, back, zero_mul, zero_add, add_zero, mul_comm]
  rw [middle, ← mul_assoc, ← pow_add] at divides
  have coprime : IsCoprime g (X ^ (m + ((bits.drop k).drop w).length)) :=
    IsCoprime.pow_right (isCoprime_X unit)
  have short : (ofBits ((bits.drop k).take w)).degree < g.degree := by
    rw [degree]
    exact lt_of_lt_of_le (degree_ofBits_lt _) (by simp)
  have none : ofBits ((bits.drop k).take w) = 0 :=
    eq_zero_of_dvd_of_degree_lt (coprime.dvd_of_dvd_mul_left divides) short
  apply eq_false_of_ofBits_eq_zero
  rw [middle, none, mul_zero]

theorem generator_coeff_zero {poly : BitVec w} (top : poly.getLsbD (w - 1) = true) :
    (generator poly).coeff 0 = 1 := by
  have positive := Crc.width_pos top
  rw [generator, coeff_add, coeff_X_pow, if_neg (Nat.ne_of_lt positive), zero_add,
    coeff_ofRegister, if_pos positive, Nat.sub_zero, top]
  rfl

/-- Where two messages differ by a burst no longer than the register, so do their registers. -/
theorem run_ne_of_burst {poly : BitVec w} (top : poly.getLsbD (w - 1) = true) (wide : 8 ≤ w)
    (c : BitVec w) {a b : List UInt8} {k : Nat} (length : a.length = b.length) (differ : a ≠ b)
    (window : ∀ i, (messageBits a)[i]? ≠ (messageBits b)[i]? → k ≤ i ∧ i < k + w) :
    Crc.run poly c a ≠ Crc.run poly c b := by
  intro same
  have widths : (messageBits a).length = (messageBits b).length := by
    rw [length_messageBits, length_messageBits, length]
  have divides :
      generator poly ∣ X ^ w * ofBits (List.zipWith xor (messageBits a) (messageBits b)) := by
    have residues := residue_run poly c wide a
    rw [same, residue_run poly c wide b, residue_eq_iff, length] at residues
    rw [ofBits_zipWith widths, ← CharTwo.sub_eq_add, ← dvd_neg]
    convert residues using 1
    ring
  have burst : ∀ i, (List.zipWith xor (messageBits a) (messageBits b))[i]? = some true →
      k ≤ i ∧ i < k + w := by
    intro i differs
    apply window i
    intro equal
    obtain ⟨x, y, left, right, odd⟩ := List.getElem?_zipWith_eq_some.mp differs
    rw [left, right] at equal
    cases equal
    rw [Bool.xor_self] at odd
    cases odd
  have none := eq_false_of_dvd (generator_coeff_zero top) (degree_generator poly) burst divides
  apply differ
  apply messageBits_injective
  apply List.ext_getElem widths
  intro i left right
  have inside : i < (List.zipWith xor (messageBits a) (messageBits b)).length := by
    rw [List.length_zipWith]
    omega
  have bit := none _ (List.getElem_mem inside)
  rw [List.getElem_zipWith] at bit
  exact bne_eq_false_iff_eq.mp bit

end Wire.Gf2
