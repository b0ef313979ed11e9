import Mathlib.Algebra.Polynomial.Eval.Degree
import Mathlib.Data.Nat.Prime.Basic
import Mathlib.GroupTheory.OrderOfElement
import FinProto.Wire.Division
import FinProto.Wire.LittleEndian

/-! What a CRC register shows of a change to a message. Two registers are equal exactly where
the generator divides the difference of the messages, so an odd number of changed bits shows
where `X + 1` divides the generator, and two changed bits show unless the order of `X` divides
their distance. The order is found by squaring. -/
namespace Wire.Gf2

open Polynomial

variable {w : Nat}

/-! ## Registers and residues -/

theorem ofRegister_injective {a b : BitVec w} (same : ofRegister a = ofRegister b) : a = b := by
  rw [← reverse_word_ofRegister a, same, reverse_word_ofRegister]

/-- No two registers leave the same residue. -/
theorem eq_of_residue {poly a b : BitVec w}
    (same : residue (generator poly) (ofRegister a) = residue (generator poly) (ofRegister b)) :
    a = b := by
  rw [residue_eq_iff] at same
  have short : (ofRegister a - ofRegister b).degree < (generator poly).degree := by
    rw [degree_generator]
    exact (degree_sub_le _ _).trans_lt (max_lt (degree_ofRegister_lt a) (degree_ofRegister_lt b))
  exact ofRegister_injective (sub_eq_zero.mp (eq_zero_of_dvd_of_degree_lt same short))

/-! ## Differences -/

/-- Where two messages of one length differ, bit by bit. -/
def difference (a b : List UInt8) : List Bool := List.zipWith xor (messageBits a) (messageBits b)

theorem length_difference {a b : List UInt8} (length : a.length = b.length) :
    (difference a b).length = 8 * b.length := by
  simp [difference, length]

theorem ofBits_difference {a b : List UInt8} (length : a.length = b.length) :
    ofBits (difference a b) = ofBits (messageBits a) - ofBits (messageBits b) := by
  rw [difference, ofBits_zipWith (by simp [length]), CharTwo.sub_eq_add]

section
variable {poly : BitVec w} (top : poly.getLsbD (w - 1) = true)
include top

theorem dvd_X_pow_mul_iff (m : Nat) (p : (ZMod 2)[X]) :
    generator poly ∣ X ^ m * p ↔ generator poly ∣ p := by
  have coprime : IsCoprime (generator poly) (X ^ m) :=
    IsCoprime.pow_right (isCoprime_X (generator_coeff_zero top))
  exact ⟨coprime.dvd_of_dvd_mul_left, fun divides => divides.mul_left _⟩

/-- A change goes unseen exactly where the generator divides it. -/
theorem run_eq_iff (wide : 8 ≤ w) (c : BitVec w) {a b : List UInt8}
    (length : a.length = b.length) :
    Crc.run poly c a = Crc.run poly c b ↔ generator poly ∣ ofBits (difference a b) := by
  have residues : Crc.run poly c a = Crc.run poly c b ↔
      residue (generator poly) (ofRegister (Crc.run poly c a)) =
        residue (generator poly) (ofRegister (Crc.run poly c b)) :=
    ⟨fun same => by rw [same], eq_of_residue⟩
  rw [residues, residue_run poly c wide, residue_run poly c wide, residue_eq_iff, length,
    add_sub_add_left_eq_sub, ← mul_sub, dvd_X_pow_mul_iff top, ofBits_difference length]

end

/-! ## Bursts -/

/-- Some bit is set, and none outside a window of so many bits. -/
def Burst (width : Nat) (bits : List Bool) : Prop :=
  true ∈ bits ∧ ∃ k, ∀ i, bits[i]? = some true → k ≤ i ∧ i < k + width

/-- A change inside a window as wide as the register is seen. -/
theorem run_ne_of_difference {poly : BitVec w} (top : poly.getLsbD (w - 1) = true) (wide : 8 ≤ w)
    (c : BitVec w) {a b : List UInt8} (length : a.length = b.length)
    (burst : Burst w (difference a b)) : Crc.run poly c a ≠ Crc.run poly c b := by
  intro same
  obtain ⟨set, k, window⟩ := burst
  have divides : generator poly ∣ X ^ 0 * ofBits (difference a b) := by
    rw [pow_zero, one_mul]
    exact (run_eq_iff top wide c length).mp same
  have none := eq_false_of_dvd (generator_coeff_zero top) (degree_generator poly) window divides
  cases none true set

/-! ## An odd number of bits -/

theorem eval_ofBits (bits : List Bool) : (ofBits bits).eval 1 = (bits.count true : ZMod 2) := by
  induction bits with
  | nil => simp [ofBits]
  | cons b bits ih => cases b <;> simp [ofBits, ih, bit, add_comm]

theorem eval_generator (poly : BitVec w) :
    (generator poly).eval 1 = 1 + (((List.range w).map poly.getLsbD).count true : ZMod 2) := by
  rw [generator, eval_add, eval_pow, eval_X, one_pow, ofRegister, eval_ofBits]

/-- A generator with an even number of terms sees every change of an odd number of bits. -/
theorem run_ne_of_odd {poly : BitVec w} (top : poly.getLsbD (w - 1) = true) (wide : 8 ≤ w)
    (even : Odd (((List.range w).map poly.getLsbD).count true)) (c : BitVec w) {a b : List UInt8}
    (length : a.length = b.length) (odd : Odd ((difference a b).count true)) :
    Crc.run poly c a ≠ Crc.run poly c b := by
  intro same
  obtain ⟨quotient, product⟩ := (run_eq_iff top wide c length).mp same
  have root : (generator poly).eval 1 = 0 := by
    rw [eval_generator, (ZMod.natCast_eq_one_iff_odd).mpr even]
    decide
  have none := congrArg (eval 1) product
  rw [eval_mul, root, zero_mul, eval_ofBits, (ZMod.natCast_eq_one_iff_odd).mpr odd] at none
  exact one_ne_zero none

/-! ## Two bits -/

/-- These two bits are set and no others. -/
def Pair (i j : Nat) (bits : List Bool) : Prop :=
  i < j ∧ ∀ k, bits[k]? = some true ↔ k = i ∨ k = j

theorem Pair.inside {bits : List Bool} {i j : Nat} (pair : Pair i j bits) : j < bits.length := by
  obtain ⟨bound, _⟩ := List.getElem?_eq_some_iff.mp ((pair.2 j).mpr (.inr rfl))
  exact bound

theorem ofBits_pair {bits : List Bool} {i j : Nat} (pair : Pair i j bits) :
    ofBits bits = X ^ (bits.length - 1 - j) * (X ^ (j - i) + 1) := by
  have inside := pair.inside
  obtain ⟨before, ones⟩ := pair
  have apart : bits.length - 1 - j + (j - i) = bits.length - 1 - i := by omega
  ext k
  rw [mul_add, mul_one, ← pow_add, apart, coeff_add, coeff_X_pow, coeff_X_pow, coeff_ofBits]
  by_cases past : bits.length ≤ k
  · rw [List.getD_eq_default _ _ (by simpa using past), if_neg (by omega), if_neg (by omega)]
    rfl
  · have mirror : bits.reverse.getD k false = true ↔
        bits.length - 1 - k = i ∨ bits.length - 1 - k = j := by
      have bound : k < bits.length := Nat.lt_of_not_le past
      rw [← ones, List.getD_eq_getElem?_getD, List.getElem?_reverse bound]
      cases bits[bits.length - 1 - k]? <;> simp
    by_cases first : k = bits.length - 1 - i
    · have one : bits.reverse.getD k false = true := mirror.mpr (.inl (by omega))
      rw [one, if_pos first, if_neg (by omega)]
      rfl
    · by_cases second : k = bits.length - 1 - j
      · have one : bits.reverse.getD k false = true := mirror.mpr (.inr (by omega))
        rw [one, if_neg first, if_pos second]
        rfl
      · have zero : bits.reverse.getD k false = false := by
          rw [← Bool.not_eq_true, mirror]
          omega
        rw [zero, if_neg first, if_neg second]
        rfl

/-- Two changed bits go unseen exactly where the order of `X` divides their distance. -/
theorem run_eq_iff_of_pair {poly : BitVec w} (top : poly.getLsbD (w - 1) = true) (wide : 8 ≤ w)
    (c : BitVec w) {a b : List UInt8} {i j : Nat} (length : a.length = b.length)
    (pair : Pair i j (difference a b)) :
    Crc.run poly c a = Crc.run poly c b ↔ orderOf (residue (generator poly) X) ∣ j - i := by
  rw [run_eq_iff top wide c length, ofBits_pair pair, dvd_X_pow_mul_iff top,
    orderOf_dvd_iff_pow_eq_one, ← CharTwo.sub_eq_add, ← residue_eq_iff, map_pow, map_one]

/-! ## How far apart -/

theorem mem_difference {a b : List UInt8} (length : a.length = b.length) (differ : a ≠ b) :
    true ∈ difference a b := by
  by_contra none
  apply differ
  apply messageBits_injective
  apply List.ext_getElem (by simp [length])
  intro i left right
  have inside : i < (difference a b).length := by
    rw [length_difference length]
    simpa using right
  have clear : (difference a b)[i] = false := by
    rw [← Bool.not_eq_true]
    intro set
    exact none (set ▸ List.getElem_mem inside)
  simp only [difference, List.getElem_zipWith] at clear
  exact bne_eq_false_iff_eq.mp clear

theorem getElem?_split (front back : List Bool) (unset : true ∉ front) (k : Nat) :
    (front ++ true :: back)[k]? = some true ↔
      k = front.length ∨ ∃ i, back[i]? = some true ∧ k = front.length + 1 + i := by
  rw [List.getElem?_append]
  split
  · rename_i before
    constructor
    · intro found
      exact absurd (List.mem_of_getElem? found) unset
    · rintro (here | ⟨i, _, later⟩) <;> omega
  · rename_i past
    obtain ⟨i, rfl⟩ := Nat.exists_eq_add_of_le (Nat.le_of_not_lt past)
    rw [Nat.add_sub_cancel_left]
    cases i with
    | zero => simp
    | succ i =>
      rw [List.getElem?_cons_succ]
      constructor
      · intro found
        exact .inr ⟨i, found, by omega⟩
      · rintro (here | ⟨l, found, later⟩)
        · omega
        · have same : i = l := by omega
          rwa [same]

theorem burst_of_count {bits : List Bool} (one : bits.count true = 1) (positive : 0 < w) :
    Burst w bits := by
  have set : true ∈ bits := List.count_pos_iff.mp (by omega)
  obtain ⟨front, back, split, unset⟩ := List.eq_append_cons_of_mem set
  have rest : true ∉ back := by
    rw [← List.count_eq_zero]
    rw [split, List.count_append, List.count_cons_self, List.count_eq_zero.mpr unset] at one
    omega
  refine ⟨set, front.length, ?_⟩
  intro i found
  rw [split, getElem?_split front back unset] at found
  obtain here | ⟨i, later, _⟩ := found
  · omega
  · exact absurd (List.mem_of_getElem? later) rest

theorem pair_of_count {bits : List Bool} (two : bits.count true = 2) : ∃ i j, Pair i j bits := by
  have set : true ∈ bits := List.count_pos_iff.mp (by omega)
  obtain ⟨front, rest, split, unset⟩ := List.eq_append_cons_of_mem set
  have one : rest.count true = 1 := by
    rw [split, List.count_append, List.count_cons_self, List.count_eq_zero.mpr unset] at two
    omega
  obtain ⟨middle, back, last, clear⟩ :=
    List.eq_append_cons_of_mem (List.count_pos_iff.mp (by omega : 0 < rest.count true))
  have none : true ∉ back := by
    rw [← List.count_eq_zero]
    rw [last, List.count_append, List.count_cons_self, List.count_eq_zero.mpr clear] at one
    omega
  refine ⟨front.length, front.length + 1 + middle.length, by omega, ?_⟩
  intro k
  rw [split, getElem?_split front rest unset, last]
  simp only [getElem?_split middle back clear]
  constructor
  · rintro (here | ⟨i, found | ⟨l, found, _⟩, later⟩)
    · exact .inl here
    · exact .inr (by omega)
    · exact absurd (List.mem_of_getElem? found) none
  · rintro (here | later)
    · exact .inl here
    · exact .inr ⟨middle.length, .inl rfl, later⟩

/-- Messages of one register that are no longer than the order of `X` differ in three bits. -/
theorem three_le_count {poly : BitVec w} (top : poly.getLsbD (w - 1) = true) (wide : 8 ≤ w)
    {c : BitVec w} {a b : List UInt8} (length : a.length = b.length)
    (short : 8 * b.length ≤ orderOf (residue (generator poly) X)) (differ : a ≠ b)
    (same : Crc.run poly c a = Crc.run poly c b) : 3 ≤ (difference a b).count true := by
  have any : 0 < (difference a b).count true :=
    List.count_pos_iff.mpr (mem_difference length differ)
  have single : (difference a b).count true ≠ 1 := by
    intro one
    exact run_ne_of_difference top wide c length (burst_of_count one (by omega)) same
  have double : (difference a b).count true ≠ 2 := by
    intro two
    obtain ⟨i, j, pair⟩ := pair_of_count two
    have divides := (run_eq_iff_of_pair top wide c length pair).mp same
    have inside := pair.inside
    have before := pair.1
    rw [length_difference length] at inside
    have far := Nat.le_of_dvd (by omega) divides
    omega
  omega

/-! ## The order of `X` -/

/-- Multiplication modulo the generator, by Horner's rule. -/
def mul (poly a b : BitVec w) : BitVec w :=
  ((List.range w).map b.getLsbD).foldl
    (fun product set => Crc.shift poly product ^^^ if set then a else 0#w) 0#w

theorem residue_foldl (poly a : BitVec w) (bits : List Bool) (product : BitVec w) :
    residue (generator poly) (ofRegister (bits.foldl
        (fun product set => Crc.shift poly product ^^^ if set then a else 0#w) product)) =
      residue (generator poly)
        (X ^ bits.length * ofRegister product + ofBits bits * ofRegister a) := by
  induction bits generalizing product with
  | nil => simp [ofBits]
  | cons set bits ih =>
    have added : ofRegister (if set then a else 0#w) = C (bit set) * ofRegister a := by
      cases set with
      | true => simp [bit]
      | false => simp [bit, ofRegister, ofBits_eq_zero]
    have shifted := residue_shifts poly product 1
    rw [pow_one, Crc.shifts, Crc.shifts] at shifted
    rw [List.foldl_cons, ih, ofRegister_xor, added, mul_add, map_add, map_add, map_mul, shifted,
      ← map_mul, ← map_add, ← map_add, ofBits, List.length_cons, pow_succ]
    refine congrArg (residue (generator poly)) ?_
    ring

theorem residue_mul (poly a b : BitVec w) :
    residue (generator poly) (ofRegister (mul poly a b)) =
      residue (generator poly) (ofRegister a) * residue (generator poly) (ofRegister b) := by
  have zero : ofRegister (0#w) = 0 := by simp [ofRegister, ofBits_eq_zero]
  rw [mul, residue_foldl, zero, mul_zero, zero_add, ← ofRegister, map_mul, mul_comm]

/-- `f a`, where evaluation reduces `a` to a literal first. -/
def evaluated {α : Type} (a : BitVec w) (f : BitVec w → α) : α :=
  match a.toNat with
  | 0 => f 0#w
  | n + 1 => f (BitVec.ofNat w (n + 1))

theorem evaluated_eq {α : Type} (a : BitVec w) (f : BitVec w → α) : evaluated a f = f a := by
  unfold evaluated
  split
  · rename_i zero
    rw [BitVec.eq_of_toNat_eq (zero.trans BitVec.toNat_zero.symm)]
  · rename_i n more
    rw [show n + 1 = a.toNat from more.symm, BitVec.ofNat_toNat, BitVec.setWidth_eq]

/-- The register of the polynomial `1`. -/
def one (w : Nat) : BitVec w := BitVec.twoPow w (w - 1)

/-- `X ^ n` modulo the generator, for `n` of at most so many binary digits. -/
def power (poly : BitVec w) : Nat → Nat → BitVec w
  | 0, _ => one w
  | digits + 1, n => evaluated (power poly digits (n / 2)) fun half =>
      if n % 2 = 1 then Crc.shift poly (mul poly half half) else mul poly half half

theorem ofRegister_one (positive : 0 < w) : ofRegister (one w) = 1 := by
  ext k
  rw [coeff_ofRegister, coeff_one]
  by_cases inside : k < w
  · rw [if_pos inside, one, BitVec.getLsbD_twoPow]
    have last : w - 1 < w := by omega
    by_cases first : k = 0
    · simp [first, last, bit]
    · have other : ¬ w - 1 = w - 1 - k := by omega
      simp [first, other, bit]
  · have later : ¬ k = 0 := by omega
    rw [if_neg inside, if_neg later]

theorem residue_power (poly : BitVec w) (positive : 0 < w) {digits n : Nat}
    (bound : n < 2 ^ digits) :
    residue (generator poly) (ofRegister (power poly digits n)) =
      residue (generator poly) X ^ n := by
  induction digits generalizing n with
  | zero =>
    have zero : n = 0 := by omega
    rw [power, ofRegister_one positive, zero, pow_zero, map_one]
  | succ digits ih =>
    have half := ih (n := n / 2) (by omega)
    have square : residue (generator poly)
        (ofRegister (mul poly (power poly digits (n / 2)) (power poly digits (n / 2)))) =
          residue (generator poly) X ^ (2 * (n / 2)) := by
      rw [residue_mul, half, ← pow_add, two_mul]
    rw [power, evaluated_eq]
    split
    · rename_i odd
      have digit : n = 2 * (n / 2) + 1 := by omega
      have shifted := residue_shifts poly
        (mul poly (power poly digits (n / 2)) (power poly digits (n / 2))) 1
      rw [pow_one, Crc.shifts, Crc.shifts] at shifted
      rw [shifted, map_mul, square, ← pow_succ', ← digit]
    · rename_i even
      have digit : n = 2 * (n / 2) := by omega
      rw [square, ← digit]

theorem residue_X_pow_eq_one_iff (poly : BitVec w) (positive : 0 < w) {digits n : Nat}
    (bound : n < 2 ^ digits) :
    residue (generator poly) X ^ n = 1 ↔ power poly digits n = one w := by
  rw [← residue_power poly positive bound, ← map_one (residue (generator poly)),
    ← ofRegister_one positive]
  exact ⟨eq_of_residue, fun same => by rw [same]⟩

/-- The order of `X`, from `X ^ n` and its powers for `n` without one of its prime factors. -/
theorem orderOf_residue_X (poly : BitVec w) (digits : Nat) (factors : List Nat) {n : Nat}
    (positive : 0 < w) (nonzero : 0 < n) (bound : n < 2 ^ digits) (product : factors.prod = n)
    (primes : ∀ q ∈ factors, q.Prime) (turn : power poly digits n = one w)
    (less : ∀ q ∈ factors, power poly digits (n / q) ≠ one w) :
    orderOf (residue (generator poly) X) = n := by
  apply orderOf_eq_of_pow_and_pow_div_prime nonzero
  · exact (residue_X_pow_eq_one_iff poly positive bound).mpr turn
  · intro p prime divides
    rw [← product, Prime.dvd_prod_iff prime.prime] at divides
    obtain ⟨q, member, divides⟩ := divides
    obtain rfl := (Nat.prime_dvd_prime_iff_eq prime (primes q member)).mp divides
    have smaller : n / p < 2 ^ digits := (Nat.div_le_self n p).trans_lt bound
    rw [ne_eq, residue_X_pow_eq_one_iff poly positive smaller]
    exact less p member

/-! ## Messages with their register behind them -/

theorem getD_messageBits (bytes : List UInt8) (k : Nat) :
    (messageBits bytes).getD k false = (bytes.getD (k / 8) 0).toBitVec.getLsbD (k % 8) := by
  induction bytes generalizing k with
  | nil => simp [messageBits]
  | cons byte bytes ih =>
    rw [messageBits, List.flatMap_cons, ← messageBits]
    by_cases here : k < 8
    · have low : k / 8 = 0 := Nat.div_eq_of_lt here
      have index : k % 8 = k := Nat.mod_eq_of_lt here
      have inside : k < (byteBits byte).length := by simpa [byteBits] using here
      rw [List.getD_append _ _ _ _ inside, List.getD_eq_getElem _ _ inside, low, index]
      simp [byteBits]
    · have width : (byteBits byte).length = 8 := by simp [byteBits]
      have later : k / 8 = (k - 8) / 8 + 1 := by omega
      have index : k % 8 = (k - 8) % 8 := by omega
      rw [List.getD_append_right _ _ _ _ (by omega), width, ih, later, index]
      rfl

section
variable {n : Nat}

/-- The bytes of a word, least significant first, have the bits of the word in order. -/
theorem messageBits_toBytes (v : BitVec (8 * n)) :
    messageBits (toBytes v) = (List.range (8 * n)).map v.getLsbD := by
  apply List.ext_getElem
  · simp
  · intro k left right
    have inside : k < 8 * n := by simpa using right
    have found : k / 8 < n := by omega
    have whole : 8 * (k / 8) + k % 8 = k := Nat.div_add_mod k 8
    have bound : k % 8 < 8 := Nat.mod_lt k (by decide)
    rw [← List.getD_eq_getElem _ false left, getD_messageBits, getD_toBytes v found, byteAt,
      BitVec.getLsbD_extractLsb', whole]
    simp [bound]

/-- A register that takes in a word keeps what they differ by. -/
theorem run_toBytes (poly c v : BitVec (8 * n)) (positive : 0 < n) :
    Crc.run poly c (toBytes v) = Crc.shifts poly (8 * n) (c ^^^ v) := by
  apply eq_of_residue
  rw [residue_run poly c (by omega), residue_shifts, length_toBytes, messageBits_toBytes,
    ← ofRegister, ofRegister_xor, mul_add]

/-- So behind a message and the complement of its register there is one register only. -/
theorem run_codeword (poly c : BitVec (8 * n)) (positive : 0 < n) (bytes : List UInt8) :
    Crc.run poly c (bytes ++ toBytes (~~~ Crc.run poly c bytes)) =
      Crc.shifts poly (8 * n) (BitVec.allOnes (8 * n)) := by
  have complement : ∀ r : BitVec (8 * n), r ^^^ ~~~ r = BitVec.allOnes (8 * n) := by
    intro r
    ext i
    simp
  rw [Crc.run_append, run_toBytes poly _ _ positive, complement]

end

end Wire.Gf2
