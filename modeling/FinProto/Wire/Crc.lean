/-! The reflected CRC shift register over `w` bits. Shifting loses nothing when the
generator has its constant term, so a register is determined by what it becomes. -/
namespace Wire.Crc

variable {w : Nat}

/-- One step of the register: the low bit leaves and subtracts the generator. -/
def shift (poly c : BitVec w) : BitVec w :=
  if c.getLsbD 0 then (c >>> 1) ^^^ poly else c >>> 1

def shifts (poly : BitVec w) : Nat → BitVec w → BitVec w
  | 0, c => c
  | n + 1, c => shifts poly n (shift poly c)

/-- Take one byte into the register. -/
def absorb (poly c : BitVec w) (byte : UInt8) : BitVec w :=
  shifts poly 8 (c ^^^ byte.toBitVec.setWidth w)

def run (poly c : BitVec w) (bytes : List UInt8) : BitVec w := bytes.foldl (absorb poly) c

theorem run_append (poly c : BitVec w) (front back : List UInt8) :
    run poly c (front ++ back) = run poly (run poly c front) back := List.foldl_append

/-! The register is linear over exclusive or. -/

theorem shift_xor (poly a b : BitVec w) : shift poly (a ^^^ b) = shift poly a ^^^ shift poly b := by
  have twice : a >>> 1 ^^^ poly ^^^ (b >>> 1 ^^^ poly) = a >>> 1 ^^^ b >>> 1 := by
    rw [BitVec.xor_assoc, BitVec.xor_comm poly, BitVec.xor_assoc, BitVec.xor_self, BitVec.xor_zero]
  unfold shift
  rw [BitVec.getLsbD_xor, BitVec.ushiftRight_xor_distrib]
  cases a.getLsbD 0 <;> cases b.getLsbD 0
  · rfl
  · exact BitVec.xor_assoc _ _ _
  · simp only [Bool.true_bne, Bool.not_false, if_true, Bool.false_eq_true, if_false]
    ac_rfl
  · exact twice.symm

theorem shifts_zero (poly : BitVec w) (n : Nat) : shifts poly n 0#w = 0#w := by
  induction n with
  | zero => rfl
  | succ n ih =>
    have still : shift poly 0#w = 0#w := by simp [shift]
    rw [shifts, still, ih]

theorem shifts_xor (poly a b : BitVec w) (n : Nat) :
    shifts poly n (a ^^^ b) = shifts poly n a ^^^ shifts poly n b := by
  induction n generalizing a b with
  | zero => rfl
  | succ n ih => rw [shifts, shift_xor, ih, ← shifts, ← shifts]

theorem shifts_add (poly c : BitVec w) (m n : Nat) :
    shifts poly (m + n) c = shifts poly n (shifts poly m c) := by
  induction m generalizing c with
  | zero => rw [Nat.zero_add, shifts]
  | succ m ih => rw [Nat.succ_add, shifts, ih, ← shifts]

/-- A difference between registers moves on by itself, whatever bytes are taken in. -/
theorem run_xor (poly a b : BitVec w) (bytes : List UInt8) :
    run poly (a ^^^ b) bytes = run poly a bytes ^^^ shifts poly (8 * bytes.length) b := by
  induction bytes generalizing a b with
  | nil => rfl
  | cons byte bytes ih =>
    have step : absorb poly (a ^^^ b) byte = absorb poly a byte ^^^ shifts poly 8 b := by
      rw [absorb, absorb, ← shifts_xor, BitVec.xor_assoc, BitVec.xor_assoc,
        BitVec.xor_comm b]
    have count : 8 * (byte :: bytes).length = 8 + 8 * bytes.length := by
      rw [List.length_cons]
      omega
    rw [run, List.foldl_cons, step, ← run, ih, count, shifts_add]
    rfl

/-- What the first byte adds to the register. -/
theorem run_cons (poly c : BitVec w) (byte : UInt8) (bytes : List UInt8) :
    run poly c (byte :: bytes) =
      run poly c (0 :: bytes) ^^^ shifts poly (8 * (bytes.length + 1)) (byte.toBitVec.setWidth w) := by
  have zero : (0 : UInt8).toBitVec.setWidth w = 0#w := by simp
  have split : absorb poly c byte = absorb poly c 0 ^^^ shifts poly 8 (byte.toBitVec.setWidth w) := by
    rw [absorb, absorb, zero, ← shifts_xor, BitVec.xor_zero]
  have count : 8 * (bytes.length + 1) = 8 + 8 * bytes.length := by omega
  rw [run, List.foldl_cons, split, ← run, run_xor, count, shifts_add]
  rfl

section
variable {poly : BitVec w} (top : poly.getLsbD (w - 1) = true)
include top

theorem width_pos : 0 < w := by
  apply Nat.pos_of_ne_zero
  intro none
  subst none
  simp at top

/-- The bit that left is the top bit of what the register became. -/
theorem getLsbD_shift_top (c : BitVec w) : (shift poly c).getLsbD (w - 1) = c.getLsbD 0 := by
  have positive := width_pos top
  have gone : c.getLsbD (1 + (w - 1)) = false := BitVec.getLsbD_of_ge _ _ (by omega)
  unfold shift
  cases low : c.getLsbD 0 with
  | true => simp [top, gone]
  | false => simp [gone]

theorem shift_injective {a b : BitVec w} (same : shift poly a = shift poly b) : a = b := by
  have low : a.getLsbD 0 = b.getLsbD 0 := by
    rw [← getLsbD_shift_top top a, same, getLsbD_shift_top top b]
  have high : a >>> 1 = b >>> 1 := by
    unfold shift at same
    rw [low] at same
    split at same
    · have undone := congrArg (· ^^^ poly) same
      simpa [BitVec.xor_assoc] using undone
    · exact same
  apply BitVec.eq_of_getLsbD_eq
  intro i _
  cases i with
  | zero => exact low
  | succ i =>
    have bit := congrArg (fun v => v.getLsbD i) high
    simpa [Nat.add_comm] using bit

theorem shifts_injective {n : Nat} {a b : BitVec w} (same : shifts poly n a = shifts poly n b) :
    a = b := by
  induction n generalizing a b with
  | zero => exact same
  | succ n ih => exact shift_injective top (ih same)

theorem absorb_injective {a b : BitVec w} {byte : UInt8}
    (same : absorb poly a byte = absorb poly b byte) : a = b := by
  have mixed := congrArg (· ^^^ byte.toBitVec.setWidth w) (shifts_injective top same)
  simpa [BitVec.xor_assoc] using mixed

/-- Registers that agree after the same bytes agreed before them. -/
theorem run_injective {a b : BitVec w} {bytes : List UInt8}
    (same : run poly a bytes = run poly b bytes) : a = b := by
  induction bytes generalizing a b with
  | nil => exact same
  | cons byte bytes ih => exact absorb_injective top (ih same)

/-- A changed byte changes the register, whatever stands around it. -/
theorem eq_of_run {c : BitVec w} {x y : UInt8} {front back : List UInt8}
    (same : run poly c (front ++ x :: back) = run poly c (front ++ y :: back)) :
    x.toBitVec.setWidth w = y.toBitVec.setWidth w := by
  rw [run_append, run_append] at same
  have taken : absorb poly (run poly c front) x = absorb poly (run poly c front) y :=
    run_injective top same
  have mixed := congrArg (run poly c front ^^^ ·) (shifts_injective top taken)
  simpa [← BitVec.xor_assoc] using mixed

/-- A byte other than zero leaves its trace, however many bytes follow it. -/
theorem run_cons_ne {c : BitVec w} {byte : UInt8} (trace : byte.toBitVec.setWidth w ≠ 0#w)
    (bytes : List UInt8) : run poly c (byte :: bytes) ≠ run poly c (0 :: bytes) := by
  intro same
  rw [run_cons] at same
  have gone := congrArg (run poly c (0 :: bytes) ^^^ ·) same
  simp only [← BitVec.xor_assoc, BitVec.xor_self, BitVec.zero_xor] at gone
  rw [← shifts_zero poly (8 * (bytes.length + 1))] at gone
  exact trace (shifts_injective top gone)

/-- Two registers that agree after `short` and `long`, whichever of two bytes stands in
front, agree only if the bytes `long` is longer by turn the difference into itself. -/
theorem shifts_eq_of_runs {x y : BitVec w} {byte : UInt8} {short long : List UInt8} {r : Nat}
    (longer : long.length = short.length + r)
    (zero : run poly x (0 :: short) = run poly y (0 :: long))
    (other : run poly x (byte :: short) = run poly y (byte :: long)) :
    shifts poly (8 * r) (byte.toBitVec.setWidth w) = byte.toBitVec.setWidth w := by
  rw [run_cons poly x, run_cons poly y, zero] at other
  have same := congrArg (run poly y (0 :: long) ^^^ ·) other
  simp only [← BitVec.xor_assoc, BitVec.xor_self, BitVec.zero_xor] at same
  have turns : 8 * (long.length + 1) = 8 * r + 8 * (short.length + 1) := by omega
  rw [turns, shifts_add] at same
  exact (shifts_injective top same).symm

end

end Wire.Crc
