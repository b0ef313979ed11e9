import FinProto.Checksum
import FinProto.Wire.Division

/-! `Crc16ChecksumService::calc` against the polynomial definition of reflected CRC-16. -/
namespace FinProto

open Polynomial Wire

/-! ## The register of the code -/

theorem toBitVec_crc16Shift (crc : UInt16) :
    (crc16Shift crc).toBitVec = Crc.shift 0xA001#16 crc.toBitVec := by
  have low : (crc &&& 0x0001 != 0) = crc.toBitVec.getLsbD 0 := by
    have masked : (crc &&& 0x0001).toBitVec =
        BitVec.setWidth 16 (BitVec.ofBool (crc.toBitVec.getLsbD 0)) := by
      rw [UInt16.toBitVec_and]
      exact BitVec.and_one_eq_setWidth_ofBool_getLsbD
    cases bit : crc.toBitVec.getLsbD 0 with
    | false =>
      have clear : crc &&& 0x0001 = 0 := UInt16.toBitVec_inj.mp (by rw [masked, bit]; decide)
      rw [clear]
      rfl
    | true =>
      have set : crc &&& 0x0001 = 1 := UInt16.toBitVec_inj.mp (by rw [masked, bit]; decide)
      rw [set]
      rfl
  rw [crc16Shift, Crc.shift, low]
  split
  · simp
  · simp

theorem toBitVec_repeat_crc16Shift (n : Nat) (crc : UInt16) :
    (Nat.repeat crc16Shift n crc).toBitVec = Crc.shifts 0xA001#16 n crc.toBitVec := by
  induction n with
  | zero => rfl
  | succ n ih =>
    rw [Nat.repeat, toBitVec_crc16Shift, ih, Crc.shifts_add]
    rfl

theorem toBitVec_foldl_crc16Byte (bytes : List UInt8) (crc : UInt16) :
    (bytes.foldl crc16Byte crc).toBitVec = Crc.run 0xA001#16 crc.toBitVec bytes := by
  induction bytes generalizing crc with
  | nil => rfl
  | cons b bytes ih =>
    have taken : (crc16Byte crc b).toBitVec = Crc.absorb 0xA001#16 crc.toBitVec b := by
      rw [crc16Byte, toBitVec_repeat_crc16Shift, UInt16.toBitVec_xor, UInt8.toBitVec_toUInt16,
        Crc.absorb]
    rw [List.foldl_cons, ih, taken]
    rfl

theorem toBitVec_crc16Calc (buf : ByteBuf) :
    (crc16Calc buf).toBitVec = Crc.run 0xA001#16 (BitVec.allOnes 16) buf.data :=
  toBitVec_foldl_crc16Byte buf.data 0xFFFF

/-! ## The polynomial definition -/

/-- The generator of CRC-16. -/
noncomputable def crc16Generator : (ZMod 2)[X] := X ^ 16 + X ^ 15 + X ^ 2 + 1

/-- Reflected CRC-16 started with ones: the message bits, each byte low bit first, followed
by 16 zeros with the first 16 bits complemented, modulo the generator, reversed. -/
noncomputable def reflectedCrc16 (bytes : List UInt8) : UInt16 :=
  ⟨(Gf2.word 16 (Gf2.ofBits (Gf2.dividend 16 (Gf2.messageBits bytes)) %ₘ crc16Generator)).reverse⟩

/-- The constant of the code is the generator, low coefficient in the high bit. -/
theorem generator_crc16 : Gf2.generator 0xA001#16 = crc16Generator := by
  have bits : (List.range 16).map (0xA001#16).getLsbD =
      [true, false, false, false, false, false, false, false, false, false, false, false, false,
        true, false, true] := by decide
  rw [Gf2.generator, Gf2.ofRegister, bits, crc16Generator]
  simp [Gf2.ofBits, Gf2.bit, add_assoc]

theorem crc16Calc_eq_reflectedCrc16 (buf : ByteBuf) : crc16Calc buf = reflectedCrc16 buf.data := by
  apply UInt16.toBitVec_inj.mp
  rw [toBitVec_crc16Calc, reflectedCrc16, ← generator_crc16, ← Gf2.ofRegister_run _ (by decide),
    Gf2.reverse_word_ofRegister]

example : crc16Calc (.holding [0x31, 0x32, 0x33, 0x34, 0x35, 0x36, 0x37, 0x38, 0x39]) = 0x4B37 := by
  decide +kernel

/-! ## Bursts -/

/-- Two buffers that differ by a burst of at most 16 bits have different checksums. -/
theorem crc16Calc_ne_of_burst {a b : ByteBuf} {k : Nat} (length : a.data.length = b.data.length)
    (differ : a.data ≠ b.data)
    (window : ∀ i, (Gf2.messageBits a.data)[i]? ≠ (Gf2.messageBits b.data)[i]? →
      k ≤ i ∧ i < k + 16) :
    crc16Calc a ≠ crc16Calc b := by
  intro same
  have registers := congrArg UInt16.toBitVec same
  rw [toBitVec_crc16Calc, toBitVec_crc16Calc] at registers
  exact Gf2.run_ne_of_burst (by decide) (by decide) _ length differ window registers

/-- A burst of 16 bits from the fifth bit of the first byte on. -/
theorem crc16Calc_ne_straddling :
    crc16Calc (.holding [0x31, 0x32, 0x33]) ≠ crc16Calc (.holding [0xC1, 0xCD, 0x3C]) := by
  have bits : ∀ i < 24, (Gf2.messageBits [0x31, 0x32, 0x33])[i]? ≠
      (Gf2.messageBits [0xC1, 0xCD, 0x3C])[i]? → 4 ≤ i ∧ i < 4 + 16 := by decide
  have window : ∀ i, (Gf2.messageBits (ByteBuf.holding [0x31, 0x32, 0x33]).data)[i]? ≠
      (Gf2.messageBits (ByteBuf.holding [0xC1, 0xCD, 0x3C]).data)[i]? → 4 ≤ i ∧ i < 4 + 16 := by
    intro i differs
    by_cases inside : i < 24
    · exact bits i inside differs
    · have left : (Gf2.messageBits [0x31, 0x32, 0x33]).length ≤ i := Nat.le_of_not_lt inside
      have right : (Gf2.messageBits [0xC1, 0xCD, 0x3C]).length ≤ i := Nat.le_of_not_lt inside
      exact absurd ((List.getElem?_eq_none left).trans (List.getElem?_eq_none right).symm) differs
  exact crc16Calc_ne_of_burst rfl (by decide) window

end FinProto
