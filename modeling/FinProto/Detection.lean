import Mathlib.Tactic.NormNum.Prime
import FinProto.ChecksumRange
import FinProto.Packet
import FinProto.Wire.Detection

/-! Which changes the checksums show: those of the two CRC services, and what is between two
different frames as `encode` writes them, with their checksum. -/
namespace FinProto

open Polynomial Wire

/-! ## `CRC16` -/

theorem crc16_top : (0xA001#16).getLsbD (16 - 1) = true := by decide

theorem crc16Calc_eq_iff (a b : ByteBuf) :
    crc16Calc a = crc16Calc b ↔
      Crc.run 0xA001#16 (BitVec.allOnes 16) a.data =
        Crc.run 0xA001#16 (BitVec.allOnes 16) b.data := by
  rw [← toBitVec_crc16Calc, ← toBitVec_crc16Calc, UInt16.toBitVec_inj]

theorem crc16_order : orderOf (Gf2.residue (Gf2.generator 0xA001#16) X) = 32767 :=
  Gf2.orderOf_residue_X 0xA001#16 15 [7, 31, 151] (by decide) (by decide) (by decide) (by decide)
    (by norm_num) (by decide +kernel) (by decide +kernel)

/-- `CRC16` shows every odd number of changed bits and two of them unless they are a multiple of
32767 apart, so in up to 4095 bytes it shows any three. -/
theorem crc16Calc_detects :
    (∀ a b : ByteBuf, a.data.length = b.data.length →
      Odd ((Gf2.difference a.data b.data).count true) → crc16Calc a ≠ crc16Calc b) ∧
    (∀ (a b : ByteBuf) (i j : Nat), a.data.length = b.data.length →
      Gf2.Pair i j (Gf2.difference a.data b.data) →
      (crc16Calc a = crc16Calc b ↔ 32767 ∣ j - i)) ∧
    (∀ a b : ByteBuf, a.data.length = b.data.length → b.data.length ≤ 4095 → a.data ≠ b.data →
      crc16Calc a = crc16Calc b → 4 ≤ (Gf2.difference a.data b.data).count true) := by
  have odd : ∀ a b : ByteBuf, a.data.length = b.data.length →
      Odd ((Gf2.difference a.data b.data).count true) → crc16Calc a ≠ crc16Calc b := by
    intro a b length odd same
    exact Gf2.run_ne_of_odd crc16_top (by decide) (by decide) _ length odd
      ((crc16Calc_eq_iff a b).mp same)
  refine ⟨odd, ?_, ?_⟩
  · intro a b i j length pair
    rw [crc16Calc_eq_iff, Gf2.run_eq_iff_of_pair crc16_top (by decide) _ length pair, crc16_order]
  · intro a b length short differ same
    have three := Gf2.three_le_count crc16_top (by decide) length (by rw [crc16_order]; omega)
      differ ((crc16Calc_eq_iff a b).mp same)
    have even := Nat.not_odd_iff_even.mp fun parity => odd a b length parity same
    obtain ⟨half, _⟩ := even
    omega

/-! ## `CRC32` -/

/-- The bytes `Crc32ChecksumService::calc` takes in. -/
def crc32Range (buf : ByteBuf) : Bytes := buf.data.take (crc32Length buf)

/-- The generator of CRC-32. -/
noncomputable def crc32Generator : (ZMod 2)[X] :=
  X ^ 32 + X ^ 26 + X ^ 23 + X ^ 22 + X ^ 16 + X ^ 12 + X ^ 11 + X ^ 10 + X ^ 8 + X ^ 7 + X ^ 5 +
    X ^ 4 + X ^ 2 + X + 1

/-- Reflected CRC-32 started with ones, complemented at the end. -/
noncomputable def reflectedCrc32 (bytes : List UInt8) : UInt32 :=
  ⟨~~~ (Gf2.word 32 (Gf2.ofBits (Gf2.dividend 32 (Gf2.messageBits bytes)) %ₘ
    crc32Generator)).reverse⟩

theorem generator_crc32 : Gf2.generator 0xEDB88320#32 = crc32Generator := by
  have bits : (List.range 32).map (0xEDB88320#32).getLsbD =
      [false, false, false, false, false, true, false, false, true, true, false, false, false,
        false, false, true, false, false, false, true, true, true, false, true, true, false, true,
        true, false, true, true, true] := by decide
  rw [Gf2.generator, Gf2.ofRegister, bits, crc32Generator]
  simp [Gf2.ofBits, Gf2.bit, add_assoc]

theorem crc32_eq_reflectedCrc32 (bytes : Bytes) : crc32 0 bytes = reflectedCrc32 bytes := by
  have start : ~~~ (0 : UInt32).toBitVec = BitVec.allOnes 32 := by decide
  rw [crc32, start, reflectedCrc32, ← generator_crc32, ← Gf2.ofRegister_run _ (by decide),
    Gf2.reverse_word_ofRegister]
  rfl

theorem crc32_order : orderOf (Gf2.residue (Gf2.generator 0xEDB88320#32) X) = 2 ^ 32 - 1 :=
  Gf2.orderOf_residue_X 0xEDB88320#32 32 [3, 5, 17, 257, 65537] (by decide) (by decide)
    (by decide) (by decide) (by norm_num) (by decide +kernel) (by decide +kernel)

/-- `CRC32` is the polynomial definition over the bytes it takes in, and there it shows every
burst of 32 bits and two changed bits unless they are a multiple of `2 ^ 32 - 1` apart. -/
theorem crc32Calc_detects :
    (∀ buf : ByteBuf, crc32Calc buf = reflectedCrc32 (crc32Range buf)) ∧
    (∀ a b : ByteBuf, (crc32Range a).length = (crc32Range b).length →
      Gf2.Burst 32 (Gf2.difference (crc32Range a) (crc32Range b)) → crc32Calc a ≠ crc32Calc b) ∧
    (∀ (a b : ByteBuf) (i j : Nat), (crc32Range a).length = (crc32Range b).length →
      Gf2.Pair i j (Gf2.difference (crc32Range a) (crc32Range b)) →
      (crc32Calc a = crc32Calc b ↔ 2 ^ 32 - 1 ∣ j - i)) := by
  have registers : ∀ a b : ByteBuf, crc32Calc a = crc32Calc b ↔
      Crc.run 0xEDB88320#32 (~~~0#32) (crc32Range a) =
        Crc.run 0xEDB88320#32 (~~~0#32) (crc32Range b) := fun a b => crc32_inj
  refine ⟨fun buf => crc32_eq_reflectedCrc32 (crc32Range buf), ?_, ?_⟩
  · intro a b length burst
    rw [ne_eq, registers]
    exact Gf2.run_ne_of_difference crc32_top (by decide) _ length burst
  · intro a b i j length pair
    rw [registers, Gf2.run_eq_iff_of_pair crc32_top (by decide) _ length pair, crc32_order]

/-! ## Frames with a sum behind them -/

/-- In how many places two byte strings differ. -/
def byteChanges (a b : Bytes) : Nat := (List.zipWith bne a b).count true

theorem byteChanges_cons (x y : UInt8) (a b : Bytes) :
    byteChanges (x :: a) (y :: b) = byteChanges a b + if x = y then 0 else 1 := by
  by_cases same : x = y
  · simp [byteChanges, same]
  · have unequal : (x != y) = true := bne_iff_ne.mpr same
    simp [byteChanges, same, unequal]

theorem byteChanges_append {a b : Bytes} (length : a.length = b.length) (c d : Bytes) :
    byteChanges (a ++ c) (b ++ d) = byteChanges a b + byteChanges c d := by
  rw [byteChanges, List.zipWith_append length, List.count_append]
  rfl

theorem byteChanges_eq_zero {a b : Bytes} (length : a.length = b.length)
    (none : byteChanges a b = 0) : a = b := by
  induction a generalizing b with
  | nil => exact (List.eq_nil_of_length_eq_zero length.symm).symm
  | cons x a ih =>
    cases b with
    | nil => cases length
    | cons y b =>
      rw [byteChanges_cons] at none
      by_cases same : x = y
      · rw [same, ih (Nat.succ.inj length) (by omega)]
      · rw [if_neg same] at none
        cases none

/-- One changed byte changes the sum modulo 256. -/
theorem byteSum_ne_of_byteChanges {a b : Bytes} (length : a.length = b.length)
    (one : byteChanges a b = 1) : byteSum a % 256 ≠ byteSum b % 256 := by
  induction a generalizing b with
  | nil => cases one
  | cons x a ih =>
    cases b with
    | nil => cases length
    | cons y b =>
      have rest : a.length = b.length := Nat.succ.inj length
      have sum : ∀ (z : UInt8) (c : Bytes), byteSum (z :: c) = z.toNat + byteSum c := fun _ _ => rfl
      rw [byteChanges_cons] at one
      rw [sum, sum]
      by_cases same : x = y
      · have later := ih rest (by simpa [same] using one)
        rw [same]
        omega
      · have equal : a = b := byteChanges_eq_zero rest (by simpa [same] using one)
        have values : x.toNat ≠ y.toNat := fun value => same (UInt8.toNat_inj.mp value)
        have left := UInt8.toNat_lt x
        have right := UInt8.toNat_lt y
        rw [equal]
        omega

/-- What `encode` leaves in a new buffer: the frame, and behind it the trailer for it. -/
theorem SizedFrame.data_encode {F : Type} [SizedFrame F] {m : F} {buf : ByteBuf}
    (encoded : SizedFrame.encode m .new = .ok buf) :
    buf.data = ((sized m).written .new).data ++ (trailer m ((sized m).written .new)).bytes := by
  rw [encode_eq] at encoded
  cases encoded
  exact Encoder.buffer_run _ _

/-- A trailer of fixed width that determines the sum modulo 256 of what is before it. -/
theorem two_le_byteChanges {F : Type} [SizedFrame F]
    (widths : ∀ (m n : F) (a b : ByteBuf),
      (SizedFrame.trailer m a).bytes.length = (SizedFrame.trailer n b).bytes.length)
    (same : ∀ (m n : F) (a b : ByteBuf), a.data = b.data →
      (SizedFrame.trailer m a).bytes = (SizedFrame.trailer n b).bytes)
    (sums : ∀ (m n : F) (a b : ByteBuf),
      (SizedFrame.trailer m a).bytes = (SizedFrame.trailer n b).bytes →
      byteSum a.data % 256 = byteSum b.data % 256)
    {m n : F} {a b : ByteBuf} (left : SizedFrame.encode m .new = .ok a)
    (right : SizedFrame.encode n .new = .ok b) (length : a.data.length = b.data.length)
    (differ : a.data ≠ b.data) : 2 ≤ byteChanges a.data b.data := by
  have first := SizedFrame.data_encode left
  have second := SizedFrame.data_encode right
  generalize (SizedFrame.sized m).written .new = framed at first
  generalize (SizedFrame.sized n).written .new = other at second
  have trailers : (SizedFrame.trailer m framed).bytes.length =
      (SizedFrame.trailer n other).bytes.length := widths m n framed other
  have fronts : framed.data.length = other.data.length := by
    rw [first, second, List.length_append, List.length_append] at length
    omega
  rw [first, second, byteChanges_append fronts]
  have front : byteChanges framed.data other.data ≠ 0 := by
    intro none
    have equal := byteChanges_eq_zero fronts none
    exact differ (by rw [first, second, equal, same m n framed other equal])
  by_cases back : byteChanges (SizedFrame.trailer m framed).bytes
      (SizedFrame.trailer n other).bytes = 0
  · have equal := sums m n framed other (byteChanges_eq_zero trailers back)
    have more : byteChanges framed.data other.data ≠ 1 := fun one =>
      byteSum_ne_of_byteChanges fronts one equal
    omega
  · omega

/-! ## Frames with a register behind them -/

/-- Unread data of a length that `uInt` holds is taken in whole. -/
theorem crc32Range_eq {buf : ByteBuf} (unread : buf.readerIndex = 0)
    (short : buf.data.length < 2 ^ 32) : crc32Range buf = buf.data := by
  have whole : crc32Length buf = buf.data.length := by
    rw [crc32Length, ByteBuf.readableBytes, unread, Nat.sub_zero]
    exact Nat.mod_eq_of_lt short
  rw [crc32Range, whole, List.take_length]

/-- Every `RootPacket` leaves the same register. -/
theorem Root.run_encode {m : RootPacket} {buf : ByteBuf} (encoded : m.encode .new = .ok buf)
    (short : buf.data.length < 2 ^ 32) :
    Crc.run 0xEDB88320#32 (~~~0#32) buf.data =
      Crc.shifts 0xEDB88320#32 32 (BitVec.allOnes 32) := by
  have data := SizedFrame.data_encode (F := RootPacket) encoded
  have start : ((SizedFrame.sized m).written .new).readerIndex = 0 :=
    Sized.readerIndex_written _ _
  generalize (SizedFrame.sized m).written .new = framed at data start
  have inside : framed.data.length < 2 ^ 32 := by
    rw [data, List.length_append] at short
    omega
  have word : (SizedFrame.trailer m framed).bytes =
      toBytes (n := 4) (~~~ Crc.run 0xEDB88320#32 (~~~0#32) framed.data) := by
    have calc_eq : crc32Calc framed = crc32 0 framed.data :=
      congrArg (crc32 0) (crc32Range_eq start inside)
    have bytes : (SizedFrame.trailer m framed).bytes = Scalar.leBytes (crc32Calc framed) := rfl
    rw [bytes, calc_eq, Scalar.leBytes_eq]
    rfl
  rw [data, word]
  exact Gf2.run_codeword (n := 4) 0xEDB88320#32 (~~~0#32) (by decide) framed.data

theorem Root.encode_apart {m n : RootPacket} {a b : ByteBuf} (left : m.encode .new = .ok a)
    (right : n.encode .new = .ok b) (length : a.data.length = b.data.length)
    (short : b.data.length < 2 ^ 32) (differ : a.data ≠ b.data) :
    ¬ Gf2.Burst 32 (Gf2.difference a.data b.data) ∧
      (b.data.length < 2 ^ 29 → 3 ≤ (Gf2.difference a.data b.data).count true) := by
  have same : Crc.run 0xEDB88320#32 (~~~0#32) a.data =
      Crc.run 0xEDB88320#32 (~~~0#32) b.data := by
    rw [Root.run_encode left (by omega), Root.run_encode right short]
  constructor
  · intro burst
    exact Gf2.run_ne_of_difference crc32_top (by decide) _ length burst same
  · intro shorter
    exact Gf2.three_le_count crc32_top (by decide) length (by rw [crc32_order]; omega) differ same

theorem Sse.encode_apart {m n : SseBinary} {a b : ByteBuf} (left : m.encode .new = .ok a)
    (right : n.encode .new = .ok b) (length : a.data.length = b.data.length)
    (differ : a.data ≠ b.data) : 2 ≤ byteChanges a.data b.data := by
  refine two_le_byteChanges (F := SseBinary) ?widths ?same ?sums left right length differ
  case widths =>
    intro m n a b
    exact (length_writeU32 (sseBinCalc a)).trans (length_writeU32 (sseBinCalc b)).symm
  case same =>
    intro m n a b equal
    have values : sseBinCalc a = sseBinCalc b := by rw [sseBinCalc_eq, sseBinCalc_eq, equal]
    exact congrArg (fun v => (writeU32 v).bytes) values
  case sums =>
    intro m n a b equal
    have words : (writeU32 (sseBinCalc a)).bytes = (writeU32 (sseBinCalc b)).bytes := equal
    have values : sseBinCalc a = sseBinCalc b := by
      simpa [writeU32, Scalar.leBytes_inj] using words
    rw [← toNat_sseBinCalc, ← toNat_sseBinCalc, values]

theorem Szse.encode_apart {m n : SzseBinary} {a b : ByteBuf} (left : m.encode .new = .ok a)
    (right : n.encode .new = .ok b) (length : a.data.length = b.data.length)
    (differ : a.data ≠ b.data) : 2 ≤ byteChanges a.data b.data := by
  refine two_le_byteChanges (F := SzseBinary) ?widths ?same ?sums left right length differ
  case widths =>
    intro m n a b
    exact (length_writeI32 (szseBinCalc a)).trans (length_writeI32 (szseBinCalc b)).symm
  case same =>
    intro m n a b equal
    have values : szseBinCalc a = szseBinCalc b :=
      congrArg (fun bytes : Bytes => szseBinCalc (.holding bytes)) equal
    exact congrArg (fun v => (writeI32 v).bytes) values
  case sums =>
    intro m n a b equal
    have words : (writeI32 (szseBinCalc a)).bytes = (writeI32 (szseBinCalc b)).bytes := equal
    have values : szseBinCalc a = szseBinCalc b := by
      simpa [writeI32, Scalar.leBytes_inj] using words
    have left := szseBinCalc_emod a
    rw [values, szseBinCalc_emod] at left
    exact_mod_cast left.symm

/-- Different encodings of one length are never alike but for a burst of 32 bits, or but for
two bits in up to `2 ^ 29` bytes, where a `CRC32` is behind them; and never but for one byte
where a sum is. -/
theorem encodings_apart :
    (∀ (m n : Root.RootPacket) (a b : ByteBuf), m.encode .new = .ok a → n.encode .new = .ok b →
      a.data.length = b.data.length → b.data.length < 2 ^ 32 → a.data ≠ b.data →
        ¬ Gf2.Burst 32 (Gf2.difference a.data b.data) ∧
        (b.data.length < 2 ^ 29 → 3 ≤ (Gf2.difference a.data b.data).count true)) ∧
    (∀ (m n : Sse.SseBinary) (a b : ByteBuf), m.encode .new = .ok a → n.encode .new = .ok b →
      a.data.length = b.data.length → a.data ≠ b.data → 2 ≤ byteChanges a.data b.data) ∧
    (∀ (m n : Szse.SzseBinary) (a b : ByteBuf), m.encode .new = .ok a → n.encode .new = .ok b →
      a.data.length = b.data.length → a.data ≠ b.data → 2 ≤ byteChanges a.data b.data) :=
  ⟨fun _ _ _ _ => Root.encode_apart, fun _ _ _ _ => Sse.encode_apart,
    fun _ _ _ _ => Szse.encode_apart⟩

end FinProto
