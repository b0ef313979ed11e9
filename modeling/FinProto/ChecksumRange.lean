import FinProto.Crc16

/-! How far the checksum services reach: the sums an accumulator holds, and the bytes a
service takes in. -/
namespace FinProto

open Wire

/-! ## The sums -/

/-- The accumulator of `SzseBinChecksumService::calc` after some bytes. -/
def szseAccumulator (bytes : List UInt8) : Int32 :=
  bytes.foldl (fun checksum b => checksum + b.toUInt32.toInt32) 0

/-- No `checksum += b` on the way leaves the range of `int32_t`. -/
def NeverOverflows (bytes : List UInt8) : Prop :=
  ∀ front b back, bytes = front ++ b :: back →
    (szseAccumulator front).toInt + b.toNat < 2 ^ 31

structure AdditiveChecksums (buf : ByteBuf) : Prop where
  sseBin : (sseBinCalc buf).toNat = byteSum buf.data % 256
  szseBin : (szseBinCalc buf).toInt = (byteSum buf.data % 256 : Nat)
  exact : NeverOverflows buf.data

theorem szseAccumulator_eq (bytes : List UInt8) :
    szseAccumulator bytes = Int32.ofNat (byteSum bytes) := by
  have whole := foldl_add_eq bytes 0
  rwa [Nat.zero_add] at whole

theorem toInt_szseAccumulator {bytes : List UInt8} (small : byteSum bytes < 2 ^ 31) :
    (szseAccumulator bytes).toInt = byteSum bytes := by
  rw [szseAccumulator_eq, Int32.toInt_ofNat_of_lt small]

theorem byteSum_concat (front : List UInt8) (b : UInt8) :
    byteSum (front ++ [b]) = byteSum front + b.toNat := by
  rw [byteSum_append]
  rfl

/-- A sum that never leaves the range is the sum of the bytes, by induction from the first
byte on. -/
theorem byteSum_of_neverOverflows {bytes : List UInt8} (safe : NeverOverflows bytes) :
    byteSum bytes < 2 ^ 31 := by
  induction bytes using List.reverseRecOn with
  | nil => decide
  | append_singleton front b ih =>
    have earlier : byteSum front < 2 ^ 31 := by
      apply ih
      intro start x rest split
      exact safe start x (rest ++ [b]) (by rw [split, List.append_assoc, List.cons_append])
    have last := safe front b [] rfl
    rw [toInt_szseAccumulator earlier] at last
    rw [byteSum_concat]
    omega

theorem neverOverflows_iff (bytes : List UInt8) :
    NeverOverflows bytes ↔ byteSum bytes < 2 ^ 31 := by
  constructor
  · exact byteSum_of_neverOverflows
  · intro small front b back split
    have whole : byteSum bytes = byteSum front + (b.toNat + byteSum back) := by
      rw [split, byteSum_append]
      rfl
    rw [toInt_szseAccumulator (by omega)]
    omega

theorem toNat_sseBinCalc (buf : ByteBuf) : (sseBinCalc buf).toNat = byteSum buf.data % 256 := by
  have range : UInt32.size = 4294967296 := rfl
  rw [sseBinCalc_eq, sseBin, UInt32.toNat_ofNat_of_lt' (by omega)]

theorem toInt_szseBinCalc (buf : ByteBuf) :
    (szseBinCalc buf).toInt = (szseAccumulator buf.data).toInt.tmod 256 :=
  BitVec.toInt_srem (szseAccumulator buf.data).toBitVec (256 : Int32).toBitVec

theorem additiveChecksums_iff (buf : ByteBuf) :
    AdditiveChecksums buf ↔ byteSum buf.data < 2 ^ 31 := by
  constructor
  · intro right
    exact (neverOverflows_iff buf.data).mp right.exact
  · intro small
    refine ⟨toNat_sseBinCalc buf, ?_, (neverOverflows_iff buf.data).mpr small⟩
    rw [toInt_szseBinCalc, toInt_szseAccumulator small]
    rfl

theorem byteSum_replicate (n : Nat) (b : UInt8) : byteSum (List.replicate n b) = n * b.toNat := by
  simp [byteSum]

/-- The shortest buffer of bytes 255 whose sum an `int32_t` does not hold. -/
theorem szseBinCalc_negative :
    szseBinCalc (.holding (List.replicate 8421505 255)) = -129 ∧
      ¬ AdditiveChecksums (.holding (List.replicate 8421505 255)) := by
  have data : (ByteBuf.holding (List.replicate 8421505 255)).data =
      List.replicate 8421505 255 := rfl
  have sum : byteSum (List.replicate 8421505 255) = 2147483775 := byteSum_replicate 8421505 255
  have value : szseBinCalc (.holding (List.replicate 8421505 255)) = -129 := by
    apply Int32.toInt_inj.mp
    rw [toInt_szseBinCalc, data, szseAccumulator_eq, sum]
    decide
  refine ⟨value, ?_⟩
  intro right
  have remainder := right.szseBin
  rw [value, data, sum] at remainder
  cases remainder

/-! ## The bytes taken in -/

/-- The buffer with another byte at a position, its indices where they were. -/
def ByteBuf.withByte (buf : ByteBuf) (i : Nat) (b : UInt8) : ByteBuf where
  buffer := buf.buffer.set i b
  readerIndex := buf.readerIndex
  writerIndex := buf.writerIndex
  reader_le := by
    rw [List.length_set]
    exact buf.reader_le
  writer_le := by
    rw [List.length_set]
    exact buf.writer_le

/-- A service takes in the whole of `data()`: its result is that on the same data unread,
and it depends on every byte. -/
structure Covers (service : ByteBuf → T) (buf : ByteBuf) : Prop where
  unread : service buf = service (.holding buf.data)
  whole : ∀ i b, (inside : i < buf.data.length) → buf.data[i] ≠ b →
    service (buf.withByte i b) ≠ service buf

structure ChecksumsCover (buf : ByteBuf) : Prop where
  crc16 : Covers crc16Calc buf
  crc32 : Covers crc32Calc buf
  sseBin : Covers sseBinCalc buf
  szseBin : Covers szseBinCalc buf

theorem ByteBuf.split_withByte (buf : ByteBuf) {i : Nat} (inside : i < buf.data.length) :
    ∃ front back, buf.data = front ++ buf.data[i] :: back ∧
      ∀ b, (buf.withByte i b).data = front ++ b :: back := by
  refine ⟨buf.data.take i, buf.data.drop (i + 1), ?_, ?_⟩
  · rw [← List.drop_eq_getElem_cons inside, List.take_append_drop]
  · intro b
    exact (List.set_eq_take_append_cons_drop).trans (if_pos inside)

theorem eq_of_setWidth_eq {w : Nat} (wide : 8 ≤ w) {a b : UInt8}
    (same : a.toBitVec.setWidth w = b.toBitVec.setWidth w) : a = b := by
  apply UInt8.toBitVec_inj.mp
  have low := congrArg (BitVec.setWidth 8) same
  rwa [BitVec.setWidth_setWidth_of_le _ wide, BitVec.setWidth_setWidth_of_le _ wide,
    BitVec.setWidth_eq, BitVec.setWidth_eq] at low

theorem crc16_covers (buf : ByteBuf) : Covers crc16Calc buf := by
  refine ⟨rfl, ?_⟩
  intro i b inside other same
  have registers := congrArg UInt16.toBitVec same
  obtain ⟨front, back, split, changed⟩ := buf.split_withByte inside
  rw [toBitVec_crc16Calc, toBitVec_crc16Calc, changed, split] at registers
  have top : (0xA001#16).getLsbD (16 - 1) = true := by decide
  exact other (eq_of_setWidth_eq (by decide) (Crc.eq_of_run top registers)).symm

theorem byteSum_withByte_ne (buf : ByteBuf) {i : Nat} {b : UInt8} (inside : i < buf.data.length)
    (other : buf.data[i] ≠ b) :
    byteSum (buf.withByte i b).data % 256 ≠ byteSum buf.data % 256 := by
  intro same
  obtain ⟨front, back, split, changed⟩ := buf.split_withByte inside
  have sum : ∀ x, byteSum (front ++ x :: back) = byteSum front + (x.toNat + byteSum back) :=
    fun x => byteSum_append front (x :: back)
  rw [changed, sum, split, sum] at same
  have old := UInt8.toNat_lt buf.data[i]
  have new := UInt8.toNat_lt b
  apply other
  apply UInt8.toNat_inj.mp
  omega

/-- A service whose result determines the sum modulo 256 takes in every byte. -/
theorem covers_of_byteSum {service : ByteBuf → T} (value : T → Nat)
    (unread : ∀ buf, service buf = service (.holding buf.data))
    (sum : ∀ buf, value (service buf) = byteSum buf.data % 256) (buf : ByteBuf) :
    Covers service buf := by
  refine ⟨unread buf, ?_⟩
  intro i b inside other same
  have values := congrArg value same
  rw [sum, sum] at values
  exact byteSum_withByte_ne buf inside other values

theorem sseBin_covers (buf : ByteBuf) : Covers sseBinCalc buf :=
  covers_of_byteSum UInt32.toNat (fun _ => rfl) toNat_sseBinCalc buf

/-- Wrapped or not, the result determines the sum modulo 256. -/
theorem szseBinCalc_emod (buf : ByteBuf) :
    (szseBinCalc buf).toInt % 256 = (byteSum buf.data % 256 : Nat) := by
  have modulus : ((Int32.size : Nat) : Int) = 4294967296 := rfl
  rw [toInt_szseBinCalc, szseAccumulator_eq, Int32.toInt_ofNat', Int.tmod_def, Int.bmod_def,
    modulus]
  split
  · omega
  · omega

theorem szseBin_covers (buf : ByteBuf) : Covers szseBinCalc buf := by
  have sum : ∀ buf, ((szseBinCalc buf).toInt % 256).toNat = byteSum buf.data % 256 := by
    intro buf
    rw [szseBinCalc_emod, Int.toNat_natCast]
  exact covers_of_byteSum (fun v => (v.toInt % 256).toNat) (fun _ => rfl) sum buf

/-! ### CRC-32 -/

/-- How many bytes `Crc32ChecksumService::calc` takes in. -/
def crc32Length (buf : ByteBuf) : Nat := buf.readableBytes % 2 ^ 32

theorem crc32Calc_eq (buf : ByteBuf) :
    crc32Calc buf = crc32 0 (buf.data.take (crc32Length buf)) := rfl

theorem eq_of_crc32 {x y : UInt8} {front back : List UInt8}
    (same : crc32 0 (front ++ x :: back) = crc32 0 (front ++ y :: back)) : x = y :=
  eq_of_setWidth_eq (by decide) (Crc.eq_of_run crc32_top (crc32_inj.mp same))

/-- It depends on every byte exactly when nothing has been read and the length is not cut
to zlib's `uInt`. -/
theorem crc32_covers_iff (buf : ByteBuf) :
    Covers crc32Calc buf ↔ buf.readerIndex = 0 ∧ buf.data.length < 2 ^ 32 := by
  constructor
  · intro covers
    apply Classical.byContradiction
    intro outside
    have bound := buf.reader_le
    have short : crc32Length buf < buf.data.length := by
      rw [crc32Length, ByteBuf.readableBytes, ← ByteBuf.data]
      rw [← ByteBuf.data] at bound
      omega
    -- the first byte behind the range, changed
    have unseen : crc32Calc (buf.withByte (crc32Length buf) (buf.data[crc32Length buf] + 1)) =
        crc32Calc buf := by
      have length : crc32Length (buf.withByte (crc32Length buf) (buf.data[crc32Length buf] + 1)) =
          crc32Length buf := by
        simp [crc32Length, ByteBuf.readableBytes, ByteBuf.withByte]
      have kept : (buf.data.set (crc32Length buf) (buf.data[crc32Length buf] + 1)).take
          (crc32Length buf) = buf.data.take (crc32Length buf) :=
        List.take_set_of_le (Nat.le_refl _)
      rw [crc32Calc_eq, crc32Calc_eq, length]
      exact congrArg (crc32 0) kept
    have other : buf.data[crc32Length buf] ≠ buf.data[crc32Length buf] + 1 := by
      intro same
      have values := congrArg UInt8.toNat same
      rw [UInt8.toNat_add] at values
      have range := UInt8.toNat_lt buf.data[crc32Length buf]
      have one : (1 : UInt8).toNat = 1 := rfl
      omega
    exact covers.whole _ _ short other unseen
  · rintro ⟨start, small⟩
    have whole : ∀ other : ByteBuf, other.readerIndex = 0 → other.data.length = buf.data.length →
        crc32Calc other = crc32 0 other.data := by
      intro other first length
      rw [crc32Calc_eq, crc32Length, ByteBuf.readableBytes, first, ← ByteBuf.data, Nat.sub_zero,
        length, Nat.mod_eq_of_lt small, ← length, List.take_length]
    refine ⟨?_, ?_⟩
    · exact (whole buf start rfl).trans (whole (.holding buf.data) rfl rfl).symm
    · intro i b inside other same
      have length : (buf.withByte i b).data.length = buf.data.length := List.length_set
      obtain ⟨front, back, split, changed⟩ := buf.split_withByte inside
      rw [whole buf start rfl, whole (buf.withByte i b) start length, changed, split] at same
      exact other (eq_of_crc32 same).symm

theorem crc32_differ {size m n : Nat} (shorter : m < n) (inside : n ≤ size) :
    ¬ ∀ data : List UInt8, data.length = size → crc32 0 (data.take m) = crc32 0 (data.take n) := by
  intro same
  have taken : ∀ b : UInt8, (List.replicate (n - 1) 0 ++ b :: List.replicate (size - n) 0).take n =
      List.replicate (n - 1) 0 ++ [b] := by
    intro b
    rw [List.take_append, List.take_of_length_le (by simp), List.length_replicate]
    have one : n - (n - 1) = 1 := by omega
    rw [one, List.take_succ_cons, List.take_zero]
  have kept : ∀ b : UInt8, (List.replicate (n - 1) 0 ++ b :: List.replicate (size - n) 0).take m =
      (List.replicate (n - 1) 0 : List UInt8).take m := by
    intro b
    exact List.take_append_of_le_length (by rw [List.length_replicate]; omega)
  have length : ∀ b : UInt8,
      (List.replicate (n - 1) 0 ++ b :: List.replicate (size - n) 0).length = size := by
    intro b
    rw [List.length_append, List.length_cons, List.length_replicate, List.length_replicate]
    omega
  have zero := same _ (length 0)
  have one := same _ (length 1)
  rw [kept, taken] at zero one
  exact absurd (eq_of_crc32 (zero.symm.trans one)) (by decide)

/-- The results agree with the unread ones, whatever the data, exactly where the lengths
agree as zlib's `uInt`. -/
theorem crc32_unread_iff (buf : ByteBuf) :
    (∀ other : ByteBuf, other.data.length = buf.data.length →
        other.readerIndex = buf.readerIndex → crc32Calc other = crc32Calc (.holding other.data)) ↔
      buf.readerIndex % 2 ^ 32 = 0 := by
  have bound := buf.reader_le
  rw [← ByteBuf.data] at bound
  constructor
  · intro same
    apply Classical.byContradiction
    intro cut
    have taken : ∀ data : List UInt8, data.length = buf.data.length →
        crc32 0 (data.take ((buf.data.length - buf.readerIndex) % 2 ^ 32)) =
          crc32 0 (data.take (buf.data.length % 2 ^ 32)) := by
      intro data length
      have result := same ⟨data, buf.readerIndex, 0, by omega, Nat.zero_le _⟩ length rfl
      rw [← length]
      exact result
    rcases Nat.lt_trichotomy ((buf.data.length - buf.readerIndex) % 2 ^ 32)
      (buf.data.length % 2 ^ 32) with fewer | equal | more
    · exact crc32_differ fewer (Nat.mod_le _ _) taken
    · omega
    · have inside : (buf.data.length - buf.readerIndex) % 2 ^ 32 ≤ buf.data.length := by omega
      apply crc32_differ more inside
      intro data length
      exact (taken data length).symm
  · intro whole other length start
    have lengths : crc32Length other = crc32Length (.holding other.data) := by
      have unread : (ByteBuf.holding other.data).readableBytes = other.data.length := rfl
      rw [crc32Length, crc32Length, unread, ByteBuf.readableBytes, ← ByteBuf.data, length, start]
      omega
    rw [crc32Calc_eq, crc32Calc_eq, lengths]
    rfl

/-- The services ignore the read cursor and take in every byte only on a buffer that is
unread and shorter than zlib's `uInt` counts; the other three always do. -/
theorem checksumsCover_iff (buf : ByteBuf) :
    (ChecksumsCover buf ↔ buf.readerIndex = 0 ∧ buf.data.length < 2 ^ 32) ∧
      ((∀ other : ByteBuf, other.data.length = buf.data.length →
          other.readerIndex = buf.readerIndex →
          crc32Calc other = crc32Calc (.holding other.data)) ↔ buf.readerIndex % 2 ^ 32 = 0) := by
  refine ⟨?_, crc32_unread_iff buf⟩
  rw [← crc32_covers_iff]
  constructor
  · intro all
    exact all.crc32
  · intro covers
    exact ⟨crc16_covers buf, covers, sseBin_covers buf, szseBin_covers buf⟩

/-- One byte written and read: CRC-32 is that of no bytes. -/
theorem crc32Calc_read :
    crc32Calc ((ByteBuf.holding [1]).advance 1) = crc32 0 [] ∧
      crc32Calc ((ByteBuf.holding [1]).advance 1) ≠ crc32Calc (.holding [1]) ∧
      ¬ ChecksumsCover ((ByteBuf.holding [1]).advance 1) := by
  have differ : crc32Calc ((ByteBuf.holding [1]).advance 1) ≠ crc32Calc (.holding [1]) := by
    decide +kernel
  refine ⟨rfl, differ, ?_⟩
  intro all
  exact differ all.crc32.unread

end FinProto
