import FinProto.ByteBuf
import FinProto.Wire.Crc

/-! The checksum services and the context that hands them out by name. -/
namespace FinProto

open Wire

/-! ## The algorithms -/

/-- One turn of the inner loop of `Crc16ChecksumService::calc`. -/
def crc16Shift (crc : UInt16) : UInt16 :=
  if crc &&& 0x0001 != 0 then (crc >>> 1) ^^^ 0xA001 else crc >>> 1

def crc16Byte (crc : UInt16) (b : UInt8) : UInt16 :=
  Nat.repeat crc16Shift 8 (crc ^^^ b.toUInt16)

/-- `Crc16ChecksumService::calc`. -/
def crc16Calc (data : ByteBuf) : UInt16 := data.data.foldl crc16Byte 0xFFFF

/-- zlib's `crc32(crc, p, n)` over the `n` bytes at `p`: the reflected register
of CRC-32, complemented on the way in and out. -/
def crc32 (crc : UInt32) (bytes : List UInt8) : UInt32 :=
  ⟨~~~ Crc.run 0xEDB88320 (~~~ crc.toBitVec) bytes⟩

/-- `Crc32ChecksumService::calc`. The range starts at `data()`, is as long as
what is left to read, and its length is narrowed to zlib's `uInt`. -/
def crc32Calc (data : ByteBuf) : UInt32 :=
  crc32 0 (data.data.take (data.readableBytes % 2 ^ 32))

/-- `SseBinChecksumService::calc`. -/
def sseBinCalc (data : ByteBuf) : UInt32 :=
  data.data.foldl (fun checksum b => (checksum + b.toUInt32) &&& 0xFF) 0

/-- `SzseBinChecksumService::calc`, on a machine whose `int32_t` wraps. -/
def szseBinCalc (data : ByteBuf) : Int32 :=
  data.data.foldl (fun checksum b => checksum + b.toUInt32.toInt32) 0 % 256

/-! ## What they compute -/

def byteSum (bytes : List UInt8) : Nat := (bytes.map UInt8.toNat).sum

theorem byteSum_append (a b : List UInt8) : byteSum (a ++ b) = byteSum a + byteSum b := by
  simp [byteSum]

/-- `SSE_BIN`: the sum of the bytes modulo 256. -/
def sseBin (bytes : List UInt8) : UInt32 := UInt32.ofNat (byteSum bytes % 256)

/-- `SZSE_BIN`: the same sum as an `int32_t`. -/
def szseBin (bytes : List UInt8) : Int32 := Int32.ofNat (byteSum bytes % 256)

/-- Reducing after every byte is reducing at the end. -/
theorem foldl_and_eq (bytes : List UInt8) (n : Nat) :
    bytes.foldl (fun checksum b => (checksum + b.toUInt32) &&& 0xFF) (UInt32.ofNat (n % 256)) =
      UInt32.ofNat ((n + byteSum bytes) % 256) := by
  induction bytes generalizing n with
  | nil => rfl
  | cons b bytes ih =>
    have low : ∀ k : Nat, k &&& 255 = k % 256 := fun k => Nat.and_two_pow_sub_one_eq_mod k 8
    have small : (n + b.toNat) % 256 % 4294967296 = (n + b.toNat) % 256 := by omega
    have step : (UInt32.ofNat (n % 256) + b.toUInt32) &&& 0xFF =
        UInt32.ofNat ((n + b.toNat) % 256) := by
      apply UInt32.toNat_inj.mp
      simp [low, small]
    rw [List.foldl_cons, step, ih, byteSum, byteSum, List.map_cons, List.sum_cons, Nat.add_assoc]

theorem sseBinCalc_eq (buf : ByteBuf) : sseBinCalc buf = sseBin buf.data := by
  have whole := foldl_and_eq buf.data 0
  rwa [Nat.zero_add] at whole

theorem foldl_add_eq (bytes : List UInt8) (n : Nat) :
    bytes.foldl (fun checksum b => checksum + b.toUInt32.toInt32) (Int32.ofNat n) =
      Int32.ofNat (n + byteSum bytes) := by
  induction bytes generalizing n with
  | nil => rfl
  | cons b bytes ih =>
    have step : Int32.ofNat n + b.toUInt32.toInt32 = Int32.ofNat (n + b.toNat) := by
      have widened : b.toUInt32 = UInt32.ofNat b.toNat := by
        apply UInt32.toNat_inj.mp
        simp
      rw [Int32.ofNat_add, widened, UInt32.toInt32_ofNat']
    rw [List.foldl_cons, step, ih, byteSum, byteSum, List.map_cons, List.sum_cons, Nat.add_assoc]

/-- The remainder of a wrapped sum has the sign of what it wrapped to. -/
theorem tmod_bmod_eq_iff (e o : Nat) :
    (Int.bmod (e + o : Nat) Int32.size).tmod 256 = (o % 256 : Nat) ↔
      e % 256 = 0 ∧ (o % 256 = 0 ∨ (e + o) % 2 ^ 32 < 2 ^ 31) := by
  have modulus : ((Int32.size : Nat) : Int) = 4294967296 := rfl
  rw [Int.bmod_def, modulus]
  split
  · rename_i low
    have positive : 0 ≤ ((e + o : Nat) : Int) % 4294967296 := by omega
    rw [Int.tmod_eq_emod_of_nonneg positive]
    omega
  · rename_i high
    have negative : ((e + o : Nat) : Int) % 4294967296 - 4294967296 =
        -(4294967296 - ((e + o : Nat) : Int) % 4294967296) := by omega
    have magnitude : 0 ≤ 4294967296 - ((e + o : Nat) : Int) % 4294967296 := by omega
    rw [negative, Int.neg_tmod, Int.tmod_eq_emod_of_nonneg magnitude]
    omega

/-- So it is the checksum of `own` only while the sum is no negative `int32_t`, or the
remainder is zero. -/
theorem szseBinCalc_eq_iff {buf : ByteBuf} {earlier own : List UInt8}
    (data : buf.data = earlier ++ own) :
    szseBinCalc buf = szseBin own ↔ byteSum earlier % 256 = 0 ∧
      (byteSum own % 256 = 0 ∨ (byteSum earlier + byteSum own) % 2 ^ 32 < 2 ^ 31) := by
  have folded : szseBinCalc buf = Int32.ofNat (byteSum earlier + byteSum own) % 256 := by
    have whole := foldl_add_eq buf.data 0
    rw [Nat.zero_add, data, byteSum_append, ← data] at whole
    exact congrArg (· % 256) whole
  have remainder : ∀ a : Int32, (a % 256).toInt = a.toInt.tmod 256 := by
    intro a
    exact BitVec.toInt_srem a.toBitVec (256 : Int32).toBitVec
  have target : (szseBin own).toInt = (byteSum own % 256 : Nat) := by
    rw [szseBin, Int32.toInt_ofNat_of_lt (by omega)]
  rw [← Int32.toInt_inj, folded, remainder, target, Int32.toInt_ofNat']
  exact tmod_bmod_eq_iff (byteSum earlier) (byteSum own)

/-- The generator has its constant term, so the register loses nothing. -/
theorem crc32_top : (0xEDB88320#32).getLsbD (32 - 1) = true := by decide

theorem crc32_inj {a b : List UInt8} :
    crc32 0 a = crc32 0 b ↔ Crc.run 0xEDB88320 (~~~0#32) a = Crc.run 0xEDB88320 (~~~0#32) b := by
  constructor
  · intro same
    have registers := congrArg (fun c => ~~~ c.toBitVec) same
    simp only [crc32, BitVec.not_not] at registers
    exact registers
  · intro same
    exact congrArg (fun c => (⟨~~~ c⟩ : UInt32)) same

/-! ## The context -/

/-- What a `ChecksumService<Input, Output>` computes: from a `ByteBuf` to one of the output types
in use, or between any other two types. -/
inductive Calc where
  | u16 (f : ByteBuf → UInt16)
  | u32 (f : ByteBuf → UInt32)
  | i32 (f : ByteBuf → Int32)
  | other (Input Output : Type) (f : Input → Output)
    (apart : Input = ByteBuf → Output ≠ UInt16 ∧ Output ≠ UInt32 ∧ Output ≠ Int32)

/-- An `IChecksumService`: its name and what it computes. -/
structure ChecksumService where
  algorithm : String
  calculation : Calc

def crc16Service : ChecksumService := ⟨"CRC16", .u16 crc16Calc⟩
def crc32Service : ChecksumService := ⟨"CRC32", .u32 crc32Calc⟩
def sseBinService : ChecksumService := ⟨"SSE_BIN", .u32 sseBinCalc⟩
def szseBinService : ChecksumService := ⟨"SZSE_BIN", .i32 szseBinCalc⟩

/-- The target of `std::dynamic_pointer_cast<ChecksumService<ByteBuf, Output>>`. -/
class ServiceOutput (Output : Type) where
  cast : Calc → Option (ByteBuf → Output)

instance : ServiceOutput UInt32 where
  cast
    | .u32 f => some f
    | _ => none

instance : ServiceOutput Int32 where
  cast
    | .i32 f => some f
    | _ => none

/-- The services registered so far. -/
structure ChecksumServiceContext where
  services : List ChecksumService

namespace ChecksumServiceContext

def find (ctx : ChecksumServiceContext) (algo : String) : Option ChecksumService :=
  ctx.services.find? (fun service => service.algorithm == algo)

/-- A name that is taken keeps its service. -/
def registerService (ctx : ChecksumServiceContext) (service : ChecksumService) :
    ChecksumServiceContext :=
  match ctx.find service.algorithm with
  | some _ => ctx
  | none => ⟨ctx.services ++ [service]⟩

/-- What every call of `instance()` registers. -/
def builtins : List ChecksumService := [crc16Service, crc32Service, sseBinService, szseBinService]

/-- `instance()` as its first call returns it. -/
def shared : ChecksumServiceContext := builtins.foldl registerService ⟨[]⟩

def get (Output : Type) [ServiceOutput Output] (ctx : ChecksumServiceContext) (algo : String) :
    Option (ByteBuf → Output) :=
  (ctx.find algo).bind (fun service => ServiceOutput.cast service.calculation)

end ChecksumServiceContext

end FinProto
