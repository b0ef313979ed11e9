import FinProto.LengthField

/-! What the trailing checksum is computed from. The services see the whole buffer
(or its first `readable_bytes()`), so the word is the checksum of the frame alone only
where the earlier bytes happen to be neutral. -/
namespace FinProto

open Wire

namespace Sized

/-- What is in the buffer when the checksum is computed: the earlier bytes and the
frame, with the length word where `writer_index_` puts it. -/
def laid (f : Sized) (buf : ByteBuf) : Bytes :=
  ByteBuf.splice (buf.data ++ f.spelled 0) (buf.writerIndex + f.lengthOffset)
    (Scalar.leBytes f.lengthWord)

/-- The earlier bytes, after as much of the length word as falls among them. -/
def earlier (f : Sized) (buf : ByteBuf) : Bytes := (f.laid buf).take buf.data.length

/-- The frame's header and body as they stand in the buffer. -/
def own (f : Sized) (buf : ByteBuf) : Bytes := (f.laid buf).drop buf.data.length

theorem data_written (f : Sized) (buf : ByteBuf) : (f.written buf).data = f.laid buf :=
  f.buffer_written buf

theorem length_laid (f : Sized) (buf : ByteBuf) :
    (f.laid buf).length = buf.data.length + f.lengthOffset + 4 + f.body.bytes.length := by
  rw [← data_written]
  exact f.length_buffer_written buf

theorem laid_eq (f : Sized) (buf : ByteBuf) : f.laid buf = f.earlier buf ++ f.own buf :=
  (List.take_append_drop _ _).symm

/-- While the lag is at most the length offset, the earlier bytes are as they were. -/
theorem earlier_of_lag (f : Sized) {buf : ByteBuf} (small : buf.lag ≤ f.lengthOffset) :
    f.earlier buf = buf.data := by
  rw [earlier, ← data_written]
  exact f.take_buffer_written small

/-- Past that, the length word stands among the earlier bytes, or its first byte does. -/
theorem earlier_of_patched (f : Sized) {buf : ByteBuf} {c : UInt8} {pos : Nat}
    (position : buf.writerIndex + f.lengthOffset = pos)
    (word : Scalar.leBytes f.lengthWord = [c, 0, 0, 0]) (among : pos < buf.data.length) :
    f.earlier buf = buf.data.take pos ++
      c :: ([0, 0, 0] ++ buf.data.drop (pos + 4)).take (buf.data.length - pos - 1) := by
  have front : (buf.data.take pos).length = pos := List.length_take_of_le (Nat.le_of_lt among)
  have next : buf.data.length - pos = buf.data.length - pos - 1 + 1 := by omega
  have back : ∀ n, n ≤ (buf.data.drop (pos + 4)).length →
      ((buf.data ++ f.spelled 0).drop (pos + 4)).take n = (buf.data.drop (pos + 4)).take n := by
    intro n inside
    rw [List.drop_append, List.take_append_of_le_length inside]
  rw [earlier, laid, position, word, ByteBuf.splice,
    List.take_append_of_le_length (Nat.le_of_lt among), List.append_assoc, List.take_append, front,
    List.take_of_length_le (by omega), next, List.cons_append, List.take_succ_cons,
    Nat.add_sub_cancel, List.take_append, List.take_append]
  congr 3
  apply back
  rw [List.length_drop, List.length_cons, List.length_cons, List.length_cons, List.length_nil]
  omega

end Sized

/-- The word `encode` ends with is the checksum of the bytes it appended before it. -/
def ChecksumOfOwn [Scalar T] (encode : FrameEncoder) (checksum : Bytes → T) (buf : ByteBuf) :
    Prop :=
  ∃ out own, encode buf = .ok out ∧
    out.data.drop buf.data.length = own ++ Scalar.leBytes (checksum own)

theorem SizedFrame.checksumOfOwn_iff {F : Type} [SizedFrame F] [Scalar T] (m : F)
    {service : ByteBuf → T} (word : ∀ buf, (trailer m buf).bytes = Scalar.leBytes (service buf))
    (sum : Bytes → T) (buf : ByteBuf) :
    ChecksumOfOwn (encode m) sum buf ↔
      service ((sized m).written buf) = sum ((sized m).own buf) := by
  have kept : buf.data.length ≤ ((sized m).laid buf).length := by
    rw [Sized.length_laid]
    omega
  have appended : ((trailer m ((sized m).written buf)).run ((sized m).written buf)).data.drop
      buf.data.length =
        (sized m).own buf ++ Scalar.leBytes (service ((sized m).written buf)) := by
    have data := (trailer m ((sized m).written buf)).buffer_run ((sized m).written buf)
    rw [← ByteBuf.data, ← ByteBuf.data, Sized.data_written, word] at data
    rw [data, List.drop_append_of_le_length kept, Sized.own]
  constructor
  · intro right
    obtain ⟨out, own, encoded, split⟩ := right
    cases (encode_eq m buf).symm.trans encoded
    rw [appended] at split
    obtain ⟨front, back⟩ := List.append_inj' split (by simp)
    rw [front]
    exact Scalar.leBytes_inj.mp back
  · intro right
    exact ⟨_, _, encode_eq m buf, by rw [appended, right]⟩

theorem Sse.checksumOfOwn_iff (m : SseBinary) (buf : ByteBuf) :
    ChecksumOfOwn m.encode sseBin buf ↔ byteSum (m.sized.earlier buf) % 256 = 0 := by
  have words := SizedFrame.checksumOfOwn_iff m (fun _ => rfl) sseBin buf
  have range : UInt32.size = 4294967296 := rfl
  refine words.trans ?_
  change sseBinCalc (m.sized.written buf) = sseBin (m.sized.own buf) ↔ _
  rw [sseBinCalc_eq, Sized.data_written, Sized.laid_eq, sseBin, sseBin, byteSum_append,
    ← UInt32.toNat_inj, UInt32.toNat_ofNat_of_lt' (by omega), UInt32.toNat_ofNat_of_lt' (by omega)]
  omega

theorem Szse.checksumOfOwn_iff (m : SzseBinary) (buf : ByteBuf) :
    ChecksumOfOwn m.encode szseBin buf ↔
      byteSum (m.sized.earlier buf) % 256 = 0 ∧ (byteSum (m.sized.own buf) % 256 = 0 ∨
        (byteSum (m.sized.earlier buf) + byteSum (m.sized.own buf)) % 2 ^ 32 < 2 ^ 31) := by
  have words := SizedFrame.checksumOfOwn_iff m (fun _ => rfl) szseBin buf
  exact words.trans (szseBinCalc_eq_iff ((m.sized.data_written buf).trans (m.sized.laid_eq buf)))

/-! ### CRC-32 -/

theorem Root.checksumOfOwn_iff (m : RootPacket) (buf : ByteBuf) :
    ChecksumOfOwn m.encode (crc32 0) buf ↔
      crc32 0 ((m.sized.laid buf).take
        (((m.sized.laid buf).length - buf.readerIndex) % 2 ^ 32)) = crc32 0 (m.sized.own buf) := by
  have words := SizedFrame.checksumOfOwn_iff m (fun _ => rfl) (crc32 0) buf
  refine words.trans ?_
  change crc32Calc (m.sized.written buf) = _ ↔ _
  rw [crc32Calc, ByteBuf.readableBytes, m.sized.readerIndex_written, ← ByteBuf.data,
    Sized.data_written]
  rfl

/-- With nothing read, the word is right exactly when the earlier bytes leave the
register where it started. -/
theorem Root.checksumOfOwn_iff_of_unread (m : RootPacket) (buf : ByteBuf)
    (unread : buf.readerIndex = 0) (short : (m.sized.laid buf).length < 2 ^ 32) :
    ChecksumOfOwn m.encode (crc32 0) buf ↔ crc32 0 (m.sized.earlier buf) = 0 := by
  have whole : (m.sized.laid buf).take (((m.sized.laid buf).length - buf.readerIndex) % 2 ^ 32) =
      m.sized.earlier buf ++ m.sized.own buf := by
    rw [unread, Nat.sub_zero, Nat.mod_eq_of_lt short, List.take_length, Sized.laid_eq]
  have neutral : crc32 0 (m.sized.earlier buf) = 0 ↔
      crc32 0 (m.sized.earlier buf) = crc32 0 [] := Iff.rfl
  rw [checksumOfOwn_iff, whole, neutral, crc32_inj, crc32_inj, Crc.run_append]
  constructor
  · intro same
    exact Crc.run_injective crc32_top same
  · intro start
    rw [start]
    rfl

/-! With something read, the last bytes of the frame are left out: of two frames that
differ there, one gets the wrong word. -/

namespace Root

/-- Nested packets that differ in the third byte from their end, the top byte of the
last 32-bit field. -/
def probe (fieldU32 : UInt32) : RootPacket :=
  ⟨3, 0, ⟨.nestedPacket, {
    subPacket := ⟨0, []⟩, subPacketList := [], inerPacket := ⟨fieldU32, []⟩ : NestedPacket }⟩, 0⟩

def probeFront : Bytes := 3 :: List.replicate 16 0

theorem spelled_probe : (probe 0).sized.spelled 0 = probeFront ++ [0, 0, 0] ∧
    (probe 0x1000000).sized.spelled 0 = probeFront ++ [1, 0, 0] := by decide

/-- The probe's bytes in the buffer up to the differing one. -/
def probeLaid (buf : ByteBuf) : Bytes :=
  ByteBuf.splice (buf.data ++ probeFront) (buf.writerIndex + 2) [14, 0, 0, 0]

theorem probe_inside (buf : ByteBuf) :
    buf.writerIndex + 2 + [14, 0, 0, 0].length ≤ (buf.data ++ probeFront).length := by
  have bound := buf.writer_le
  simp only [ByteBuf.data, List.length_append, probeFront, List.length_cons, List.length_replicate,
    List.length_nil]
  omega

theorem length_probeLaid (buf : ByteBuf) : (probeLaid buf).length = buf.data.length + 17 := by
  rw [probeLaid, ByteBuf.length_splice (probe_inside buf), List.length_append]
  rfl

theorem word_probe (fieldU32 : UInt32) :
    Scalar.leBytes (probe fieldU32).sized.lengthWord = [14, 0, 0, 0] := by
  have value : (probe fieldU32).sized.lengthWord = 14 := rfl
  rw [value]
  decide

theorem laid_probe (buf : ByteBuf) : (probe 0).sized.laid buf = probeLaid buf ++ [0, 0, 0] ∧
    (probe 0x1000000).sized.laid buf = probeLaid buf ++ [1, 0, 0] := by
  constructor
  · rw [Sized.laid, spelled_probe.1, ← List.append_assoc, word_probe, (probe 0).lengthOffset_sized,
      ByteBuf.splice_append (probe_inside buf), probeLaid]
  · rw [Sized.laid, spelled_probe.2, ← List.append_assoc, word_probe,
      (probe 0x1000000).lengthOffset_sized, ByteBuf.splice_append (probe_inside buf), probeLaid]

/-- Of the frame's last three bytes as many are left out as bytes were read before. -/
theorem take_probe {buf : ByteBuf} (short : buf.data.length + 20 < 2 ^ 32) (tail : Bytes)
    (width : tail.length = 3) :
    (probeLaid buf ++ tail).take (((probeLaid buf ++ tail).length - buf.readerIndex) % 2 ^ 32) =
      (probeLaid buf).take (buf.data.length + 20 - buf.readerIndex) ++
        tail.take (3 - buf.readerIndex) := by
  have length := length_probeLaid buf
  have total : (probeLaid buf ++ tail).length = buf.data.length + 20 := by
    rw [List.length_append, length, width]
  have small : buf.data.length + 20 - buf.readerIndex < 2 ^ 32 := by omega
  have rest : buf.data.length + 20 - buf.readerIndex - (buf.data.length + 17) =
      3 - buf.readerIndex := by omega
  rw [total, Nat.mod_eq_of_lt small, List.take_append, length, rest]

/-- A right word equates two registers: over the bytes it covers and over the frame. -/
theorem registers_of_checksumOfOwn {buf : ByteBuf} (short : buf.data.length + 20 < 2 ^ 32)
    {m : RootPacket} {tail : Bytes} (width : tail.length = 3)
    (laid : m.sized.laid buf = probeLaid buf ++ tail)
    (right : ChecksumOfOwn m.encode (crc32 0) buf) :
    Crc.run 0xEDB88320 (Crc.run 0xEDB88320 (~~~0#32)
        ((probeLaid buf).take (buf.data.length + 20 - buf.readerIndex)))
        (tail.take (3 - buf.readerIndex)) =
      Crc.run 0xEDB88320 (Crc.run 0xEDB88320 (~~~0#32) ((probeLaid buf).drop buf.data.length))
        tail := by
  have inside : buf.data.length ≤ (probeLaid buf).length := by
    rw [length_probeLaid]
    omega
  rwa [checksumOfOwn_iff, Sized.own, laid, take_probe short tail width,
    List.drop_append_of_le_length inside, crc32_inj, Crc.run_append, Crc.run_append] at right

/-- If both probes got the right word, the differing byte would show neither outside
the range nor, after as many turns as bytes were left out, at its end. -/
theorem probes_not_both {buf : ByteBuf} (read : 0 < buf.readerIndex)
    (short : buf.data.length + 20 < 2 ^ 32) :
    ¬ (ChecksumOfOwn (probe 0).encode (crc32 0) buf ∧
      ChecksumOfOwn (probe 0x1000000).encode (crc32 0) buf) := by
  intro both
  have zero := registers_of_checksumOfOwn short rfl (laid_probe buf).1 both.1
  have one := registers_of_checksumOfOwn short rfl (laid_probe buf).2 both.2
  have cases : buf.readerIndex = 1 ∨ buf.readerIndex = 2 ∨ 3 ≤ buf.readerIndex := by omega
  rcases cases with left | left | left
  · rw [left] at zero one
    have turns := Crc.shifts_eq_of_runs crc32_top (r := 1) rfl zero one
    exact absurd turns (by decide)
  · rw [left] at zero one
    have turns := Crc.shifts_eq_of_runs crc32_top (r := 2) rfl zero one
    exact absurd turns (by decide)
  · have none : 3 - buf.readerIndex = 0 := by omega
    rw [none] at zero one
    exact Crc.run_cons_ne crc32_top (by decide) _ (one.symm.trans zero)

/-- Once the length word lands among the earlier bytes, frames of different sizes
leave different registers behind there. -/
theorem earlier_probe_ne {buf : ByteBuf} (behind : 2 < buf.lag) :
    let empty : RootPacket := ⟨4, 0, ⟨.emptyPacket, {}⟩, 0⟩
    crc32 0 ((probe 0).sized.earlier buf) ≠ crc32 0 (empty.sized.earlier buf) := by
  intro empty same
  have zero : empty.sized.lengthWord = 0 := rfl
  have blank : Scalar.leBytes empty.sized.lengthWord = [0, 0, 0, 0] := by
    rw [zero]
    decide
  have position : ∀ m : RootPacket,
      buf.writerIndex + m.sized.lengthOffset = buf.writerIndex + 2 := by
    intro m
    rw [m.lengthOffset_sized]
  have among : buf.writerIndex + 2 < buf.data.length := by
    simp only [ByteBuf.lag, ByteBuf.data] at behind ⊢
    omega
  rw [Sized.earlier_of_patched _ (position _) (word_probe 0) among,
    Sized.earlier_of_patched _ (position _) blank among, crc32_inj, Crc.run_append,
    Crc.run_append] at same
  exact Crc.run_cons_ne crc32_top (by decide) _ same

/-- Every `RootPacket` gets the right word exactly in a buffer of which nothing has been
read, whose bytes leave the register where it started, and whose `writer_index_` lags
by no more than the length offset. -/
theorem checksumOfOwn_all_iff {buf : ByteBuf} (short : buf.data.length + 20 < 2 ^ 32) :
    (∀ m : RootPacket, (m.sized.laid buf).length < 2 ^ 32 → ChecksumOfOwn m.encode (crc32 0) buf) ↔
      buf.readerIndex = 0 ∧ buf.lag ≤ 2 ∧ crc32 0 buf.data = 0 := by
  have fits : ∀ fieldU32, ((probe fieldU32).sized.laid buf).length < 2 ^ 32 := by
    intro fieldU32
    rw [Sized.length_laid]
    exact short
  constructor
  · intro right
    have unread : buf.readerIndex = 0 := by
      rcases Nat.eq_zero_or_pos buf.readerIndex with unread | read
      · exact unread
      · exact absurd ⟨right _ (fits 0), right _ (fits 0x1000000)⟩ (probes_not_both read short)
    have neutral : ∀ m : RootPacket, (m.sized.laid buf).length < 2 ^ 32 →
        crc32 0 (m.sized.earlier buf) = 0 := by
      intro m small
      exact (checksumOfOwn_iff_of_unread m buf unread small).mp (right m small)
    have level : buf.lag ≤ 2 := by
      apply Nat.le_of_not_lt
      intro behind
      apply earlier_probe_ne behind
      rw [neutral _ (fits 0), neutral]
      rw [Sized.length_laid]
      exact Nat.lt_of_le_of_lt (Nat.add_le_add_left (by decide : 6 ≤ 20) _) short
    refine ⟨unread, level, ?_⟩
    have first := neutral _ (fits 0)
    rwa [(probe 0).sized.earlier_of_lag level] at first
  · intro clean m small
    obtain ⟨unread, level, neutral⟩ := clean
    have same : m.sized.earlier buf = buf.data :=
      m.sized.earlier_of_lag (m.lengthOffset_sized ▸ level)
    rw [checksumOfOwn_iff_of_unread m buf unread small, same, neutral]

end Root

/-- The trailing word is the checksum of the frame's own bytes exactly when the
earlier bytes are neutral: for `SseBinary` when their sum is, for `SzseBinary` when it
is and the whole sum stays an `int32_t` or the remainder is zero, for `RootPacket`
with nothing read when their CRC-32 is zero. A buffer gives every `RootPacket` the right
word exactly when nothing of it has been read and its CRC-32 is zero. -/
theorem checksums_cover_own_iff (sse : Sse.SseBinary) (szse : Szse.SzseBinary)
    (root : Root.RootPacket) (buf : ByteBuf) :
    (ChecksumOfOwn sse.encode sseBin buf ↔ byteSum (sse.sized.earlier buf) % 256 = 0) ∧
    (ChecksumOfOwn szse.encode szseBin buf ↔
      byteSum (szse.sized.earlier buf) % 256 = 0 ∧ (byteSum (szse.sized.own buf) % 256 = 0 ∨
        (byteSum (szse.sized.earlier buf) + byteSum (szse.sized.own buf)) % 2 ^ 32 < 2 ^ 31)) ∧
    (buf.readerIndex = 0 → (root.sized.laid buf).length < 2 ^ 32 →
      (ChecksumOfOwn root.encode (crc32 0) buf ↔ crc32 0 (root.sized.earlier buf) = 0)) ∧
    (buf.data.length + 20 < 2 ^ 32 →
      ((∀ m : Root.RootPacket, (m.sized.laid buf).length < 2 ^ 32 →
        ChecksumOfOwn m.encode (crc32 0) buf) ↔
          buf.readerIndex = 0 ∧ buf.lag ≤ 2 ∧ crc32 0 buf.data = 0)) :=
  ⟨Sse.checksumOfOwn_iff sse buf, Szse.checksumOfOwn_iff szse buf,
    Root.checksumOfOwn_iff_of_unread root buf, Root.checksumOfOwn_all_iff⟩

/-- In a new buffer the words are right; in one read past its first byte not all are. -/
theorem checksums_cover_own_new :
    let beat : Sse.SseBinary := ⟨33, 0, 0, ⟨.heartbeat, {}⟩, 0⟩
    let pulse : Szse.SzseBinary := ⟨3, 0, ⟨.heartbeat, {}⟩, 0⟩
    let empty : Root.RootPacket := ⟨4, 0, ⟨.emptyPacket, {}⟩, 0⟩
    let read : ByteBuf := (ByteBuf.holding [1]).advance 1
    ChecksumOfOwn beat.encode sseBin .new ∧ ChecksumOfOwn pulse.encode szseBin .new ∧
    ChecksumOfOwn empty.encode (crc32 0) .new ∧
    ¬ ∀ m : Root.RootPacket, (m.sized.laid read).length < 2 ^ 32 →
      ChecksumOfOwn m.encode (crc32 0) read := by
  intro beat pulse empty read
  obtain ⟨sse, szse, root, _⟩ := checksums_cover_own_iff beat pulse empty .new
  refine ⟨sse.mpr (by decide), szse.mpr (by decide), (root rfl (by decide)).mpr (by decide), ?_⟩
  intro right
  have all := (checksums_cover_own_iff beat pulse empty read).2.2.2 (by decide)
  have unread : read.readerIndex = 0 := (all.mp right).1
  exact absurd unread (by decide)

/-- Two heartbeats in one buffer: the second sums up the first as well. A nested packet
behind an empty one that was read: its word covers the first and half of the second. -/
theorem second_frame_sums_first :
    (let beat : Sse.SseBinary := ⟨33, 0, 0, ⟨.heartbeat, {}⟩, 0⟩
    ∃ buf, beat.encode .new = .ok buf ∧ ¬ ChecksumOfOwn beat.encode sseBin buf) ∧
    (let empty : Root.RootPacket := ⟨4, 0, ⟨.emptyPacket, {}⟩, 0⟩
    ∃ buf, empty.encode .new = .ok buf ∧
      ¬ ChecksumOfOwn (Root.probe 0).encode (crc32 0) (Root.RootPacket.decode.run buf).state) := by
  constructor
  · intro beat
    refine ⟨_, SizedFrame.encode_eq beat .new, ?_⟩
    rw [Sse.checksumOfOwn_iff]
    decide
  · intro empty
    refine ⟨_, SizedFrame.encode_eq empty .new, ?_⟩
    rw [Root.checksumOfOwn_iff]
    decide +kernel

end FinProto
