import FinProto.Packet

/-! The length field: it counts what `writer_index_` counts, so it is the size of the
body exactly for bodies that consist of words. -/
namespace FinProto

open Wire

/-! ## What each writer leaves uncounted -/

namespace Encoder

@[simp] theorem uncounted_writeString (T : Type) [Scalar T] (s : Bytes) :
    (writeString T s).uncounted = s.length := by
  simp [writeString]

@[simp] theorem uncounted_writeFixedStringPad (s : Bytes) (n : Nat) (pad : UInt8) (left : Bool) :
    (writeFixedStringPad s n pad left).uncounted = n := by
  rw [uncounted, bytes_writeFixedStringPad, length_padTo, counted_writeFixedStringPad, Nat.sub_zero]

@[simp] theorem counted_writeString (T : Type) [Scalar T] (s : Bytes) :
    (writeString T s).counted = Scalar.size T := rfl

@[simp] theorem counted_writeFixedString (s : Bytes) (n : Nat) :
    (writeFixedString s n).counted = 0 :=
  counted_writeFixedStringPad s n space false

theorem uncounted_seq_map (w : α → Encoder) (list : List α) :
    (seq (list.map w)).uncounted = (list.map fun a => (w a).uncounted).sum := by
  induction list with
  | nil => rfl
  | cons a list ih => simp [ih]

@[simp] theorem uncounted_writeFixedString (s : Bytes) (n : Nat) :
    (writeFixedString s n).uncounted = n :=
  uncounted_writeFixedStringPad s n space false

@[simp] theorem uncounted_writeCounted (count : Encoder) (w : α → Encoder) (list : List α) :
    (writeCounted count w list).uncounted =
      count.uncounted + (list.map fun a => (w a).uncounted).sum := by
  rw [writeCounted, uncounted_andThen, uncounted_seq_map]

/-- A list leaves nothing uncounted when none of its elements does. -/
theorem sum_uncounted_eq_zero {f : α → Nat} {list : List α} :
    (list.map f).sum = 0 ↔ ∀ a ∈ list, f a = 0 := by
  induction list with
  | nil => simp
  | cons a list ih => simp [ih]

section
variable (T : Type) [Scalar T]

@[simp] theorem uncounted_writeFixedStringList (list : List Bytes) (n : Nat) :
    (writeFixedStringList T list n).uncounted = list.length * n := by
  simp [writeFixedStringList, writeFixedStringListPad, List.map_const']

@[simp] theorem uncounted_writeBasicTypeLe [Scalar K] (list : List K) :
    (writeBasicTypeLe T K list).uncounted = 0 := by
  rw [writeBasicTypeLe, uncounted_writeCounted, uncounted_writeLe, Nat.zero_add,
    sum_uncounted_eq_zero]
  intro value _
  exact uncounted_writeLe value

@[simp] theorem uncounted_writeBasicType [Scalar K] (list : List K) :
    (writeBasicType T K list).uncounted = 0 :=
  uncounted_writeBasicTypeLe T list

@[simp] theorem uncounted_writeObjectListLe [BinaryCodec K] (list : List K) :
    (writeObjectListLe T list).uncounted = (list.map fun m => (encode m).uncounted).sum := by
  simp [writeObjectListLe]

@[simp] theorem uncounted_writeObjectList [BinaryCodec K] (list : List K) :
    (writeObjectList T list).uncounted = (list.map fun m => (encode m).uncounted).sum :=
  uncounted_writeObjectListLe T list

/-- Objects that each leave a byte uncounted make a list that leaves none only when
there are no objects. -/
theorem uncounted_writeObjectList_eq_zero [BinaryCodec K]
    (narrow : ∀ m : K, (encode m).uncounted ≠ 0) (list : List K) :
    (writeObjectList T list).uncounted = 0 ↔ list = [] := by
  rw [uncounted_writeObjectList, sum_uncounted_eq_zero, List.eq_nil_iff_forall_not_mem]
  constructor
  · intro none m member
    exact narrow m (none m member)
  · intro empty m member
    exact absurd member (empty m)

end

end Encoder

/-! ## Bodies that consist of words -/

/-- Cancels and cancel rejects without text. Every other body has a one-byte field. -/
def Rc.wordsOnly : Rc.Body → Prop
  | ⟨.orderCancel, (m : Rc.OrderCancel)⟩ =>
    m.uniqueOrderId = [] ∧ m.uniqueOrigOrderId = [] ∧ m.clOrdId = [] ∧ m.origClOrdId = [] ∧
    m.securityId = []
  | ⟨.cancelReject, (m : Rc.CancelReject)⟩ =>
    m.uniqueOrderId = [] ∧ m.uniqueOrigOrderId = [] ∧ m.clOrdId = [] ∧ m.origClOrdId = []
  | _ => False

/-- Bodies without fixed-width strings, or whose lists of them are empty. -/
def Sse.wordsOnly : Sse.Body → Prop
  | ⟨.heartbeat, _⟩ => True
  | ⟨.platformState, _⟩ => True
  | ⟨.execRptInfo, (m : Sse.ExecRptInfo)⟩ => m.pbu = []
  | ⟨.execRptSync, (m : Sse.ExecRptSync)⟩ => m.subExecRptSync = []
  | ⟨.execRptSyncRsp, (m : Sse.ExecRptSyncRsp)⟩ => m.subExecRptSyncRsp = []
  | _ => False

/-- The administrative bodies that hold integers only. -/
def Szse.wordsOnly (body : Szse.Body) : Prop :=
  body.type = .heartbeat ∨ body.type = .reportSynchronization ∨ body.type = .platformStateInfo ∨
  body.type = .reportFinished ∨ body.type = .platformPartition

def Root.wordsOnly (payload : Root.Body) : Prop :=
  payload.type = .nestedPacket ∨ payload.type = .emptyPacket

theorem Rc.wordsOnly_iff (body : Rc.Body) : Rc.wordsOnly body ↔ body.encode.uncounted = 0 := by
  obtain ⟨type, m⟩ := body
  cases type with
  | newOrder =>
    change False ↔ (encode (M := NewOrder) m).uncounted = 0
    simp [encode]
  | orderConfirm =>
    change False ↔ (encode (M := OrderConfirm) m).uncounted = 0
    simp [encode]
  | executionReport =>
    change False ↔ (encode (M := ExecutionReport) m).uncounted = 0
    simp [encode]
  | orderCancel =>
    change _ ↔ (encode (M := OrderCancel) m).uncounted = 0
    simp [encode, wordsOnly]
  | cancelReject =>
    change _ ↔ (encode (M := CancelReject) m).uncounted = 0
    simp [encode, wordsOnly]
  | riskResult =>
    change False ↔ (encode (M := RiskResult) m).uncounted = 0
    simp [encode]

theorem Sse.wordsOnly_iff (body : Sse.Body) :
    Sse.wordsOnly body ↔ body.encode.uncounted = 0 := by
  obtain ⟨type, m⟩ := body
  cases type with
  | heartbeat =>
    change _ ↔ (encode (M := Heartbeat) m).uncounted = 0
    simp [encode, wordsOnly]
  | logon =>
    change _ ↔ (encode (M := Logon) m).uncounted = 0
    simp [encode, wordsOnly]
  | logout =>
    change _ ↔ (encode (M := Logout) m).uncounted = 0
    simp [encode, wordsOnly]
  | newOrderSingle =>
    change _ ↔ (encode (M := NewOrderSingle) m).uncounted = 0
    simp [encode, wordsOnly]
  | orderCancel =>
    change _ ↔ (encode (M := OrderCancel) m).uncounted = 0
    simp [encode, wordsOnly]
  | confirm =>
    change _ ↔ (encode (M := Confirm) m).uncounted = 0
    simp [encode, wordsOnly]
  | cancelReject =>
    change _ ↔ (encode (M := CancelReject) m).uncounted = 0
    simp [encode, wordsOnly]
  | report =>
    change _ ↔ (encode (M := Report) m).uncounted = 0
    simp [encode, wordsOnly]
  | orderReject =>
    change _ ↔ (encode (M := OrderReject) m).uncounted = 0
    simp [encode, wordsOnly]
  | platformState =>
    change _ ↔ (encode (M := PlatformState) m).uncounted = 0
    simp [encode, wordsOnly]
  | execRptInfo =>
    change _ ↔ (encode (M := ExecRptInfo) m).uncounted = 0
    simp [encode, wordsOnly]
  | execRptSync =>
    have narrow : ∀ o : SubExecRptSync, (encode o).uncounted ≠ 0 := by
      intro o
      simp [encode]
    change _ ↔ (Encoder.seq [writeObjectList UInt16 (ExecRptSync.subExecRptSync m)]).uncounted = 0
    rw [Encoder.uncounted_seq_cons, Encoder.uncounted_seq_nil, Nat.add_zero,
      Encoder.uncounted_writeObjectList_eq_zero UInt16 narrow]
    rfl
  | execRptSyncRsp =>
    have narrow : ∀ o : SubExecRptSyncRsp, (encode o).uncounted ≠ 0 := by
      intro o
      simp [encode]
    change _ ↔
      (Encoder.seq [writeObjectList UInt16 (ExecRptSyncRsp.subExecRptSyncRsp m)]).uncounted = 0
    rw [Encoder.uncounted_seq_cons, Encoder.uncounted_seq_nil, Nat.add_zero,
      Encoder.uncounted_writeObjectList_eq_zero UInt16 narrow]
    rfl
  | execRptEndOfStream =>
    change _ ↔ (encode (M := ExecRptEndOfStream) m).uncounted = 0
    simp [encode, wordsOnly]

theorem Szse.wordsOnly_iff (body : Szse.Body) :
    Szse.wordsOnly body ↔ body.encode.uncounted = 0 := by
  obtain ⟨type, m⟩ := body
  cases type with
  | logon =>
    change _ ↔ (encode (M := Logon) m).uncounted = 0
    simp [encode, wordsOnly]
  | logout =>
    change _ ↔ (encode (M := Logout) m).uncounted = 0
    simp [encode, wordsOnly]
  | heartbeat =>
    change _ ↔ (encode (M := Heartbeat) m).uncounted = 0
    simp [encode, wordsOnly]
  | newOrder =>
    change _ ↔ (encode (M := NewOrder) m).uncounted = 0
    simp [encode, wordsOnly]
  | executionConfirm =>
    change _ ↔ (encode (M := ExecutionConfirm) m).uncounted = 0
    simp [encode, wordsOnly]
  | executionReport =>
    change _ ↔ (encode (M := ExecutionReport) m).uncounted = 0
    simp [encode, wordsOnly]
  | orderCancelRequest =>
    change _ ↔ (encode (M := OrderCancelRequest) m).uncounted = 0
    simp [encode, wordsOnly]
  | cancelReject =>
    change _ ↔ (encode (M := CancelReject) m).uncounted = 0
    simp [encode, wordsOnly]
  | businessReject =>
    change _ ↔ (encode (M := BusinessReject) m).uncounted = 0
    simp [encode, wordsOnly]
  | reportSynchronization =>
    change _ ↔ (encode (M := ReportSynchronization) m).uncounted = 0
    simp [encode, wordsOnly]
  | platformStateInfo =>
    change _ ↔ (encode (M := PlatformStateInfo) m).uncounted = 0
    simp [encode, wordsOnly]
  | reportFinished =>
    change _ ↔ (encode (M := ReportFinished) m).uncounted = 0
    simp [encode, wordsOnly]
  | platformPartition =>
    change _ ↔ (encode (M := PlatformPartition) m).uncounted = 0
    simp [encode, wordsOnly]
  | tradingSessionStatus =>
    change _ ↔ (encode (M := TradingSessionStatus) m).uncounted = 0
    simp [encode, wordsOnly]

theorem Root.wordsOnly_iff (payload : Root.Body) :
    Root.wordsOnly payload ↔ payload.encode.uncounted = 0 := by
  obtain ⟨type, m⟩ := payload
  cases type with
  | basicPacket =>
    change _ ↔ (encode (M := BasicPacket) m).uncounted = 0
    simp [encode, wordsOnly]
  | stringPacket =>
    change _ ↔ (encode (M := StringPacket) m).uncounted = 0
    simp [encode, wordsOnly]
  | nestedPacket =>
    change _ ↔ (encode (M := NestedPacket) m).uncounted = 0
    simp [encode, wordsOnly]
  | emptyPacket =>
    change _ ↔ (encode (M := EmptyPacket) m).uncounted = 0
    simp [encode, wordsOnly]

/-- The frames whose body leaves nothing uncounted. -/
def SizedPacket.wordsOnly : SizedPacket → Prop
  | rc m => Rc.wordsOnly m.body
  | sse m => Sse.wordsOnly m.body
  | szse m => Szse.wordsOnly m.body
  | root m => Root.wordsOnly m.payload

theorem SizedPacket.wordsOnly_iff (m : SizedPacket) : m.wordsOnly ↔ m.body.uncounted = 0 := by
  cases m with
  | rc m => exact Rc.wordsOnly_iff m.body
  | sse m => exact Sse.wordsOnly_iff m.body
  | szse m => exact Szse.wordsOnly_iff m.body
  | root m => exact Root.wordsOnly_iff m.payload

/-! ## The stored length -/

/-- The length word standing at `lengthAt`. -/
def storedLength (lengthAt : Nat) (buf : ByteBuf) : Nat :=
  (Scalar.fromLe UInt32 ((buf.data.drop lengthAt).take 4)).toNat

/-- Encoding into a new buffer stores as the length how many bytes the body appended. -/
def StoresBodyLength (m : SizedPacket) : Prop :=
  ∃ buf, m.encode .new = .ok buf ∧ storedLength m.lengthOffset buf = m.body.bytes.length

theorem SizedFrame.storedLength_new {F : Type} [SizedFrame F] (m : F) :
    ∃ buf, SizedFrame.encode m .new = .ok buf ∧
      storedLength (sized m).lengthOffset buf = (sized m).lengthWord.toNat := by
  obtain ⟨buf, encoded, _, data⟩ := encode_new m
  have window : (buf.data.drop (sized m).lengthOffset).take 4 =
      Scalar.leBytes (sized m).lengthWord := by
    rw [data]
    simp only [spelled, Sized.spelled, Sized.lengthOffset, List.append_assoc, List.drop_left]
    exact List.take_left' (Scalar.length_leBytes _)
  exact ⟨buf, encoded, by rw [storedLength, window, Scalar.fromLe_leBytes]⟩

/-- What is stored is what `writer_index_` counted of the body. -/
theorem SizedPacket.storedLength_new (m : SizedPacket) (short : m.body.bytes.length < 2 ^ 32) :
    ∃ buf, m.encode .new = .ok buf ∧ storedLength m.lengthOffset buf = m.body.counted := by
  have word : m.sized.lengthWord.toNat = m.body.counted := by
    rw [Sized.lengthWord, m.body_sized]
    exact UInt32.toNat_ofNat_of_lt' (Nat.lt_of_le_of_lt m.body.counted_le short)
  rw [← word, ← m.lengthOffset_sized]
  cases m with
  | rc m => exact SizedFrame.storedLength_new m
  | sse m => exact SizedFrame.storedLength_new m
  | szse m => exact SizedFrame.storedLength_new m
  | root m => exact SizedFrame.storedLength_new m

/-- The length field is the size of the body exactly for bodies that consist of words. -/
theorem storesBodyLength_iff_wordsOnly (m : SizedPacket) (short : m.body.bytes.length < 2 ^ 32) :
    StoresBodyLength m ↔ m.wordsOnly := by
  have counted := m.body.counted_le
  obtain ⟨buf, encoded, stored⟩ := m.storedLength_new short
  rw [m.wordsOnly_iff]
  constructor
  · intro stores
    obtain ⟨other, encoded', right⟩ := stores
    cases encoded.symm.trans encoded'
    rw [Encoder.uncounted, ← right, stored, Nat.sub_self]
  · intro none
    refine ⟨buf, encoded, ?_⟩
    rw [stored]
    simp only [Encoder.uncounted] at none
    omega

/-- A nested packet carries a right length. -/
theorem storesBodyLength_nestedPacket :
    StoresBodyLength (.root ⟨3, 0, ⟨.nestedPacket, {
      subPacket := ⟨1, [-1, 2]⟩, subPacketList := [⟨2, []⟩, ⟨3, [7]⟩],
      inerPacket := ⟨4, []⟩ : Root.NestedPacket }⟩, 0⟩) :=
  (storesBodyLength_iff_wordsOnly _ (by decide)).mpr (.inl rfl)

/-- A cancel reject with one byte of text: a body of 21 bytes is stored as 20. -/
theorem cancelReject_short :
    let reject : SizedPacket := .rc ⟨290008, 1, 0, .cancelReject, {
      uniqueOrderId := ascii "A", uniqueOrigOrderId := [], clOrdId := [], origClOrdId := [],
      cxlRejReason := 0 : Rc.CancelReject }⟩
    reject.body.bytes.length = 21 ∧
    (∃ buf, reject.encode .new = .ok buf ∧ storedLength reject.lengthOffset buf = 20) ∧
    ¬ StoresBodyLength reject := by
  intro reject
  have size : reject.body.bytes.length = 21 := rfl
  obtain ⟨buf, encoded, stored⟩ := reject.storedLength_new (by decide)
  have twenty : storedLength reject.lengthOffset buf = 20 := stored
  refine ⟨size, ⟨buf, encoded, twenty⟩, ?_⟩
  intro stores
  obtain ⟨other, encoded', right⟩ := stores
  cases encoded.symm.trans encoded'
  rw [twenty, size] at right
  exact absurd right (by decide)

end FinProto
