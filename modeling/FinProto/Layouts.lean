import FinProto.Message
import FinProto.Wire.Layout

/-! The layouts of the codecs, and what to watch their readers for. -/
namespace FinProto

open Wire

/-- The prefix of type `T` a reader sizes something from. -/
def announced (T : Type) [Scalar T] : Announced UInt8 :=
  ⟨Scalar.size T, fun bytes => Scalar.toSize (Scalar.fromLe T bytes)⟩

theorem announced_value (T : Type) [Scalar T] (bytes : Bytes) :
    (announced T).value bytes = Scalar.toSize (Scalar.fromLe T bytes) := rfl

/-! ## What to watch for -/

/-- A number that sizes a container is at most what is left to read. -/
def Access.Covered : Access → Prop
  | .sized count readable => count ≤ readable
  | .subscript _ _ => True

/-- A subscript is an index of a buffer of `size` bytes. -/
def Access.InRange (size : Nat) : Access → Prop
  | .subscript index _ => index < size
  | .sized _ _ => True

/-- A number announced that exceeds the bytes behind it. -/
def announcesMore : Alarm := ⟨fun count readable => readable < count, fun _ _ => false⟩

/-- An empty string right at the end of the bytes. -/
def emptyAtEnd : Alarm := ⟨fun _ _ => false, fun length readable => length == 0 && readable == 0⟩

def oversized : Watch ByteBuf Access where
  alarm := announcesMore
  bad _ e := ¬ e.Covered
  steady _ _ _ := Iff.rfl

/-- A checked window starts outside `buffer_` only if it is empty and at the end. -/
def stray : Watch ByteBuf Access where
  alarm := emptyAtEnd
  bad buf e := ¬ e.InRange buf.buffer.length
  steady _ _ _ := Iff.rfl

/-- The alarm of a watch foretells what the primitives log. -/
class Watched (watch : Watch ByteBuf Access) : Prop where
  sizes : ∀ count (buf : ByteBuf), watch.bad buf (.sized count buf.readableBytes) ↔
    watch.alarm.sizes count (unread buf).length = true
  takes : ∀ n (buf : ByteBuf), n ≤ (unread buf).length →
    (watch.bad buf (.subscript buf.readerIndex n) ↔ watch.alarm.takes n (unread buf).length = true)
  inside : ∀ (buf : ByteBuf) index span, index < buf.buffer.length →
    ¬ watch.bad buf (.subscript index span)

instance : Watched oversized where
  sizes count buf := by simp [oversized, announcesMore, Access.Covered, ByteBuf.readableBytes_eq]
  takes n buf _ := by simp [oversized, announcesMore, Access.Covered]
  inside _ _ _ _ := not_not_intro trivial

instance : Watched stray where
  sizes count buf := by simp [stray, emptyAtEnd, Access.InRange]
  takes n buf enough := by
    rw [← ByteBuf.readableBytes_eq, ByteBuf.readableBytes] at enough ⊢
    have inside := buf.reader_le
    simp only [stray, emptyAtEnd, Access.InRange, Bool.and_eq_true, beq_iff_eq]
    omega
  inside _ _ _ bound := not_not_intro bound

/-! ## The primitives -/

theorem takes_walk {n : Nat} {f : List UInt8 → α} {log : ByteBuf → List Access} {sound} :
    Takes (Decoder.walk n f log sound) n f where
  enough buf bound := ByteBuf.walk_enough f (log buf) bound
  short buf missing := ⟨_, (ByteBuf.walk_short f (log buf) missing).1⟩

theorem log_walk {n : Nat} {f : List UInt8 → α} {log : ByteBuf → List Access} {sound}
    (buf : ByteBuf) : ((Decoder.walk n f log sound).run buf).log =
      if (unread buf).length < n then [] else log buf := by
  rw [← ByteBuf.readableBytes_eq]
  change (buf.walk n f (log buf)).log = _
  rw [ByteBuf.walk]
  split
  · rfl
  · rfl

theorem takes_readBytes (n : Nat) : Takes (readBytes n) n id := takes_walk

theorem takes_readLe (T : Type) [Scalar T] : Takes (readLe T) (Scalar.size T) (Scalar.fromLe T) :=
  takes_walk

variable {watch : Watch ByteBuf Access}

theorem quiet_walk {n : Nat} {f : List UInt8 → α} {log : ByteBuf → List Access} {sound}
    (harmless : ∀ buf : ByteBuf, n ≤ (unread buf).length → ∀ e ∈ log buf, ¬ watch.bad buf e) :
    Quiet watch (Decoder.walk n f log sound) := by
  refine ⟨fun buf e member => ?_⟩
  rw [log_walk] at member
  split at member
  · cases member
  · rename_i enough
    exact harmless buf (Nat.le_of_not_lt enough) e member

/-- What `read_bytes` logs is bad only for the window it takes. -/
theorem readBytes_bad_iff [Watched watch] (n : Nat) (buf : ByteBuf) :
    (∃ e ∈ ((readBytes n).run buf).log, watch.bad buf e) ↔
      (if (unread buf).length < n then false
        else watch.alarm.takes n (unread buf).length) = true := by
  rw [readBytes, log_walk]
  split
  · simp
  · rename_i enough
    rw [← Watched.takes n buf (Nat.le_of_not_lt enough)]
    simp

/-- Subscripts within the window are never bad. -/
theorem quiet_of_inside [Watched watch] {n : Nat} {f : List UInt8 → α}
    {log : ByteBuf → List Access} {sound}
    (inside : ∀ buf, ∀ e ∈ log buf, ∃ i span, e = .subscript (buf.readerIndex + i) span ∧ i < n) :
    Quiet watch (Decoder.walk n f log sound) := by
  apply quiet_walk
  intro buf enough e member
  obtain ⟨i, span, rfl, bound⟩ := inside buf e member
  apply Watched.inside
  rw [← ByteBuf.readableBytes_eq, ByteBuf.readableBytes] at enough
  omega

instance [Watched watch] (f : UInt8 → α) : Quiet watch (readByte f) := by
  apply quiet_of_inside
  intro buf e member
  exact ⟨0, _, List.mem_singleton.mp member, Nat.one_pos⟩

instance [Watched watch] (n : Nat) [positive : NeZero n] : Quiet watch (readBytes n) := by
  apply quiet_of_inside
  intro buf e member
  exact ⟨0, _, List.mem_singleton.mp member, Nat.pos_of_ne_zero positive.out⟩

/-- No read of a window sizes anything. -/
theorem quiet_of_subscripts {n : Nat} {f : List UInt8 → α} {log : ByteBuf → List Access} {sound}
    (subscripts : ∀ buf, ∀ e ∈ log buf, ∃ index span, e = .subscript index span) :
    Quiet oversized (Decoder.walk n f log sound) := by
  apply quiet_walk
  intro buf _ e member
  obtain ⟨index, span, rfl⟩ := subscripts buf e member
  exact not_not_intro trivial

theorem mem_scalarAccesses {T : Type} [Scalar T] {buf : ByteBuf} {e : Access}
    (member : e ∈ scalarAccesses T buf) :
    ∃ i span, e = .subscript (buf.readerIndex + i) span ∧ i < max 1 (Scalar.size T) := by
  unfold scalarAccesses at member
  split at member
  · exact ⟨0, _, List.mem_singleton.mp member, by omega⟩
  · obtain ⟨i, range, rfl⟩ := List.mem_map.mp member
    have bound := List.mem_range.mp range
    exact ⟨i, 1, rfl, by omega⟩

instance (T : Type) [Scalar T] : Quiet oversized (readLe T) := by
  apply quiet_of_subscripts
  intro buf e member
  obtain ⟨i, span, same, _⟩ := mem_scalarAccesses member
  exact ⟨_, span, same⟩

instance (n : Nat) : Quiet oversized (readBytes n) := by
  apply quiet_of_subscripts
  intro buf e member
  exact ⟨_, _, List.mem_singleton.mp member⟩

instance [Watched watch] (T : Type) [Scalar T] [positive : NeZero (Scalar.size T)] :
    Quiet watch (readLe T) := by
  apply quiet_of_inside
  intro buf e member
  obtain ⟨i, span, same, bound⟩ := mem_scalarAccesses member
  have nonzero := positive.out
  exact ⟨i, span, same, by omega⟩

/-! ## The layouts of the readers -/

section
variable (T : Type) [Scalar T] [Quiet watch (readLe T)]

instance follows_readLe : Follows watch (readLe T) (.fixed (Scalar.size T) .done) :=
  .fixed (takes_readLe T)

instance follows_read : Follows watch (read T false) (.fixed (Scalar.size T) .done) :=
  follows_readLe T

variable [Watched watch]

instance follows_readStringLe : Follows watch (readStringLe T) (.text (announced T) .done) :=
  .text (fun _ _ => trivial) (takes_readLe T) takes_readBytes (announced_value T) Watched.sizes
    readBytes_bad_iff

instance follows_readString : Follows watch (readString T) (.text (announced T) .done) :=
  follows_readStringLe T

instance follows_readCounted {p : Decoder α} [Follows watch p layout] :
    Follows watch (readCounted (readLe T) p) (.list (announced T) layout .done) :=
  .list (fun _ _ => trivial) (takes_readLe T) (announced_value T) Watched.sizes

end

/-! ### Fixed strings and lists -/

section
variable (n : Nat) [Quiet watch (readBytes n)] (trimPadChar : UInt8) (padLeft : Bool)

theorem readFixedStringPad_eq :
    readFixedStringPad n trimPadChar padLeft =
      (fun s => trimPad s trimPadChar padLeft) <$> readBytes n :=
  bind_pure_comp _ _

omit [Quiet watch (readBytes n)] in
theorem takes_readFixedStringPad :
    Takes (readFixedStringPad n trimPadChar padLeft) n
      (fun s => trimPad s trimPadChar padLeft) := by
  rw [readFixedStringPad_eq]
  exact (takes_readBytes n).map _

instance follows_readFixedStringPad :
    Follows watch (readFixedStringPad n trimPadChar padLeft) (.fixed n .done) := by
  rw [readFixedStringPad_eq]
  have window : Follows watch (readBytes n) (.fixed n .done) := .fixed (takes_readBytes n)
  exact .map _

variable (T K M : Type) [Scalar T] [Scalar K] [BinaryCodec M] [Quiet watch (readLe T)]
  [Quiet watch (readLe K)] [Watched watch]

instance : Follows watch (readStringListLe T K)
    (.list (announced T) (.text (announced K) .done) .done) := follows_readCounted T

instance : Follows watch (readStringList T K)
    (.list (announced T) (.text (announced K) .done) .done) := follows_readCounted T

instance : Follows watch (readFixedStringListLePad T n trimPadChar padLeft)
    (.list (announced T) (.fixed n .done) .done) := follows_readCounted T

instance : Follows watch (readFixedStringListPad T n trimPadChar padLeft)
    (.list (announced T) (.fixed n .done) .done) := follows_readCounted T

instance : Follows watch (readBasicTypeLe T K)
    (.list (announced T) (.fixed (Scalar.size K) .done) .done) := follows_readCounted T

instance : Follows watch (readBasicType T K)
    (.list (announced T) (.fixed (Scalar.size K) .done) .done) := follows_readCounted T

instance [Follows watch (decode (M := M)) layout] : Follows watch (readObjectListLe T M)
    (.list (announced T) layout .done) := follows_readCounted T

instance [Follows watch (decode (M := M)) layout] : Follows watch (readObjectList T M)
    (.list (announced T) layout .done) := follows_readCounted T

end

/-! ### Objects -/

section
variable {Key Tag : Type} [BEq Key] {types : Tag → MessageType} {layout : Tag → Layout UInt8}

/-- The layout of the object a factory creates for a key. -/
def created (layout : Tag → Layout UInt8) (factory : MessageFactory Key Tag) (key : Key) :
    Layout UInt8 :=
  match factory.find key with
  | some type => layout type
  | none => .stop

theorem textless_created (textless : ∀ type, (layout type).Textless)
    (factory : MessageFactory Key Tag) (key : Key) : (created layout factory key).Textless := by
  rw [created]
  cases factory.find key with
  | none => trivial
  | some type => exact textless type

end

/-! ### Objects selected by an `applId` -/

section
variable {Tag : Type} {layout : Tag → Layout UInt8} {between : Nat}
  {factory : MessageFactory Bytes Tag}

/-- An `applId`, `between` bytes, and the `applExtend` it selects. -/
def extended (layout : Tag → Layout UInt8) (between : Nat) (factory : MessageFactory Bytes Tag) :
    Layout UInt8 :=
  .choose 3 fun bytes => .skip between (created layout factory (trimPad bytes space false))

/-- The same behind `partitionNo` and `reportIndex`. -/
def reportExtended (layout : Tag → Layout UInt8) (between : Nat)
    (factory : MessageFactory Bytes Tag) : Layout UInt8 :=
  .fixed 12 (extended layout between factory)

theorem textless_extended (textless : ∀ type, (layout type).Textless) (between : Nat)
    (factory : MessageFactory Bytes Tag) : (extended layout between factory).Textless :=
  fun _ => Layout.textless_skip between (textless_created textless factory _)

end

end FinProto
