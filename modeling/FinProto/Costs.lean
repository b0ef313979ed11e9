import FinProto.Verdict
import FinProto.Wire.Budget

/-! How much the decodes reserve. Every number that sizes a container is paid for by bytes that
were there, as long as the decode accepts; one that throws leaves a prefix unpaid for each list
or string it was in. -/
namespace FinProto

open Wire

/-- What an access sizes. -/
def Access.size : Access → Nat
  | .sized count _ => count
  | .subscript _ _ => 0

/-- The largest number a prefix of type `T` announces. -/
def prefixLimit (T : Type) [Scalar T] : Nat := 2 ^ (8 * Scalar.size T) - 1

theorem toSize_le_prefixLimit {T : Type} [Scalar T] (value : T) :
    Scalar.toSize value ≤ prefixLimit T :=
  Nat.le_sub_one_of_lt (Scalar.toBits value).isLt

/-! ## The readers -/

theorem free_walk {n : Nat} {f : List UInt8 → α} {log : ByteBuf → List Access} {sound}
    (subscripts : ∀ buf, ∀ e ∈ log buf, ∃ index span, e = .subscript index span) (buf : ByteBuf) :
    total Access.size ((Decoder.walk n f log sound).run buf).log = 0 := by
  rw [log_walk]
  split
  · rfl
  · apply total_free
    intro e member
    obtain ⟨index, span, rfl⟩ := subscripts buf e member
    rfl

theorem free_readBytes (n : Nat) (buf : ByteBuf) :
    total Access.size ((readBytes n).run buf).log = 0 :=
  free_walk (fun _ _ member => ⟨_, _, List.mem_singleton.mp member⟩) buf

theorem free_readLe (T : Type) [Scalar T] (buf : ByteBuf) :
    total Access.size ((readLe T).run buf).log = 0 := by
  refine free_walk (fun buf e member => ?_) buf
  obtain ⟨i, span, same, _⟩ := mem_scalarAccesses member
  exact ⟨_, span, same⟩

/-- What a decode reserves is told from its layout. -/
theorem Along.frugal {limit : Nat} {p : Decoder α} {layout : Layout UInt8} (along : Along p layout) :
    ∀ depth, layout.Affordable limit depth →
      Frugal Access.size layout.width (depth * limit) p := by
  have deeper : ∀ {depth}, 0 < depth → (depth - 1) * limit + limit = depth * limit := by
    intro depth deep
    rw [← Nat.succ_mul, Nat.succ_eq_add_one, Nat.sub_add_cancel deep]
  induction along with
  | pure a => exact fun _ _ => .pure a
  | stopped k => exact fun _ _ => .throw unknownType
  | byte f =>
    intro _ _
    exact .take takes_walk
      (free_walk fun _ _ member => ⟨_, _, List.mem_singleton.mp member⟩)
  | bytes n => exact fun _ _ => .take (takes_readBytes n) (free_readBytes n)
  | scalar T => exact fun _ _ => .take (takes_readLe T) (free_readLe T)
  | text T =>
    intro depth affordable
    obtain ⟨deep, small, _⟩ := affordable
    rw [← deeper deep]
    exact .counted Scalar.toSize (fun count (buf : ByteBuf) => Access.sized count buf.readableBytes)
      (fun _ _ => trivial) (.take (takes_readLe T) (free_readLe T)) (fun _ _ => rfl)
      (fun _ _ success => (takes_readLe T).value success ▸ small _)
      fun n => .take (takes_readBytes n) (free_readBytes n)
  | @list T _ _ _ p layout element ih =>
    intro depth affordable
    obtain ⟨deep, small, wide, inner, _⟩ := affordable
    have each := (ih (depth - 1) inner).weaken wide
    have elements : ∀ n, Frugal Access.size n ((depth - 1) * limit) (p.times n) := by
      intro n
      have paid := each.pays.times n
      rw [Nat.mul_one] at paid
      exact ⟨paid, .times each.pays.weaken each.within n⟩
    rw [← deeper deep]
    exact .counted Scalar.toSize (fun count (buf : ByteBuf) => Access.sized count buf.readableBytes)
      (fun _ _ => trivial) (.take (takes_readLe T) (free_readLe T)) (fun _ _ => rfl)
      (fun _ _ success => (takes_readLe T).value success ▸ small _) elements
  | map _ g ih => exact fun depth affordable => (ih depth affordable).map g
  | @bind _ _ p _ layout after first second ih ih' =>
    intro depth affordable
    have follows : Follows oversized p layout := first.follows
    have front := ih depth (Layout.affordable_front affordable)
    refine (front.bind fun s a success => ih' a depth ?_).weaken (Layout.width_andThen layout after)
    exact Layout.affordable_behind affordable (follows.tracks.accepts s a success)
  | choose takes first second ih ih' =>
    intro depth affordable
    have front := ih depth trivial
    refine front.bind fun s a success => (ih' a depth ?_).weaken (Nat.zero_le _)
    rw [takes.value success]
    exact affordable _

/-! ## The classes and the frames -/

@[simp]
theorem announced_le (T : Type) [Scalar T] (bytes : Bytes) :
    (announced T).value bytes ≤ prefixLimit T := toSize_le_prefixLimit _

@[simp]
theorem announced_width (T : Type) [Scalar T] : (announced T).width = Scalar.size T := rfl

theorem affordable_created {Key Tag : Type} [BEq Key] {limit depth : Nat}
    {layout : Tag → Layout UInt8} (classes : ∀ type, (layout type).Affordable limit depth)
    (factory : MessageFactory Key Tag) (key : Key) :
    (created layout factory key).Affordable limit depth := by
  rw [created]
  cases factory.find key with
  | none => trivial
  | some type => exact classes type

/-- Behind the key of a frame: the rest of the header, the body and the checksum. -/
theorem affordable_framed {Key Tag : Type} [BEq Key] {limit depth : Nat}
    {layout : Tag → Layout UInt8} (classes : ∀ type, (layout type).Affordable limit depth)
    (header : Nat) (factory : MessageFactory Key Tag) (key : Key) :
    (Layout.skip header ((created layout factory key).andThen (.fixed 4 .done))).Affordable
      limit depth := by
  have body := affordable_created classes factory key
  have checksum : (Layout.fixed 4 .done : Layout UInt8).Affordable limit depth := trivial
  exact (Layout.affordable_skip header _).mpr (Layout.affordable_andThen body checksum)

/-! ### The layouts -/

theorem Rc.affordable_body (type : Rc.BodyType) :
    (Rc.bodyLayout type).Affordable (prefixLimit UInt32) 1 := by
  cases type <;> simp [Rc.bodyLayout, Layout.Affordable]

theorem Sse.affordable_body (type : Sse.BodyType) :
    (Sse.bodyLayout type).Affordable (prefixLimit UInt16) 1 := by
  cases type <;> simp [Sse.bodyLayout, Layout.Affordable, Layout.width]

theorem Szse.affordable_extend (type : Szse.ExtendType) :
    (Szse.extendLayout type).Affordable (prefixLimit UInt32) 1 := by
  cases type <;> simp [Szse.extendLayout, Layout.Affordable]

theorem Bjse.affordable_extend (type : Bjse.ExtendType) :
    (Bjse.extendLayout type).Affordable (prefixLimit UInt16) 1 := by
  cases type <;> simp [Bjse.extendLayout, Layout.Affordable, Layout.width]

theorem affordable_extended {Tag : Type} {limit depth : Nat} {layout : Tag → Layout UInt8}
    (classes : ∀ type, (layout type).Affordable limit depth) (between : Nat)
    (factory : MessageFactory Bytes Tag) :
    (extended layout between factory).Affordable limit depth :=
  fun _ => (Layout.affordable_skip between _).mpr (affordable_created classes factory _)

theorem Szse.affordable_body (type : Szse.BodyType) :
    (Szse.bodyLayout type).Affordable (prefixLimit UInt32) 1 := by
  cases type
  case newOrder | executionConfirm | executionReport =>
    exact affordable_extended affordable_extend _ _
  all_goals simp [Szse.bodyLayout, Layout.Affordable, Layout.width]

theorem Bjse.affordable_body (type : Bjse.BodyType) :
    (Bjse.bodyLayout type).Affordable (prefixLimit UInt16) 1 := by
  cases type
  case newOrder | executionConfirm | executionReport =>
    exact affordable_extended affordable_extend _ _
  all_goals simp [Bjse.bodyLayout, Layout.Affordable, Layout.width]

theorem Bjse.affordable_unlisted (type : Bjse.UnlistedType) :
    (Bjse.unlistedLayout type).Affordable (prefixLimit UInt16) 1 := by
  cases type
  case quote | tradeCaptureReport | quoteStatusReport | allegeQuote | tradeCaptureReportAck
    | tradeCaptureConfirm =>
    exact affordable_extended affordable_extend _ _
  case quoteResponse =>
    simp [Bjse.unlistedLayout, Layout.Affordable, Layout.width,
      affordable_created affordable_extend]
  all_goals simp [Bjse.unlistedLayout, Layout.Affordable, Layout.width]

theorem Root.affordable_subPacket :
    Root.subPacketLayout.Affordable (prefixLimit UInt16) 1 := by
  simp [Root.subPacketLayout, Root.fixedList, Layout.Affordable, Layout.width]

theorem Root.affordable_body (type : Root.BodyType) :
    (Root.bodyLayout type).Affordable (prefixLimit UInt16) 2 := by
  have element : 0 < Root.subPacketLayout.width := Nat.add_pos_left (Nat.succ_pos 3) _
  have size : 0 < Scalar.size UInt16 := Nat.succ_pos 1
  cases type <;>
    simp [Root.bodyLayout, Root.fixedList, Layout.Affordable, Layout.width, element, size,
      Root.affordable_subPacket]

/-! ### All of them -/

/-- The largest number a prefix of this class, or of an object in it, announces. -/
def MessageClass.limit : MessageClass → Nat
  | .rc _ | .szse _ | .szseExtend _ | .szsePartitionReport | .szsePlatformInfo =>
    prefixLimit UInt32
  | _ => prefixLimit UInt16

/-- How many prefixes may be waiting for their elements at once. -/
def MessageClass.depth : MessageClass → Nat
  | .root _ => 2
  | _ => 1

/-- Every number a class reads to size something is within the limit, every element takes a
byte, and its lists are no deeper than that. -/
theorem MessageClass.affordable (c : MessageClass) : c.layout.Affordable c.limit c.depth := by
  cases c with
  | rc type => exact Rc.affordable_body type
  | sse type => exact Sse.affordable_body type
  | szse type => exact Szse.affordable_body type
  | szseExtend type => exact Szse.affordable_extend type
  | bjse type => exact Bjse.affordable_body type
  | bjseExtend type => exact Bjse.affordable_extend type
  | bjseUnlisted type => exact Bjse.affordable_unlisted type
  | root type => exact Root.affordable_body type
  | subPacket | inerPacket => exact Root.affordable_subPacket
  | subExecRptSync | subExecRptSyncRsp | szsePartitionReport | szsePlatformInfo | quote1
  | reportPartitionSync | noPartitions =>
    simp [layout, limit, depth, Szse.platformInfoLayout, Layout.Affordable, Layout.width]

namespace Parse

def limit : Parse → Nat
  | .rc | .szse => prefixLimit UInt32
  | .sse | .bjse | .root => prefixLimit UInt16
  | .message c => c.limit

def depth : Parse → Nat
  | .root => 2
  | .message c => c.depth
  | _ => 1

theorem affordable (parse : Parse) : parse.layout.Affordable parse.limit parse.depth := by
  cases parse with
  | rc =>
    intro key
    exact (Layout.affordable_skip _ _).mpr (affordable_created Rc.affordable_body _ _)
  | sse => exact fun _ => affordable_framed Sse.affordable_body _ _ _
  | szse => exact fun _ => affordable_framed Szse.affordable_body _ _ _
  | bjse => exact fun _ => affordable_framed Bjse.affordable_body _ _ _
  | root => exact fun _ => affordable_framed Root.affordable_body _ _ _
  | message c => exact c.affordable

theorem frugal (parse : Parse) :
    Frugal Access.size parse.layout.width (parse.depth * parse.limit) parse.decode :=
  parse.along.frugal parse.depth parse.affordable

/-- In a decode that accepts, the numbers that sized containers add up to no more than the bytes
it took. -/
def PaysForSizes (parse : Parse) : Prop :=
  ∀ (buf : ByteBuf) (m : parse.Result), (parse.decode.run buf).value = .ok m →
    total Access.size (parse.decode.run buf).log + (parse.decode.run buf).state.readableBytes ≤
      buf.readableBytes

/-- In any decode, also one that throws, they add up to no more than the bytes it took and one
largest prefix for each level of lists. -/
def BoundsSizes (parse : Parse) : Prop :=
  ∀ buf : ByteBuf,
    total Access.size (parse.decode.run buf).log + (parse.decode.run buf).state.readableBytes ≤
      buf.readableBytes + parse.depth * parse.limit

end Parse

theorem decodes_frugal (parse : Parse) : parse.PaysForSizes := by
  intro buf m accepted
  rw [ByteBuf.readableBytes_eq, ByteBuf.readableBytes_eq]
  exact (parse.frugal.weaken (Nat.zero_le _)).pays buf m accepted

theorem decodes_bounded (parse : Parse) : parse.BoundsSizes := by
  intro buf
  rw [ByteBuf.readableBytes_eq, ByteBuf.readableBytes_eq]
  exact parse.frugal.within buf

end FinProto
