import FinProto.Bjse.Layout
import FinProto.Rc.Layout
import FinProto.Root.Layout
import FinProto.Sse.Layout
import FinProto.Szse.Layout

/-! Whether decodes stay in bounds: subscripts inside `buffer_`, containers no larger than
what is left to read. Neither is checked, so both are told from the bytes. -/
namespace FinProto

open Wire

/-! ## The decodes -/

/-- The message classes of the five protocols. -/
inductive MessageClass where
  | rc (type : Rc.BodyType)
  | sse (type : Sse.BodyType)
  | subExecRptSync
  | subExecRptSyncRsp
  | szse (type : Szse.BodyType)
  | szseExtend (type : Szse.ExtendType)
  | szsePartitionReport
  | szsePlatformInfo
  | bjse (type : Bjse.BodyType)
  | bjseExtend (type : Bjse.ExtendType)
  | bjseUnlisted (type : Bjse.UnlistedType)
  | quote1
  | reportPartitionSync
  | noPartitions
  | root (type : Root.BodyType)
  | subPacket
  | inerPacket

namespace MessageClass

def type : MessageClass → MessageType
  | .rc type => Rc.bodyTypes type
  | .sse type => Sse.bodyTypes type
  | .subExecRptSync => ⟨Sse.SubExecRptSync⟩
  | .subExecRptSyncRsp => ⟨Sse.SubExecRptSyncRsp⟩
  | .szse type => Szse.bodyTypes type
  | .szseExtend type => Szse.extendTypes type
  | .szsePartitionReport => ⟨Szse.PartitionReport⟩
  | .szsePlatformInfo => ⟨Szse.PlatformInfo⟩
  | .bjse type => Bjse.bodyTypes type
  | .bjseExtend type => Bjse.extendTypes type
  | .bjseUnlisted type => Bjse.unlistedTypes type
  | .quote1 => ⟨Bjse.Quote1⟩
  | .reportPartitionSync => ⟨Bjse.ReportPartitionSync⟩
  | .noPartitions => ⟨Bjse.NoPartitions⟩
  | .root type => Root.bodyTypes type
  | .subPacket => ⟨Root.SubPacket⟩
  | .inerPacket => ⟨Root.InerPacket⟩

def layout : MessageClass → Layout UInt8
  | .rc type => Rc.bodyLayout type
  | .sse type => Sse.bodyLayout type
  | .subExecRptSync => .fixed 20 .done
  | .subExecRptSyncRsp => .fixed 96 .done
  | .szse type => Szse.bodyLayout type
  | .szseExtend type => Szse.extendLayout type
  | .szsePartitionReport => .fixed 12 .done
  | .szsePlatformInfo => Szse.platformInfoLayout
  | .bjse type => Bjse.bodyLayout type
  | .bjseExtend type => Bjse.extendLayout type
  | .bjseUnlisted type => Bjse.unlistedLayout type
  | .quote1 => .fixed 26 .done
  | .reportPartitionSync => .fixed 12 .done
  | .noPartitions => .fixed 24 .done
  | .root type => Root.bodyLayout type
  | .subPacket => Root.subPacketLayout
  | .inerPacket => Root.subPacketLayout

theorem along (c : MessageClass) : Along (decode (M := c.type.carrier)) c.layout := by
  cases c with
  | rc type => exact Rc.along_body type
  | sse type => exact Sse.along_body type
  | subExecRptSync => exact Sse.along_subExecRptSync
  | subExecRptSyncRsp => exact Sse.along_subExecRptSyncRsp
  | szse type => exact Szse.along_body type
  | szseExtend type => exact Szse.along_extend type
  | szsePartitionReport => exact Szse.along_partitionReport
  | szsePlatformInfo => exact Szse.along_platformInfo
  | bjse type => exact Bjse.along_body type
  | bjseExtend type => exact Bjse.along_extend type
  | bjseUnlisted type => exact Bjse.along_unlisted type
  | quote1 => exact Bjse.along_quote1
  | reportPartitionSync => exact Bjse.along_reportPartitionSync
  | noPartitions => exact Bjse.along_noPartitions
  | root type => exact Root.along_body type
  | subPacket => exact Root.along_subPacket
  | inerPacket => exact Root.along_inerPacket

end MessageClass

/-- The frame decodes of the five protocols and the decodes of their message classes. -/
inductive Parse where
  | rc | sse | szse | bjse | root
  | message (c : MessageClass)

namespace Parse

/-- What a decode does besides returning a value. -/
def log (buf : ByteBuf) : Parse → List Access
  | .rc => (Rc.RcBinary.decode.run buf).log
  | .sse => (Sse.SseBinary.decode.run buf).log
  | .szse => (Szse.SzseBinary.decode.run buf).log
  | .bjse => ((decode (M := Bjse.BjseBinary)).run buf).log
  | .root => (Root.RootPacket.decode.run buf).log
  | .message c => ((decode (M := c.type.carrier)).run buf).log

def layout : Parse → Layout UInt8
  | .rc => Rc.frameLayout
  | .sse => Sse.frameLayout
  | .szse => Szse.frameLayout
  | .bjse => Bjse.frameLayout
  | .root => Root.frameLayout
  | .message c => c.layout

/-- What a decode returns. -/
def Result : Parse → Type
  | .rc => Rc.RcBinary
  | .sse => Sse.SseBinary
  | .szse => Szse.SzseBinary
  | .bjse => Bjse.BjseBinary
  | .root => Root.RootPacket
  | .message c => c.type.carrier

def decode : (parse : Parse) → Decoder parse.Result
  | .rc => Rc.RcBinary.decode
  | .sse => Sse.SseBinary.decode
  | .szse => Szse.SzseBinary.decode
  | .bjse => FinProto.decode (M := Bjse.BjseBinary)
  | .root => Root.RootPacket.decode
  | .message c => FinProto.decode (M := c.type.carrier)

theorem log_eq (buf : ByteBuf) (parse : Parse) : parse.log buf = (parse.decode.run buf).log := by
  cases parse <;> rfl

theorem along (parse : Parse) : Along parse.decode parse.layout := by
  cases parse with
  | rc => exact Rc.along_frame
  | sse => exact Sse.along_frame
  | szse => exact Szse.along_frame
  | bjse => exact Bjse.along_frame
  | root => exact Root.along_frame
  | message c => exact c.along

theorem bad_iff (watch : Watch ByteBuf Access) [Watched watch] (parse : Parse) (buf : ByteBuf) :
    (∃ e ∈ parse.log buf, watch.bad buf e) ↔
      parse.layout.rings watch.alarm (unread buf) = true := by
  rw [log_eq]
  exact parse.along.follows.bad_iff buf

end Parse

theorem all_iff_of_bad {log : List Access} {good : Access → Prop} {rings : Bool}
    (bad : (∃ e ∈ log, ¬ good e) ↔ rings = true) : (∀ e ∈ log, good e) ↔ rings = false := by
  rw [← Bool.not_eq_true, ← bad]
  constructor
  · intro all some
    obtain ⟨e, member, failed⟩ := some
    exact failed (all e member)
  · intro none e member
    exact Classical.byContradiction fun failed => none ⟨e, member, failed⟩

/-! ## Subscripts -/

/-- A decode evaluates only subscripts that are indices of `buffer_`, unless an empty string
of its layout ends at the end of the buffer. -/
theorem subscripts_in_range_iff (parse : Parse) (buf : ByteBuf) :
    (∀ e ∈ parse.log buf, e.InRange buf.data.length) ↔
      parse.layout.rings emptyAtEnd (unread buf) = false :=
  all_iff_of_bad (parse.bad_iff stray buf)

/-- The frame of a `RiskResult` without identifier and reason. -/
def emptyRiskResult : Bytes :=
  [0x01, 0x35, 0x0C, 0, 1, 0, 0, 0, 9, 0, 0, 0, 0, 0, 0, 0, 7, 0, 0, 0, 0]

/-- Its reason is empty and the end of the buffer, so `&buffer_[21]` is taken of 21 bytes. -/
theorem riskResult_reads_end :
    Access.subscript 21 0 ∈ Parse.rc.log (.holding emptyRiskResult) ∧
      ¬ ∀ e ∈ Parse.rc.log (.holding emptyRiskResult),
        e.InRange (ByteBuf.holding emptyRiskResult).data.length := by
  have read : Access.subscript 21 0 ∈ Parse.rc.log (.holding emptyRiskResult) := by decide
  refine ⟨read, ?_⟩
  intro inside
  exact absurd (inside _ read) (Nat.lt_irrefl 21)

/-- The protocols without dynamic strings stay inside `buffer_` on every input. -/
theorem in_range_of_textless (parse : Parse) (textless : parse.layout.Textless) (buf : ByteBuf) :
    ∀ e ∈ parse.log buf, e.InRange buf.data.length :=
  (all_iff_of_bad (parse.bad_iff stray buf)).mpr
    (Layout.rings_of_textless (fun _ _ => rfl) textless _)

theorem sse_in_range (buf : ByteBuf) : ∀ e ∈ Parse.sse.log buf, e.InRange buf.data.length :=
  in_range_of_textless .sse Sse.textless_frame buf

theorem bjse_in_range (buf : ByteBuf) : ∀ e ∈ Parse.bjse.log buf, e.InRange buf.data.length :=
  in_range_of_textless .bjse Bjse.textless_frame buf

/-! ## Sizes -/

/-- What a reader sizes is covered, unless a prefix of its layout announces more than the
bytes behind it. -/
def CoveredIff (p : Decoder α) (layout : Layout UInt8) (buf : ByteBuf) : Prop :=
  (∀ e ∈ (p.run buf).log, e.Covered) ↔ layout.rings announcesMore (unread buf) = false

theorem coveredIff {p : Decoder α} {layout : Layout UInt8} (buf : ByteBuf)
    [follows : Follows oversized p layout] : CoveredIff p layout buf :=
  all_iff_of_bad (follows.bad_iff buf)

/-- Every decode, and every reader that starts with a prefix, sizes its containers within what
is left to read exactly where no prefix announces more than the bytes behind it. -/
theorem sizes_covered_iff (parse : Parse) (T K E : Type) [Scalar T] [Scalar K] [Scalar E]
    (c : MessageClass) (fixedLen : Nat) (padChar : UInt8) (padLeft : Bool) (buf : ByteBuf) :
    ((∀ e ∈ parse.log buf, e.Covered) ↔
      parse.layout.rings announcesMore (unread buf) = false) ∧
    CoveredIff (readString T) (.text (announced T) .done) buf ∧
    CoveredIff (readStringLe T) (.text (announced T) .done) buf ∧
    CoveredIff (readStringList T K) (.list (announced T) (.text (announced K) .done) .done) buf ∧
    CoveredIff (readStringListLe T K) (.list (announced T) (.text (announced K) .done) .done) buf ∧
    CoveredIff (readFixedStringListPad T fixedLen padChar padLeft)
      (.list (announced T) (.fixed fixedLen .done) .done) buf ∧
    CoveredIff (readFixedStringListLePad T fixedLen padChar padLeft)
      (.list (announced T) (.fixed fixedLen .done) .done) buf ∧
    CoveredIff (readBasicType T E) (.list (announced T) (.fixed (Scalar.size E) .done) .done) buf ∧
    CoveredIff (readBasicTypeLe T E)
      (.list (announced T) (.fixed (Scalar.size E) .done) .done) buf ∧
    CoveredIff (readObjectList T c.type.carrier) (.list (announced T) c.layout .done) buf ∧
    CoveredIff (readObjectListLe T c.type.carrier) (.list (announced T) c.layout .done) buf := by
  have element : Follows oversized (decode (M := c.type.carrier)) c.layout := c.along.follows
  exact ⟨all_iff_of_bad (parse.bad_iff oversized buf), coveredIff buf, coveredIff buf,
    coveredIff buf, coveredIff buf, coveredIff buf, coveredIff buf, coveredIff buf,
    coveredIff buf, coveredIff buf, coveredIff buf⟩

/-- Four bytes that announce a string of 4 GiB, and a frame that announces as many reports. -/
theorem readString_oversized :
    (¬ ∀ e ∈ ((readString UInt32).run (.holding [0xFF, 0xFF, 0xFF, 0xFF])).log, e.Covered) ∧
      ¬ ∀ e ∈ Parse.szse.log (.holding [5, 0, 0, 0, 4, 0, 0, 0, 0xFF, 0xFF, 0xFF, 0xFF]),
        e.Covered := by
  have text : Access.sized 4294967295 0 ∈
      ((readString UInt32).run (.holding [0xFF, 0xFF, 0xFF, 0xFF])).log := by decide
  have list : Access.sized 4294967295 0 ∈
      Parse.szse.log (.holding [5, 0, 0, 0, 4, 0, 0, 0, 0xFF, 0xFF, 0xFF, 0xFF]) := by decide
  have uncovered : ¬ (Access.sized 4294967295 0).Covered := Nat.not_le_of_lt (by decide)
  exact ⟨fun all => uncovered (all _ text), fun all => uncovered (all _ list)⟩

end FinProto
