import FinProto.Bounds
import FinProto.Wire.Verdict

/-! Why a decode fails, told from the bytes: it comes to a key no class is registered for, or
it runs out of bytes; and where the keys are known, more bytes would see it through. Before that
an allocation may be refused. -/
namespace FinProto

open Wire

theorem judged_plain {p : Decoder α} {layout : Layout UInt8} (along : Along p layout)
    (plain : layout.Plain) : Judged unknownType p layout.stops := by
  have follows : Follows oversized p layout := along.follows
  exact .ofPlain follows plain

theorem judged_window {p : Decoder α} {n : Nat} (along : Along p (.fixed n .done)) :
    Judged unknownType p (fun _ => false) := by
  apply (judged_plain along trivial).congr
  exact Layout.stops_of_plain trivial

/-- A decode fails with `unknownType` where its layout stops, and otherwise for want of bytes. -/
theorem Along.judged {p : Decoder α} {layout : Layout UInt8} (along : Along p layout) :
    Judged unknownType p layout.stops := by
  have ends : ∀ {layout : Layout UInt8} (bytes : Bytes), layout.stops bytes = true →
      layout.rest bytes = none := fun _ => Layout.rest_of_stops
  induction along with
  | pure a => exact .pure a
  | stopped k => exact .stopped
  | byte f => exact judged_plain (.byte f) trivial
  | bytes n => exact judged_plain (.bytes n) trivial
  | scalar T => exact judged_plain (.scalar T) trivial
  | text T => exact judged_plain (.text T) trivial
  | @list T _ _ α p layout element ih =>
    have follows : Follows oversized p layout := element.follows
    have elements : ∀ n : T, Judged unknownType
        (sizeFrom (Scalar.toSize n) >>= fun _ => p.times (Scalar.toSize n))
        (sounded layout.rest layout.stops (Scalar.toSize n)) :=
      fun n => .note (.times follows.tracks ends ih _)
    refine (Judged.choose (takes_readLe T) (judged_window (.scalar T)) elements).congr ?_
    intro bytes
    simp [Layout.stops, announced]
  | map _ g ih => exact ih.map g
  | @bind α β p k layout after first second ih ih' =>
    have follows : Follows oversized p layout := first.follows
    exact (Judged.bind follows.tracks ends ih ih').congr
      fun bytes => (layout.stops_andThen after bytes).symm
  | choose takes first second ih ih' => exact .choose takes (judged_window first) ih'

/-! ## The decodes -/

namespace Rc

theorem plain_body (type : BodyType) : (bodyLayout type).Plain := by
  cases type <;> simp [bodyLayout, Layout.Plain]

end Rc

namespace Sse

theorem plain_body (type : BodyType) : (bodyLayout type).Plain := by
  cases type <;> simp [bodyLayout, Layout.Plain]

end Sse

namespace Root

theorem plain_body (type : BodyType) : (bodyLayout type).Plain := by
  cases type <;> simp [bodyLayout, fixedList, subPacketLayout, Layout.Plain]

end Root

namespace Szse

theorem plain_extend (type : ExtendType) : (extendLayout type).Plain := by
  cases type <;> simp [extendLayout, Layout.Plain]

end Szse

namespace Bjse

theorem plain_extend (type : ExtendType) : (extendLayout type).Plain := by
  cases type <;> simp [extendLayout, Layout.Plain]

end Bjse

/-- The key of a decode that is refused has no class. -/
theorem Parse.unknown_iff (parse : Parse) (buf : ByteBuf) :
    (parse.decode.run buf).value = .error unknownType ↔ parse.layout.stops (unread buf) = true := by
  have follows : Follows oversized parse.decode parse.layout := parse.along.follows
  constructor
  · intro failure
    have blamed := parse.along.judged buf _ failure
    cases stops : parse.layout.stops (unread buf) with
    | true => rfl
    | false =>
      rw [stops] at blamed
      cases blamed
  · intro stops
    cases result : (parse.decode.run buf).value with
    | ok m => cases (Layout.rest_of_stops stops).symm.trans (follows.tracks.accepts buf m result)
    | error fault =>
      have blamed := parse.along.judged buf fault result
      rw [stops] at blamed
      rw [blamed]
      rfl

/-! ## Refused allocations -/

/-- Whether the allocations a run makes once `n` of its accesses are behind it all succeed. -/
abbrev Memory := Nat → Bool

/-- No allocation of a run that makes this many accesses is refused. -/
def Memory.Grants (memory : Memory) (accesses : Nat) : Prop := ∀ n ≤ accesses, memory n = true

instance (memory : Memory) (accesses : Nat) : Decidable (memory.Grants accesses) :=
  inferInstanceAs (Decidable (∀ n ≤ accesses, memory n = true))

/-- How a call ends for its caller. -/
inductive Ending (α : Type) where
  | returned (a : α)
  | thrown (fault : Fault)
  | badAlloc

namespace Decoder
variable {p : Decoder α} {memory : Memory} {buf : ByteBuf}

/-- How a decode ends. Nothing in it catches `std::bad_alloc`, so a refused allocation is its
last step. -/
def ending (p : Decoder α) (memory : Memory) (buf : ByteBuf) : Ending α :=
  if memory.Grants (p.run buf).log.length then
    match (p.run buf).value with
    | .ok a => .returned a
    | .error fault => .thrown fault
  else .badAlloc

theorem ending_cases (p : Decoder α) (memory : Memory) (buf : ByteBuf) :
    (¬ memory.Grants (p.run buf).log.length ∧ p.ending memory buf = .badAlloc) ∨
    (memory.Grants (p.run buf).log.length ∧
      ((∃ a, (p.run buf).value = .ok a ∧ p.ending memory buf = .returned a) ∨
        ∃ fault, (p.run buf).value = .error fault ∧ p.ending memory buf = .thrown fault)) := by
  by_cases granted : memory.Grants (p.run buf).log.length
  · refine .inr ⟨granted, ?_⟩
    rw [ending, if_pos granted]
    cases (p.run buf).value with
    | ok a => exact .inl ⟨a, rfl, rfl⟩
    | error fault => exact .inr ⟨fault, rfl, rfl⟩
  · exact .inl ⟨granted, if_neg granted⟩

theorem ending_badAlloc :
    p.ending memory buf = .badAlloc ↔ ¬ memory.Grants (p.run buf).log.length := by
  obtain ⟨refused, ends⟩ | ⟨granted, ⟨a, _, ends⟩ | ⟨fault, _, ends⟩⟩ := p.ending_cases memory buf
  · exact iff_of_true ends refused
  · simp [ends, granted]
  · simp [ends, granted]

theorem ending_returned {a : α} :
    p.ending memory buf = .returned a ↔
      memory.Grants (p.run buf).log.length ∧ (p.run buf).value = .ok a := by
  obtain ⟨refused, ends⟩ | ⟨granted, ⟨b, value, ends⟩ | ⟨fault, value, ends⟩⟩ :=
    p.ending_cases memory buf
  · simp [ends, refused]
  · simp [ends, granted, value]
  · simp [ends, granted, value]

theorem ending_thrown {fault : Fault} :
    p.ending memory buf = .thrown fault ↔
      memory.Grants (p.run buf).log.length ∧ (p.run buf).value = .error fault := by
  obtain ⟨refused, ends⟩ | ⟨granted, ⟨a, value, ends⟩ | ⟨_, value, ends⟩⟩ :=
    p.ending_cases memory buf
  · simp [ends, refused]
  · simp [ends, granted, value]
  · simp [ends, granted, value]

end Decoder

/-! ## Unknown types -/

/-- A type is looked up once `n + m` bytes are there, and it stops what has no class. -/
theorem stops_choose (n m : Nat) (next : Bytes → Layout UInt8) (bytes : Bytes) :
    (Layout.choose n fun key => .skip m (next key)).stops bytes = true ↔
      n + m ≤ bytes.length ∧ (next (bytes.take n)).stops (bytes.drop (n + m)) = true := by
  simp only [Layout.stops, Layout.stops_skip, List.length_drop, List.drop_drop]
  split
  · rename_i short
    constructor
    · intro absurd
      cases absurd
    · intro stops
      omega
  · split
    · constructor
      · intro absurd
        cases absurd
      · intro stops
        omega
    · rename_i enough room
      have whole : n + m ≤ bytes.length := by omega
      simp only [whole, true_and]

theorem stops_created {Key Tag : Type} [BEq Key] (layout : Tag → Layout UInt8)
    (factory : MessageFactory Key Tag) (key : Key) (bytes : Bytes) :
    (created layout factory key).stops bytes = true ↔
      ∀ type, factory.find key = some type → (layout type).stops bytes = true := by
  rw [created]
  cases factory.find key with
  | none => simp [Layout.stops]
  | some type => simp

/-- A plain tail stops nothing. -/
theorem stops_andThen_plain {layout tail : Layout UInt8} (plain : tail.Plain) (bytes : Bytes) :
    (layout.andThen tail).stops bytes = layout.stops bytes := by
  rw [Layout.stops_andThen]
  cases layout.rest bytes with
  | none => rw [Option.any_none, Bool.or_false]
  | some left => rw [Option.any_some, Layout.stops_of_plain plain, Bool.or_false]

/-- The `applId` at the front of a body has no registration, and the `between` bytes behind it
are there. -/
def UnknownExtend {Tag : Type} (between : Nat) (factory : MessageFactory Bytes Tag)
    (body : Bytes) : Prop :=
  3 + between ≤ body.length ∧ factory.find (rtrim 3 body) = none

theorem stops_extended {Tag : Type} {layout : Tag → Layout UInt8}
    (plain : ∀ type, (layout type).Plain) (between : Nat) (factory : MessageFactory Bytes Tag)
    (body : Bytes) :
    (extended layout between factory).stops body = true ↔ UnknownExtend between factory body := by
  have key : trimPad (body.take 3) space false = rtrim 3 body := trimPad_eq (body.take 3) space false
  have never : ∀ type rest, (layout type).stops rest ≠ true := by
    intro type rest
    rw [Layout.stops_of_plain (plain type)]
    exact Bool.false_ne_true
  rw [extended, stops_choose, stops_created, UnknownExtend, key]
  cases factory.find (rtrim 3 body) with
  | none => simp
  | some type => simp [never]

theorem stops_reportExtended {Tag : Type} {layout : Tag → Layout UInt8}
    (plain : ∀ type, (layout type).Plain) (between : Nat) (factory : MessageFactory Bytes Tag)
    (body : Bytes) :
    (reportExtended layout between factory).stops body = true ↔
      UnknownExtend between factory (body.drop 12) := by
  simp only [reportExtended, Layout.stops]
  split
  · rename_i short
    constructor
    · intro absurd
      cases absurd
    · intro unknown
      have enough := unknown.1
      rw [List.length_drop] at enough
      omega
  · exact stops_extended plain between factory (body.drop 12)

/-- A header of `header` bytes is there whose key no class is registered for, or one whose body
in turn asks for an unknown class. -/
def UnknownType {Key Tag : Type} [BEq Key] (header : Nat) (key : Bytes → Key)
    (factory : MessageFactory Key Tag) (unknownBody : Tag → Bytes → Prop) (bytes : Bytes) : Prop :=
  header ≤ bytes.length ∧
    ∀ type, factory.find (key bytes) = some type → unknownBody type (bytes.drop header)

/-- Unless an allocation is refused, which ends a decode with `std::bad_alloc`, it throws
`std::runtime_error` for exactly these bytes and otherwise fails with `std::out_of_range` only. -/
structure FailsBy (p : Decoder α) (unknown : Bytes → Prop) : Prop where
  starves : ∀ memory buf,
    p.ending memory buf = .badAlloc ↔ ¬ memory.Grants (p.run buf).log.length
  refuses : ∀ memory buf,
    p.ending memory buf = .thrown (.runtimeError "No such message type") ↔
      memory.Grants (p.run buf).log.length ∧ unknown (unread buf)
  otherwise : ∀ memory buf fault, p.ending memory buf = .thrown fault → ¬ unknown (unread buf) →
    fault = .outOfRange "Not enough data to read"

theorem Parse.failsBy (parse : Parse) {unknown : Bytes → Prop}
    (stops : ∀ bytes, parse.layout.stops bytes = true ↔ unknown bytes) :
    FailsBy parse.decode unknown where
  starves _ _ := Decoder.ending_badAlloc
  refuses memory buf := by
    have known := (parse.unknown_iff buf).trans (stops (unread buf))
    exact Decoder.ending_thrown.trans (and_congr_right fun _ => known)
  otherwise memory buf fault thrown known := by
    have blamed := parse.along.judged buf fault (Decoder.ending_thrown.mp thrown).2
    rw [← stops, Bool.not_eq_true] at known
    rw [known] at blamed
    exact blamed

/-- The layout of a frame stops where its key or its body is unknown. -/
theorem stops_frame {Key Tag : Type} [BEq Key] {factory : MessageFactory Key Tag} {n m header : Nat}
    {key : Bytes → Key} {layout : Tag → Layout UInt8} {unknownBody : Tag → Bytes → Prop}
    (body : ∀ type bytes, (layout type).stops bytes = true ↔ unknownBody type bytes)
    {next : Bytes → Layout UInt8} (total : n + m = header)
    (keyed : ∀ window bytes,
      (next window).stops bytes = (created layout factory (key window)).stops bytes)
    (bytes : Bytes) :
    (Layout.choose n fun window => .skip m (next window)).stops bytes = true ↔
      UnknownType header (fun bytes => key (bytes.take n)) factory unknownBody bytes := by
  simp only [stops_choose, keyed, stops_created, total, body, UnknownType]

/-- Where no class is told from its bytes nothing is unknown. -/
theorem stops_plain {Tag : Type} {layout : Tag → Layout UInt8} (plain : ∀ type, (layout type).Plain)
    (type : Tag) (bytes : Bytes) : (layout type).stops bytes = true ↔ False := by
  rw [Layout.stops_of_plain (plain type)]
  simp

/-- The key a frame starts with. -/
def key32 (bytes : Bytes) : UInt32 := Scalar.fromLe UInt32 (bytes.take 4)
def key16 (bytes : Bytes) : UInt16 := Scalar.fromLe UInt16 (bytes.take 2)

/-- The bodies whose `applExtend` cannot be created. -/
def Szse.UnknownBody : Szse.BodyType → Bytes → Prop
  | .newOrder, body => UnknownExtend 86 newOrderMessageFactory body
  | .executionConfirm, body => UnknownExtend 164 executionConfirmMessageFactory (body.drop 12)
  | .executionReport, body => UnknownExtend 147 executionReportMessageFactory (body.drop 12)
  | _, _ => False

theorem Szse.stops_body (type : BodyType) (body : Bytes) :
    (bodyLayout type).stops body = true ↔ UnknownBody type body := by
  cases type
  case newOrder => exact stops_extended plain_extend 86 newOrderMessageFactory body
  case executionConfirm =>
    exact stops_reportExtended plain_extend 164 executionConfirmMessageFactory body
  case executionReport =>
    exact stops_reportExtended plain_extend 147 executionReportMessageFactory body
  all_goals
    rw [Layout.stops_of_plain (by simp [bodyLayout, Layout.Plain])]
    simp [UnknownBody]

/-- The bodies whose `applExtend` cannot be created. -/
def Bjse.UnknownBody : Bjse.BodyType → Bytes → Prop
  | .newOrder, body => UnknownExtend 106 newOrderMessageFactory body
  | .executionConfirm, body => UnknownExtend 174 executionConfirmMessageFactory (body.drop 12)
  | .executionReport, body => UnknownExtend 157 executionReportMessageFactory (body.drop 12)
  | _, _ => False

theorem Bjse.stops_body (type : BodyType) (body : Bytes) :
    (bodyLayout type).stops body = true ↔ UnknownBody type body := by
  cases type
  case newOrder => exact stops_extended plain_extend 106 newOrderMessageFactory body
  case executionConfirm =>
    exact stops_reportExtended plain_extend 174 executionConfirmMessageFactory body
  case executionReport =>
    exact stops_reportExtended plain_extend 157 executionReportMessageFactory body
  all_goals
    rw [Layout.stops_of_plain (by simp [bodyLayout, Layout.Plain])]
    simp [UnknownBody]

/-- Each frame decode is refused where the header is there and its key or, in `SzseBinary` and
`BjseBinary`, the `applId` of its body has no registration, and fails for want of bytes
everywhere else. -/
theorem frames_failBy :
    FailsBy Rc.RcBinary.decode
      (UnknownType 12 key32 Rc.rcBinaryMessageFactory fun _ _ => False) ∧
    FailsBy Sse.SseBinary.decode
      (UnknownType 16 key32 Sse.sseBinaryMessageFactory fun _ _ => False) ∧
    FailsBy Szse.SzseBinary.decode
      (UnknownType 8 key32 Szse.szseBinaryMessageFactory Szse.UnknownBody) ∧
    FailsBy (decode (M := Bjse.BjseBinary))
      (UnknownType 8 key32 Bjse.bjseBinaryMessageFactory Bjse.UnknownBody) ∧
    FailsBy Root.RootPacket.decode
      (UnknownType 6 key16 Root.rootPacketMessageFactory fun _ _ => False) := by
  refine ⟨Parse.failsBy .rc ?rc, Parse.failsBy .sse ?sse, Parse.failsBy .szse ?szse,
    Parse.failsBy .bjse ?bjse, Parse.failsBy .root ?root⟩
  case rc => exact stops_frame (stops_plain Rc.plain_body) rfl fun _ _ => rfl
  case sse =>
    exact stops_frame (stops_plain Sse.plain_body) rfl fun _ => stops_andThen_plain trivial
  case szse => exact stops_frame Szse.stops_body rfl fun _ => stops_andThen_plain trivial
  case bjse => exact stops_frame Bjse.stops_body rfl fun _ => stops_andThen_plain trivial
  case root =>
    exact stops_frame (stops_plain Root.plain_body) rfl fun _ => stops_andThen_plain trivial

/-- The reports this frame announces would take 64 GiB. -/
example :
    let frame : Bytes := [5, 0, 0, 0, 4, 0, 0, 0, 255, 255, 255, 255]
    Szse.SzseBinary.decode.ending (fun n => n != 4) (.holding frame) = .badAlloc ∧
      Szse.SzseBinary.decode.ending (fun _ => true) (.holding frame) =
        .thrown (.outOfRange "Not enough data to read") :=
  ⟨rfl, rfl⟩

/-! ## Short input -/

/-- Input of which this much is known is accepted, unless an allocation is refused or it is
short; and then it can be continued to be accepted to its last byte where every allocation
succeeds. -/
def CompletedFrom (p : Decoder α) (known : Bytes → Prop) : Prop :=
  ∀ memory buf, known (unread buf) →
    (∃ m, p.ending memory buf = .returned m) ∨
    (p.ending memory buf = .badAlloc ∧ ¬ memory.Grants (p.run buf).log.length) ∨
    (p.ending memory buf = .thrown (.outOfRange "Not enough data to read") ∧
      ∃ more m, p.ending (fun _ => true) (.holding (unread buf ++ more)) = .returned m ∧
        (p.run (.holding (unread buf ++ more))).state.readableBytes = 0)

theorem Parse.completedFrom (parse : Parse) {known : Bytes → Prop}
    (clear : ∀ bytes, known bytes → parse.layout.Clear bytes) :
    CompletedFrom parse.decode known := by
  have follows : Follows oversized parse.decode parse.layout := parse.along.follows
  intro memory buf known
  by_cases granted : memory.Grants (parse.decode.run buf).log.length
  · cases result : (parse.decode.run buf).value with
    | ok m => exact .inl ⟨m, Decoder.ending_returned.mpr ⟨granted, result⟩⟩
    | error fault =>
      obtain ⟨short, more, m, success, used⟩ := follows.completed result (clear _ known)
      rw [short] at result
      refine .inr (.inr ⟨Decoder.ending_thrown.mpr ⟨granted, result⟩, more, m, ?_, ?_⟩)
      · exact Decoder.ending_returned.mpr ⟨fun _ _ => rfl, success⟩
      · rw [ByteBuf.readableBytes_eq]
        exact List.length_eq_zero_iff.mpr used
  · exact .inr (.inl ⟨Decoder.ending_badAlloc.mpr granted, granted⟩)

/-- The key at the front is there and registered, and so are those of its body. -/
def KnownType {Key Tag : Type} [BEq Key] (width header : Nat) (key : Bytes → Key)
    (factory : MessageFactory Key Tag) (knownBody : Tag → Bytes → Prop) (bytes : Bytes) : Prop :=
  width ≤ bytes.length ∧
    ∃ type, factory.find (key bytes) = some type ∧ knownBody type (bytes.drop header)

theorem clear_created {Key Tag : Type} [BEq Key] {layout : Tag → Layout UInt8}
    {factory : MessageFactory Key Tag} {key : Key} {type : Tag} {bytes : Bytes}
    (known : factory.find key = some type) (clear : (layout type).Clear bytes) :
    (created layout factory key).Clear bytes := by
  rw [created, known]
  exact clear

theorem clear_frame {Key Tag : Type} [BEq Key] {factory : MessageFactory Key Tag}
    {n m header : Nat} {key : Bytes → Key} {layout : Tag → Layout UInt8}
    {knownBody : Tag → Bytes → Prop}
    (body : ∀ type bytes, knownBody type bytes → (layout type).Clear bytes)
    {next : Bytes → Layout UInt8} (total : n + m = header)
    (keyed : ∀ window bytes, (created layout factory (key window)).Clear bytes →
      (next window).Clear bytes) (bytes : Bytes)
    (known : KnownType n header (fun bytes => key (bytes.take n)) factory knownBody bytes) :
    (Layout.choose n fun window => .skip m (next window)).Clear bytes := by
  obtain ⟨room, type, found, inner⟩ := known
  refine ⟨room, (Layout.clear_skip m _ _).mpr (keyed _ _ (clear_created found (body type _ ?_)))⟩
  rwa [List.drop_drop, total]

/-- The `applId` is there and registered. -/
def KnownExtend {Tag : Type} (factory : MessageFactory Bytes Tag) (body : Bytes) : Prop :=
  3 ≤ body.length ∧ ∃ type, factory.find (rtrim 3 body) = some type

theorem clear_extended {Tag : Type} {layout : Tag → Layout UInt8}
    (plain : ∀ type, (layout type).Plain) (between : Nat) {factory : MessageFactory Bytes Tag}
    {body : Bytes} (known : KnownExtend factory body) :
    (extended layout between factory).Clear body := by
  obtain ⟨room, type, found⟩ := known
  have key : trimPad (body.take 3) space false = rtrim 3 body := trimPad_eq (body.take 3) space false
  refine ⟨room, (Layout.clear_skip between _ _).mpr ?_⟩
  rw [key]
  exact clear_created found (Layout.clear_of_plain (plain type) _)

def Szse.KnownBody : Szse.BodyType → Bytes → Prop
  | .newOrder, body => KnownExtend newOrderMessageFactory body
  | .executionConfirm, body => KnownExtend executionConfirmMessageFactory (body.drop 12)
  | .executionReport, body => KnownExtend executionReportMessageFactory (body.drop 12)
  | _, _ => True

theorem Szse.clear_body (type : BodyType) (body : Bytes) (known : KnownBody type body) :
    (bodyLayout type).Clear body := by
  cases type
  case newOrder | executionConfirm | executionReport => exact clear_extended plain_extend _ known
  all_goals
    apply Layout.clear_of_plain
    simp [bodyLayout, Layout.Plain]

def Bjse.KnownBody : Bjse.BodyType → Bytes → Prop
  | .newOrder, body => KnownExtend newOrderMessageFactory body
  | .executionConfirm, body => KnownExtend executionConfirmMessageFactory (body.drop 12)
  | .executionReport, body => KnownExtend executionReportMessageFactory (body.drop 12)
  | _, _ => True

theorem Bjse.clear_body (type : BodyType) (body : Bytes) (known : KnownBody type body) :
    (bodyLayout type).Clear body := by
  cases type
  case newOrder | executionConfirm | executionReport => exact clear_extended plain_extend _ known
  all_goals
    apply Layout.clear_of_plain
    simp [bodyLayout, Layout.Plain]

theorem clear_plain {Tag : Type} {layout : Tag → Layout UInt8} (plain : ∀ type, (layout type).Plain)
    (type : Tag) (bytes : Bytes) (_ : True) : (layout type).Clear bytes :=
  Layout.clear_of_plain (plain type) bytes

/-- Once the keys are there and known, no frame decode refuses what follows: it accepts, or
more bytes make it accept. -/
theorem frames_completedFrom :
    CompletedFrom Rc.RcBinary.decode
      (KnownType 4 12 key32 Rc.rcBinaryMessageFactory fun _ _ => True) ∧
    CompletedFrom Sse.SseBinary.decode
      (KnownType 4 16 key32 Sse.sseBinaryMessageFactory fun _ _ => True) ∧
    CompletedFrom Szse.SzseBinary.decode
      (KnownType 4 8 key32 Szse.szseBinaryMessageFactory Szse.KnownBody) ∧
    CompletedFrom (decode (M := Bjse.BjseBinary))
      (KnownType 4 8 key32 Bjse.bjseBinaryMessageFactory Bjse.KnownBody) ∧
    CompletedFrom Root.RootPacket.decode
      (KnownType 2 6 key16 Root.rootPacketMessageFactory fun _ _ => True) := by
  have tail : ∀ {layout : Layout UInt8} {bytes : Bytes}, layout.Clear bytes →
      (layout.andThen (.fixed 4 .done)).Clear bytes := fun clear => Layout.clear_andThen clear trivial
  refine ⟨Parse.completedFrom .rc ?rc, Parse.completedFrom .sse ?sse, Parse.completedFrom .szse ?szse,
    Parse.completedFrom .bjse ?bjse, Parse.completedFrom .root ?root⟩
  case rc => exact clear_frame (clear_plain Rc.plain_body) rfl fun _ _ clear => clear
  case sse => exact clear_frame (clear_plain Sse.plain_body) rfl fun _ _ => tail
  case szse => exact clear_frame Szse.clear_body rfl fun _ _ => tail
  case bjse => exact clear_frame Bjse.clear_body rfl fun _ _ => tail
  case root => exact clear_frame (clear_plain Root.plain_body) rfl fun _ _ => tail

end FinProto
