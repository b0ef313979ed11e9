import Mathlib.Data.List.Nodup
import Mathlib.Logic.Function.Basic
import FinProto.Bjse.Binary
import FinProto.Rc.Binary
import FinProto.Root.Packet
import FinProto.Sse.Binary
import FinProto.Szse.Binary

/-! The registries the program shares: the message factories, where the last registration of a
key counts, and the checksum services, where the first of a name does. Both as maps, over any
run of calls. -/
namespace FinProto

open Wire

/-! ## Message factories -/

/-- A call that changes a `MessageFactory`. -/
inductive Registration (Key Tag : Type) where
  | register (key : Key) (type : Tag)
  | remove (key : Key)

namespace Registration
variable {Key Tag : Type}

/-- The key a call is about. -/
def key : Registration Key Tag → Key
  | register key _ => key
  | remove key => key

/-- What becomes of it. -/
def outcome : Registration Key Tag → Option Tag
  | register _ type => some type
  | remove _ => none

variable [DecidableEq Key]

/-- A call on the map that a factory stands for. -/
def update (found : Key → Option Tag) (call : Registration Key Tag) : Key → Option Tag :=
  Function.update found call.key call.outcome

/-- Only the calls about a key matter to it. -/
theorem foldl_update_filter (calls : List (Registration Key Tag)) (key : Key)
    {f g : Key → Option Tag} (same : f key = g key) :
    calls.foldl update f key = (calls.filter fun call => call.key = key).foldl update g key := by
  induction calls generalizing f g with
  | nil => exact same
  | cons call calls ih =>
    by_cases named : call.key = key
    · rw [List.filter_cons_of_pos (by simpa using named)]
      apply ih
      subst named
      rw [update, update, Function.update_self, Function.update_self]
    · rw [List.filter_cons_of_neg (by simpa using named)]
      apply ih
      rw [update, Function.update_of_ne (Ne.symm named), same]

end Registration

namespace MessageFactory
variable {Key Tag : Type} [BEq Key]

/-- `removeMessage`. -/
def removeMessage (factory : MessageFactory Key Tag) (key : Key) : MessageFactory Key Tag :=
  ⟨factory.creators.filter fun creator => !(key == creator.1)⟩

def step (factory : MessageFactory Key Tag) : Registration Key Tag → MessageFactory Key Tag
  | .register key type => factory.registerMessage key type
  | .remove key => factory.removeMessage key

omit [BEq Key] in
theorem creators_foldl_registerMessage (messages : List (Key × Tag))
    (factory : MessageFactory Key Tag) :
    (messages.foldl (fun factory message => factory.registerMessage message.1 message.2)
      factory).creators = messages.reverse ++ factory.creators := by
  induction messages generalizing factory with
  | nil => rfl
  | cons message messages ih =>
    rw [List.foldl_cons, ih, List.reverse_cons, List.append_assoc]
    rfl

omit [BEq Key] in
theorem creators_registering (messages : List (Key × Tag)) :
    (registering messages).creators = messages.reverse := by
  rw [registering, creators_foldl_registerMessage, List.append_nil]

/-- Objects are created by what `find` returns. -/
theorem create_congr {first second : MessageFactory Key Tag} {key : Key}
    (same : first.find key = second.find key) : first.create key = second.create key := by
  unfold create
  rw [same]

variable [LawfulBEq Key] [DecidableEq Key]

omit [DecidableEq Key] in
theorem lookup_cons_of_ne {key other : Key} (differ : other ≠ key) (type : Tag)
    (creators : List (Key × Tag)) :
    ((key, type) :: creators).lookup other = creators.lookup other := by
  rw [List.lookup_cons, beq_eq_false_iff_ne.mpr differ]

theorem lookup_filter (creators : List (Key × Tag)) (key other : Key) :
    (creators.filter fun creator => !(key == creator.1)).lookup other =
      if other = key then none else creators.lookup other := by
  induction creators with
  | nil => simp
  | cons creator creators ih =>
    obtain ⟨registered, type⟩ := creator
    by_cases removed : key = registered
    · subst registered
      rw [List.filter_cons_of_neg (by simp), ih]
      split
      · rfl
      · rename_i kept
        rw [lookup_cons_of_ne kept]
    · rw [List.filter_cons_of_pos (by simpa using removed)]
      by_cases same : other = registered
      · subst registered
        rw [if_neg (Ne.symm removed), List.lookup_cons_self, List.lookup_cons_self]
      · rw [lookup_cons_of_ne same, lookup_cons_of_ne same, ih]

/-- A call sets its key, and no other. -/
theorem find_step (factory : MessageFactory Key Tag) (call : Registration Key Tag) :
    (factory.step call).find = Registration.update factory.find call := by
  funext other
  rw [Registration.update, Function.update_apply]
  cases call with
  | register key type =>
    change ((key, type) :: factory.creators).lookup other = _
    split
    · rename_i same
      rw [same]
      exact List.lookup_cons_self
    · rename_i differ
      exact lookup_cons_of_ne differ type factory.creators
  | remove key => exact lookup_filter factory.creators key other

/-- A run of calls on the factory is the run on the map. -/
theorem find_foldl_step (calls : List (Registration Key Tag)) (factory : MessageFactory Key Tag) :
    (calls.foldl step factory).find = calls.foldl Registration.update factory.find := by
  induction calls generalizing factory with
  | nil => rfl
  | cons call calls ih => rw [List.foldl_cons, ih, find_step, List.foldl_cons]

omit [DecidableEq Key] in
/-- Where a key has one type, every entry for it is found. -/
theorem lookup_of_mem {creators : List (Key × Tag)} {key : Key} {type : Tag}
    (one : ∀ other, (key, other) ∈ creators → other = type) (member : (key, type) ∈ creators) :
    creators.lookup key = some type := by
  induction creators with
  | nil => cases member
  | cons creator creators ih =>
    obtain ⟨registered, other⟩ := creator
    by_cases same : key = registered
    · subst same
      rw [List.lookup_cons_self, one other List.mem_cons_self]
    · rw [lookup_cons_of_ne same]
      refine ih (fun other later => one other (List.mem_cons_of_mem _ later)) ?_
      rcases List.mem_cons.mp member with here | later
      · cases here
        exact absurd rfl same
      · exact later

omit [DecidableEq Key] in
/-- What a factory is determined by when no key has two types: its entries, in whatever order
and however often they were registered. -/
theorem lookup_congr {first second : List (Key × Tag)} (distinct : (first.map Prod.fst).Nodup)
    (same : ∀ creator, creator ∈ second ↔ creator ∈ first) (key : Key) :
    second.lookup key = first.lookup key := by
  have one : ∀ {type other : Tag}, (key, type) ∈ first → (key, other) ∈ first → other = type := by
    intro type other left right
    have equal := List.inj_on_of_nodup_map distinct right left rfl
    exact congrArg Prod.snd equal
  cases found : first.lookup key with
  | none =>
    rw [List.lookup_eq_none_iff] at found ⊢
    intro creator member
    exact found creator ((same creator).mp member)
  | some type =>
    have member : (key, type) ∈ first := by
      obtain ⟨before, after, split, _⟩ := List.lookup_eq_some_iff.mp found
      rw [split]
      exact List.mem_append_right _ List.mem_cons_self
    refine lookup_of_mem ?_ ((same _).mpr member)
    intro other present
    exact one member ((same _).mp present)

/-- A factory as the headers register it: the entries may come in any order, each as often as
there are translation units, and any calls after that act key by key on the map it stands for. -/
structure Registers (factory : MessageFactory Key Tag) : Prop where
  anyOrder : ∀ (messages : List (Key × Tag)) (key : Key),
    (∀ message, message ∈ messages ↔ message ∈ factory.creators) →
      (registering messages).create key = factory.create key
  run : ∀ calls : List (Registration Key Tag),
    (calls.foldl step factory).find = calls.foldl Registration.update factory.find
  byKey : ∀ (calls : List (Registration Key Tag)) (key : Key),
    (calls.foldl step factory).create key =
      ((calls.filter fun call => call.key = key).foldl step factory).create key

theorem registers {factory : MessageFactory Key Tag}
    (distinct : (factory.creators.map Prod.fst).Nodup) : factory.Registers where
  anyOrder messages key same := by
    apply create_congr
    refine lookup_congr distinct ?_ key
    intro creator
    rw [creators_registering, List.mem_reverse, same]
  run calls := find_foldl_step calls factory
  byKey calls key := by
    apply create_congr
    rw [find_foldl_step, find_foldl_step]
    exact Registration.foldl_update_filter calls key rfl

end MessageFactory

/-- So do all factories of the program, since none registers a key twice. -/
theorem factories_register :
    Rc.rcBinaryMessageFactory.Registers ∧ Sse.sseBinaryMessageFactory.Registers ∧
    Szse.szseBinaryMessageFactory.Registers ∧ Szse.newOrderMessageFactory.Registers ∧
    Szse.executionConfirmMessageFactory.Registers ∧
    Szse.executionReportMessageFactory.Registers ∧ Root.rootPacketMessageFactory.Registers ∧
    Bjse.bjseBinaryMessageFactory.Registers ∧ Bjse.newOrderMessageFactory.Registers ∧
    Bjse.executionConfirmMessageFactory.Registers ∧
    Bjse.executionReportMessageFactory.Registers ∧ Bjse.quoteMessageFactory.Registers ∧
    Bjse.quoteStatusReportMessageFactory.Registers ∧ Bjse.quoteResponseMessageFactory.Registers ∧
    Bjse.allegeQuoteMessageFactory.Registers ∧ Bjse.tradeCaptureReportMessageFactory.Registers ∧
    Bjse.tradeCaptureReportAckMessageFactory.Registers ∧
    Bjse.tradeCaptureConfirmMessageFactory.Registers := by
  refine ⟨?_, ?_, ?_, ?_, ?_, ?_, ?_, ?_, ?_, ?_, ?_, ?_, ?_, ?_, ?_, ?_, ?_, ?_⟩
  all_goals exact MessageFactory.registers (by decide +kernel)

/-! ## Checksum services -/

instance : ServiceOutput UInt16 where
  cast
    | .u16 f => some f
    | _ => none

/-- A call that changes the `ChecksumServiceContext`. -/
inductive ContextCall where
  | instanceCall
  | registerService (service : ChecksumService)

namespace ChecksumServiceContext

/-- What `registerService` returns: whether the name was free. -/
def registered (ctx : ChecksumServiceContext) (service : ChecksumService) : Bool :=
  (ctx.find service.algorithm).isNone

/-- `instance()` registers its services on every call. -/
def instanceAgain (ctx : ChecksumServiceContext) : ChecksumServiceContext :=
  builtins.foldl registerService ctx

def step (ctx : ChecksumServiceContext) : ContextCall → ChecksumServiceContext
  | .instanceCall => ctx.instanceAgain
  | .registerService service => ctx.registerService service

/-- The services a call offers. -/
def offered : ContextCall → List ChecksumService
  | .instanceCall => builtins
  | .registerService service => [service]

/-- The context after the first call of `instance()` and the calls behind it. -/
def run (calls : List ContextCall) : ChecksumServiceContext := calls.foldl step shared

/-- The first service offered under a name is found under it. -/
theorem find_registerService_eq (ctx : ChecksumServiceContext) (service : ChecksumService)
    (algo : String) : (ctx.registerService service).find algo =
      (ctx.services ++ [service]).find? fun service => service.algorithm == algo := by
  unfold registerService
  cases found : ctx.find service.algorithm with
  | none => rfl
  | some other =>
    rw [List.find?_append]
    by_cases same : service.algorithm = algo
    · subst same
      rw [← find, found]
      rfl
    · have differ : (service.algorithm == algo) = false := beq_eq_false_iff_ne.mpr same
      rw [List.find?_cons, differ, List.find?_nil, Option.or_none]
      rfl

theorem find_append_congr {ctx : ChecksumServiceContext} {offers : List ChecksumService}
    (same : ∀ algo, ctx.find algo = offers.find? fun service => service.algorithm == algo)
    (behind : List ChecksumService) (algo : String) :
    ((ctx.services ++ behind).find? fun service => service.algorithm == algo) =
      (offers ++ behind).find? fun service => service.algorithm == algo := by
  rw [List.find?_append, List.find?_append, ← same]
  rfl

theorem find_foldl_eq {ctx : ChecksumServiceContext} {offers : List ChecksumService}
    (same : ∀ algo, ctx.find algo = offers.find? fun service => service.algorithm == algo)
    (services : List ChecksumService) (algo : String) :
    (services.foldl registerService ctx).find algo =
      (offers ++ services).find? fun service => service.algorithm == algo := by
  induction services generalizing ctx offers with
  | nil => rw [List.append_nil, List.foldl_nil, same]
  | cons service services ih =>
    have next : ∀ algo, (ctx.registerService service).find algo =
        (offers ++ [service]).find? fun service => service.algorithm == algo := by
      intro algo
      rw [find_registerService_eq, find_append_congr same]
    rw [List.foldl_cons, ih next, List.append_assoc]
    rfl

theorem find_step_eq {ctx : ChecksumServiceContext} {offers : List ChecksumService}
    (same : ∀ algo, ctx.find algo = offers.find? fun service => service.algorithm == algo)
    (call : ContextCall) (algo : String) :
    (ctx.step call).find algo =
      (offers ++ offered call).find? fun service => service.algorithm == algo := by
  cases call with
  | instanceCall => exact find_foldl_eq same builtins algo
  | registerService service => exact find_foldl_eq same [service] algo

/-- A name stands for the first service ever offered under it. -/
theorem find_run (calls : List ContextCall) (algo : String) :
    (run calls).find algo =
      (builtins ++ calls.flatMap offered).find? fun service => service.algorithm == algo := by
  have whole : ∀ (calls : List ContextCall) (ctx : ChecksumServiceContext)
      (offers : List ChecksumService),
      (∀ algo, ctx.find algo = offers.find? fun service => service.algorithm == algo) →
      (calls.foldl step ctx).find algo =
        (offers ++ calls.flatMap offered).find? fun service => service.algorithm == algo := by
    intro calls
    induction calls with
    | nil =>
      intro ctx offers same
      rw [List.foldl_nil, List.flatMap_nil, List.append_nil, same]
    | cons call calls ih =>
      intro ctx offers same
      rw [List.foldl_cons, ih _ _ (find_step_eq same call), List.flatMap_cons, List.append_assoc]
  exact whole calls shared builtins fun _ => rfl

/-- No two services have one name. -/
def Distinct (ctx : ChecksumServiceContext) : Prop :=
  (ctx.services.map ChecksumService.algorithm).Nodup

theorem distinct_registerService {ctx : ChecksumServiceContext} (distinct : ctx.Distinct)
    (service : ChecksumService) : (ctx.registerService service).Distinct := by
  unfold registerService
  split
  · exact distinct
  · rename_i free
    have apart : service.algorithm ∉ ctx.services.map ChecksumService.algorithm := by
      intro taken
      obtain ⟨other, member, same⟩ := List.mem_map.mp taken
      have differ := List.find?_eq_none.mp free other member
      exact differ (beq_iff_eq.mpr same)
    rw [Distinct, List.map_append]
    exact List.Nodup.append distinct (List.nodup_singleton _) (by simpa using apart)

theorem distinct_foldl {ctx : ChecksumServiceContext} (distinct : ctx.Distinct)
    (services : List ChecksumService) : (services.foldl registerService ctx).Distinct := by
  induction services generalizing ctx with
  | nil => exact distinct
  | cons service services ih => exact ih (distinct_registerService distinct service)

theorem distinct_step {ctx : ChecksumServiceContext} (distinct : ctx.Distinct)
    (call : ContextCall) : (ctx.step call).Distinct := by
  cases call with
  | instanceCall => exact distinct_foldl distinct builtins
  | registerService service => exact distinct_registerService distinct service

theorem distinct_run (calls : List ContextCall) : (run calls).Distinct := by
  have whole : ∀ (calls : List ContextCall) (ctx : ChecksumServiceContext), ctx.Distinct →
      (calls.foldl step ctx).Distinct := by
    intro calls
    induction calls with
    | nil =>
      intro ctx distinct
      exact distinct
    | cons call calls ih =>
      intro ctx distinct
      exact ih _ (distinct_step distinct call)
  exact whole calls shared (by simp [Distinct, shared, builtins, registerService, find,
    crc16Service, crc32Service, sseBinService, szseBinService])

theorem registered_run_iff (calls : List ContextCall) (service : ChecksumService) :
    (run calls).registered service = true ↔
      ∀ other ∈ builtins ++ calls.flatMap offered, other.algorithm ≠ service.algorithm := by
  rw [registered, find_run, Option.isNone_iff_eq_none, List.find?_eq_none]
  simp only [beq_iff_eq, ne_eq]

/-- Nothing replaces a service that `instance()` registers. -/
theorem find_run_builtin (calls : List ContextCall) {service : ChecksumService}
    (builtin : service ∈ builtins) : (run calls).find service.algorithm = some service := by
  have alone : builtins.find? (fun other => other.algorithm == service.algorithm) = some service := by
    simp only [builtins, List.mem_cons, List.not_mem_nil, or_false] at builtin
    rcases builtin with rfl | rfl | rfl | rfl <;> rfl
  rw [find_run, List.find?_append, alone]
  rfl

theorem get_run_builtin {Output : Type} [ServiceOutput Output] (calls : List ContextCall)
    {service : ChecksumService} (builtin : service ∈ builtins) :
    (run calls).get Output service.algorithm = ServiceOutput.cast service.calculation := by
  rw [get, find_run_builtin calls builtin]
  rfl

end ChecksumServiceContext

/-! ### The frames that look their service up -/

/-- `encode` with the context as it finds it, where `instance()` is called once more. -/
def Sse.SseBinary.encodeIn (ctx : ChecksumServiceContext) (m : SseBinary) : FrameEncoder :=
  fun buf => do
    let buf ← encodeSized m.header writeU32 writeU32At m.body.encode buf
    match ctx.instanceAgain.get UInt32 "SSE_BIN" with
    | some service => return (writeU32 (service buf)).run buf
    | none => return (writeU32 m.checksum).run buf

def Szse.SzseBinary.encodeIn (ctx : ChecksumServiceContext) (m : SzseBinary) : FrameEncoder :=
  fun buf => do
    let buf ← encodeSized m.header writeU32 writeU32At m.body.encode buf
    match ctx.instanceAgain.get Int32 "SZSE_BIN" with
    | some service => return (writeI32 (service buf)).run buf
    | none => return (writeI32 m.checksum).run buf

def Root.RootPacket.encodeIn (ctx : ChecksumServiceContext) (m : RootPacket) : FrameEncoder :=
  fun buf => do
    let buf ← encodeSized m.header writeU32Le writeU32LeAt m.payload.encode buf
    match ctx.instanceAgain.get UInt32 "CRC32" with
    | some service => return (writeU32Le (service buf)).run buf
    | none => return (writeU32Le m.checksum).run buf

namespace ChecksumServiceContext

theorem instanceAgain_run (calls : List ContextCall) :
    (run calls).instanceAgain = run (calls ++ [.instanceCall]) := by
  rw [run, run, List.foldl_append]
  rfl

/-- What holds of the context after any calls: names are distinct, the first service offered
under a name keeps it, `registerService` says so, the program's own services are found under
their names and their output types only, and no frame is encoded differently. -/
structure Kept (calls : List ContextCall) : Prop where
  distinct : (run calls).Distinct
  first : ∀ algo, (run calls).find algo =
    (builtins ++ calls.flatMap offered).find? fun service => service.algorithm == algo
  registered : ∀ service, (run calls).registered service = true ↔
    ∀ other ∈ builtins ++ calls.flatMap offered, other.algorithm ≠ service.algorithm
  builtin : ∀ (Output : Type) [ServiceOutput Output], ∀ service ∈ builtins,
    (run calls).get Output service.algorithm = ServiceOutput.cast service.calculation
  sse : ∀ m : Sse.SseBinary, m.encodeIn (run calls) = m.encode
  szse : ∀ m : Szse.SzseBinary, m.encodeIn (run calls) = m.encode
  root : ∀ m : Root.RootPacket, m.encodeIn (run calls) = m.encode

/-- The service under a name of the program's own, after `instance()` was called once more. -/
theorem get_instanceAgain {Output : Type} [ServiceOutput Output] (calls : List ContextCall)
    {service : ChecksumService} (builtin : service ∈ builtins) :
    (run calls).instanceAgain.get Output service.algorithm =
      shared.get Output service.algorithm := by
  have first : shared.get Output service.algorithm = _ := get_run_builtin [] builtin
  rw [instanceAgain_run, get_run_builtin _ builtin]
  exact first.symm

end ChecksumServiceContext

open ChecksumServiceContext in
theorem services_kept (calls : List ContextCall) : Kept calls where
  distinct := distinct_run calls
  first := find_run calls
  registered := registered_run_iff calls
  builtin _ _ _ member := get_run_builtin calls member
  sse m := by
    have same : (run calls).instanceAgain.get UInt32 "SSE_BIN" = shared.get UInt32 "SSE_BIN" :=
      get_instanceAgain calls (show sseBinService ∈ builtins by simp [builtins])
    funext buf
    rw [Sse.SseBinary.encodeIn, same]
    rfl
  szse m := by
    have same : (run calls).instanceAgain.get Int32 "SZSE_BIN" = shared.get Int32 "SZSE_BIN" :=
      get_instanceAgain calls (show szseBinService ∈ builtins by simp [builtins])
    funext buf
    rw [Szse.SzseBinary.encodeIn, same]
    rfl
  root m := by
    have same : (run calls).instanceAgain.get UInt32 "CRC32" = shared.get UInt32 "CRC32" :=
      get_instanceAgain calls (show crc32Service ∈ builtins by simp [builtins])
    funext buf
    rw [Root.RootPacket.encodeIn, same]
    rfl

end FinProto
