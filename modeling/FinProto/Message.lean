import FinProto.CodecLaws

/-! Message types, objects of a class known only at run time, and the factories
that create them from a key read off the wire. -/
namespace FinProto

open Wire

/-- A message type: its layout round-trips up to trimming its fixed strings, for
values whose sizes fit their prefixes. -/
class Message (M : Type) extends BinaryCodec M where
  trimmed : M → M := id
  fits : M → Prop := fun _ => True
  roundTrip : RoundTrip decode (fun m => (encode m).bytes) trimmed fits

export Message (trimmed fits)

section
variable {M : Type} [Message M]

@[simp] theorem trimmed_trimmed (m : M) : trimmed (trimmed m) = trimmed m :=
  Message.roundTrip.settled m

@[simp] theorem fits_trimmed (m : M) : fits (trimmed m) ↔ fits m :=
  Message.roundTrip.fits_norm m

@[simp] theorem bytes_encode_trimmed (m : M) : (encode (trimmed m)).bytes = (encode m).bytes :=
  Message.roundTrip.spelled m

theorem inverts_decode (M : Type) [Message M] :
    Inverts (decode (M := M)) (fun m => (encode m).bytes) (fun m => trimmed m = m ∧ fits m) :=
  Message.roundTrip.inverts

instance : Inverse (decode (M := M)) (fun m => (encode m).bytes)
    (fun m => trimmed m = m ∧ fits m) :=
  ⟨inverts_decode M⟩

variable (T : Type) [Scalar T] (M : Type) [Message M]

theorem roundTrip_objectListLe :
    RoundTrip (readObjectListLe T M) (fun list => (writeObjectListLe T list).bytes)
      (List.map trimmed) (fun list => FitsPrefix T list.length ∧ ∀ m ∈ list, fits m) :=
  roundTrip_counted (inverts_readLe T) Message.roundTrip

theorem roundTrip_objectList :
    RoundTrip (readObjectList T M) (fun list => (writeObjectList T list).bytes)
      (List.map trimmed) (fun list => FitsPrefix T list.length ∧ ∀ m ∈ list, fits m) :=
  roundTrip_objectListLe T M

@[simp] theorem bytes_writeObjectListLe_trimmed (list : List M) :
    (writeObjectListLe T (list.map trimmed)).bytes = (writeObjectListLe T list).bytes :=
  (roundTrip_objectListLe T M).spelled list

@[simp] theorem bytes_writeObjectList_trimmed (list : List M) :
    (writeObjectList T (list.map trimmed)).bytes = (writeObjectList T list).bytes :=
  bytes_writeObjectListLe_trimmed T M list

instance : Inverse (readObjectListLe T M) (fun list => (writeObjectListLe T list).bytes)
    (fun list => list.map trimmed = list ∧ FitsPrefix T list.length ∧ ∀ m ∈ list, fits m) :=
  ⟨(roundTrip_objectListLe T M).inverts⟩

instance : Inverse (readObjectList T M) (fun list => (writeObjectList T list).bytes)
    (fun list => list.map trimmed = list ∧ FitsPrefix T list.length ∧ ∀ m ∈ list, fits m) :=
  ⟨(roundTrip_objectList T M).inverts⟩

end

/-- One of the classes deriving from `codec::BinaryCodec`. -/
structure MessageType where
  carrier : Type
  [message : Message carrier]

instance (type : MessageType) : Message type.carrier := type.message

/-- What a `std::unique_ptr<codec::BinaryCodec>` points to: an object of one of
the classes, with its class. -/
structure Object {Tag : Type} (types : Tag → MessageType) where
  type : Tag
  value : (types type).carrier

namespace Object
variable {Tag : Type} {types : Tag → MessageType}

def encode (o : Object types) : Encoder := BinaryCodec.encode o.value

def decode (types : Tag → MessageType) (type : Tag) : Decoder (Object types) :=
  mk type <$> BinaryCodec.decode

/-- `equals` behind its `dynamic_cast`: objects of different classes differ. -/
def equals [DecidableEq Tag] (a b : Object types) : Bool :=
  if same : b.type = a.type then BinaryCodec.equals a.value (same ▸ b.value) else false

def trimmed (o : Object types) : Object types := ⟨o.type, Message.trimmed o.value⟩

def fits (o : Object types) : Prop := Message.fits o.value

@[simp] theorem type_trimmed (o : Object types) : o.trimmed.type = o.type := rfl

@[simp] theorem trimmed_trimmed (o : Object types) : o.trimmed.trimmed = o.trimmed :=
  congrArg (mk o.type) (FinProto.trimmed_trimmed o.value)

@[simp] theorem fits_trimmed (o : Object types) : o.trimmed.fits ↔ o.fits :=
  FinProto.fits_trimmed o.value

@[simp] theorem bytes_encode_trimmed (o : Object types) : o.trimmed.encode.bytes = o.encode.bytes :=
  FinProto.bytes_encode_trimmed o.value

theorem inverts_decode (type : Tag) :
    Inverts (decode types type) (fun o => o.encode.bytes)
      (fun o => o.type = type ∧ o.trimmed = o ∧ o.fits) := by
  have mapped := Inverts.map (f := fun value => (⟨type, value⟩ : Object types))
    (v := fun o => o.encode.bytes)
    (FinProto.inverts_decode (types type).carrier) (fun _ => rfl)
  refine mapped.congr (fun _ => rfl) ?_
  intro o
  obtain ⟨_, value⟩ := o
  constructor
  · intro wrapped
    obtain ⟨value, same, settled, fit⟩ := wrapped
    cases same
    exact ⟨rfl, congrArg (mk type) settled, fit⟩
  · intro canonical
    obtain ⟨same, settled, fit⟩ := canonical
    cases same
    refine ⟨value, rfl, ?_, fit⟩
    simpa [trimmed] using settled

end Object

/-- `class MessageFactory`: the registrations made so far, the latest first, so
that registering a key again overwrites it. -/
structure MessageFactory (Key Tag : Type) where
  creators : List (Key × Tag)

namespace MessageFactory
variable {Key Tag : Type}

def registerMessage (factory : MessageFactory Key Tag) (key : Key) (type : Tag) :
    MessageFactory Key Tag :=
  ⟨(key, type) :: factory.creators⟩

/-- The factory after a sequence of `REGISTER_MESSAGE`. -/
def registering (messages : List (Key × Tag)) : MessageFactory Key Tag :=
  messages.foldl (fun factory message => factory.registerMessage message.1 message.2) ⟨[]⟩

variable [BEq Key]

/-- `creators_.find(key)`. -/
def find (factory : MessageFactory Key Tag) (key : Key) : Option Tag :=
  factory.creators.lookup key

def create (factory : MessageFactory Key Tag) (key : Key) : Decoder Tag :=
  match factory.find key with
  | some type => return type
  | none => .throw (.runtimeError "No such message type")

/-- Creating an object by key and decoding into it reads the canonical objects
of exactly the class registered for the key. -/
theorem inverts_create (factory : MessageFactory Key Tag) {types : Tag → MessageType} (key : Key) :
    Inverts (factory.create key >>= Object.decode types) (fun o => o.encode.bytes)
      (fun o => factory.find key = some o.type ∧ (o.trimmed = o ∧ o.fits)) := by
  unfold create
  cases registered : factory.find key with
  | none =>
    intro c o
    constructor
    · intro reads
      obtain ⟨_, _, _, _, stopped, _⟩ := Reader.reads_bind.mp reads
      exact (Reader.not_reads_throw stopped).elim
    · intro created
      obtain ⟨_, absurd, _⟩ := created
      cases absurd
  | some type =>
    rw [pure_bind]
    refine (Object.inverts_decode type).congr (fun _ => rfl) (fun o => ?_)
    rw [Option.some.injEq, eq_comm]

/-- Reading the field `g` of a record as an object created by the key that an
earlier field holds. -/
theorem inverts_field {factory : MessageFactory Key Tag} {types : Tag → MessageType} {key : Key}
    {k : Object types → Decoder M} {W : M → List UInt8} {C Q : M → Prop} (g : M → Object types)
    (choice : M → Key) (known : ∀ m, C m → choice m = key)
    (rest : ∀ o, Inverts (k o) W (fun m => (C m ∧ g m = o) ∧ Q m)) :
    Inverts (factory.create key >>= Object.decode types >>= k)
      (fun m => (g m).encode.bytes ++ W m)
      (fun m => C m ∧ ((factory.find (choice m) = some (g m).type ∧
        ((g m).trimmed = g m ∧ (g m).fits)) ∧ Q m)) :=
  .fieldBy (P := fun key o => factory.find key = some o.type ∧ (o.trimmed = o ∧ o.fits)) g choice
    known (factory.inverts_create key) rest

end MessageFactory

/-- The bytes of a string literal. -/
def ascii (s : String) : Bytes := s.toList.map (fun c => UInt8.ofNat c.toNat)

end FinProto
