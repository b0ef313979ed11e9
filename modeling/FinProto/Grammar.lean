import Mathlib.Data.Set.Function
import FinProto.Verdict

/-! The layouts as grammars: the byte strings a layout is used up by are exactly the words of
its messages, each the word of one canonical message. -/
namespace FinProto

open Wire

/-- The byte strings a layout is used up by. -/
def words (layout : Layout UInt8) : Set Bytes := {bytes | layout.rest bytes = some []}

/-! ## A reader and its layout -/

section
variable {p : Decoder α} {w : α → Bytes} {P : α → Prop} {layout : Layout UInt8}

theorem word_of_valid (follows : Follows oversized p layout) (inverse : Inverts p w P) {a : α}
    (valid : P a) : w a ∈ words layout := by
  have start : unread (ByteBuf.holding (w a)) = w a ++ [] := by
    rw [ByteBuf.unread_holding, List.append_nil]
  obtain ⟨value, state⟩ := inverse.run valid start
  have reached := follows.tracks.accepts _ a value
  rwa [state, Cursor.unread_advance, ByteBuf.unread_holding, List.drop_length] at reached

theorem valid_of_word (follows : Follows oversized p layout) (inverse : Inverts p w P)
    {bytes : Bytes} (word : bytes ∈ words layout) :
    ∃ a, P a ∧ w a = bytes ∧ (p.run (.holding bytes)).value = .ok a := by
  have reached : layout.rest (unread (ByteBuf.holding bytes)) = some [] := by
    rw [ByteBuf.unread_holding]
    exact word
  obtain ⟨a, success⟩ := (follows.accepts_iff _).mpr ⟨[], reached⟩
  obtain ⟨valid, ⟨t, split⟩, state⟩ := inverse.sound success
  have behind := follows.tracks.accepts _ a success
  rw [state, Cursor.unread_advance, split, List.drop_left] at behind
  have none : t = [] := Option.some.inj (behind.symm.trans (split ▸ reached))
  rw [none, List.append_nil, ByteBuf.unread_holding] at split
  exact ⟨a, valid, split.symm, success⟩

/-- Spelling is a bijection from the values read to the words. -/
theorem bijOn_words (follows : Follows oversized p layout) (inverse : Inverts p w P) :
    Set.BijOn w {a | P a} (words layout) := by
  refine ⟨?_, ?_, ?_⟩
  · intro a valid
    exact word_of_valid follows inverse valid
  · intro a left b right same
    exact inverse.injective left right same
  · intro bytes word
    obtain ⟨a, valid, spelled, _⟩ := valid_of_word follows inverse word
    exact ⟨a, valid, spelled⟩

/-- Reading is the inverse bijection. -/
theorem bijOn_read (follows : Follows oversized p layout) (inverse : Inverts p w P) :
    Set.BijOn (fun bytes => (p.run (.holding bytes)).value) (words layout)
      {value | ∃ a, P a ∧ value = .ok a} := by
  have reads : ∀ {a}, P a → (p.run (.holding (w a))).value = .ok a := by
    intro a valid
    have start : unread (ByteBuf.holding (w a)) = w a ++ [] := by
      rw [ByteBuf.unread_holding, List.append_nil]
    exact (inverse.run valid start).1
  refine ⟨?_, ?_, ?_⟩
  · intro bytes word
    obtain ⟨a, valid, _, success⟩ := valid_of_word follows inverse word
    exact ⟨a, valid, success⟩
  · intro b first c second same
    obtain ⟨a, _, spelled, success⟩ := valid_of_word follows inverse first
    obtain ⟨a', _, spelled', success'⟩ := valid_of_word follows inverse second
    have equal : a = a' := Except.ok.inj (success.symm.trans (same.trans success'))
    rw [← spelled, ← spelled', equal]
  · intro value valid
    obtain ⟨a, valid, rfl⟩ := valid
    exact ⟨w a, word_of_valid follows inverse valid, reads valid⟩

end

/-! ## The formats -/

/-- What a decode returns is a canonical frame or message. -/
def Parse.Canonical : (parse : Parse) → parse.Result → Prop
  | .rc => Rc.RcBinary.canonical
  | .sse => Sse.SseBinary.canonical
  | .szse => Szse.SzseBinary.canonical
  | .bjse => fun m : Bjse.BjseBinary => trimmed m = m ∧ fits m
  | .root => Root.RootPacket.canonical
  | .message c => fun m : c.type.carrier => trimmed m = m ∧ fits m

theorem Parse.inverts (parse : Parse) : ∃ w, Inverts parse.decode w parse.Canonical := by
  cases parse with
  | rc => exact ⟨_, SizedFrame.inverts_decode (F := Rc.RcBinary)⟩
  | sse => exact ⟨_, SizedFrame.inverts_decode (F := Sse.SseBinary)⟩
  | szse => exact ⟨_, SizedFrame.inverts_decode (F := Szse.SzseBinary)⟩
  | bjse => exact ⟨_, inverts_decode Bjse.BjseBinary⟩
  | root => exact ⟨_, SizedFrame.inverts_decode (F := Root.RootPacket)⟩
  | message c => exact ⟨_, inverts_decode c.type.carrier⟩

/-- For every frame and message class, decoding is a bijection from the words of the layout to
the canonical values, and encoding a message is its inverse. -/
theorem formats (parse : Parse) (c : MessageClass) :
    Set.BijOn (fun bytes => (parse.decode.run (.holding bytes)).value) (words parse.layout)
      {value | ∃ m, parse.Canonical m ∧ value = .ok m} ∧
    Set.BijOn (fun m : c.type.carrier => ((encode m).run .new).data) {m | trimmed m = m ∧ fits m}
      (words c.layout) := by
  obtain ⟨w, inverse⟩ := parse.inverts
  refine ⟨bijOn_read parse.along.follows inverse, ?_⟩
  have spelled : (fun m : c.type.carrier => ((encode m).run .new).data) =
      fun m => (encode m).bytes := by
    funext m
    exact (encode m).buffer_run .new
  rw [spelled]
  exact bijOn_words c.along.follows (inverts_decode c.type.carrier)

end FinProto
