import FinProto.Wire.Reader

/-! Frames read off a stream while it arrives. The receiver polls a reader between pieces of
the stream; what it gets depends only on how much had arrived at each poll. -/
namespace Wire

/-- A cursor that takes tokens in behind those unread. -/
class Feed (σ : Type) (τ : outParam Type) extends Cursor σ τ where
  feed : σ → List τ → σ
  unread_feed : ∀ s ts, unread (feed s ts) = unread s ++ ts

export Feed (feed)

/-- At the receiving end a piece of the stream arrives, or the next frame is asked for. -/
inductive Event (τ : Type) where
  | arrive (piece : List τ)
  | poll

namespace Event
variable {τ : Type}

/-- The stream so far. -/
def arrived : List (Event τ) → List τ
  | [] => []
  | arrive piece :: events => piece ++ arrived events
  | poll :: events => arrived events

def polls : List (Event τ) → Nat
  | [] => 0
  | arrive _ :: events => polls events
  | poll :: events => polls events + 1

end Event

open Event

/-! ## The receiver -/

section
variable {σ τ ε ω α F : Type}

/-- What a receiver gets, and the error that ended its run, if one did. -/
def serve [Feed σ τ] [Truncation ε] [Audit σ τ ω] (p : Reader σ τ ε ω α) :
    σ → List (Event τ) → List α × Option ε
  | _, [] => ([], none)
  | s, arrive piece :: events => serve p (feed s piece) events
  | s, poll :: events =>
    match (p.run s).value with
    | .ok a =>
      let later := serve p (p.run s).state events
      (a :: later.1, later.2)
    | .error e => ([], some e)

/-- What it should get of the frames on their way when `n` tokens wait, and whether it is
cut short: a poll takes the next frame if all of it is there. -/
def deliveries (w : F → List τ) : List F → Nat → List (Event τ) → List F × Bool
  | _, _, [] => ([], false)
  | frames, n, arrive piece :: events => deliveries w frames (n + piece.length) events
  | [], _, poll :: _ => ([], true)
  | m :: frames, n, poll :: events =>
    if (w m).length ≤ n then
      let later := deliveries w frames (n - (w m).length) events
      (m :: later.1, later.2)
    else ([], true)

/-- Of two beginnings of one list the longer starts with the shorter. -/
theorem prefix_of_append {a b c d : List τ} (same : a ++ b = c ++ d) (shorter : a.length ≤ c.length) :
    ∃ gap, c = a ++ gap := by
  have first : a <+: c ++ d := ⟨b, same⟩
  obtain ⟨gap, split⟩ := List.prefix_of_prefix_length_le first (List.prefix_append c d) shorter
  exact ⟨gap, split.symm⟩

variable [Feed σ τ] [Truncation ε] [Audit σ τ ω] {p : Reader σ τ ε ω α} {w : F → List τ} {g : F → α}

/-- A frame that is there to its end is read, and what comes behind it is left. -/
theorem Reads.of_whole {c ahead behind : List τ} {a : α} (reads : Reads p.run c a) {s : σ}
    (stream : unread s ++ ahead = c ++ behind) (whole : c.length ≤ (unread s).length) :
    (p.run s).value = .ok a ∧ unread (p.run s).state ++ ahead = behind ∧
      (unread (p.run s).state).length = (unread s).length - c.length := by
  obtain ⟨left, split⟩ := prefix_of_append stream.symm whole
  obtain ⟨value, state⟩ := reads.accepts s left split
  have rest : unread (p.run s).state = left := by
    rw [state, Cursor.unread_advance, split, List.drop_left]
  rw [split, List.append_assoc] at stream
  refine ⟨value, ?_, ?_⟩
  · rw [rest]
    exact List.append_cancel_left stream
  · rw [rest, split, List.length_append, Nat.add_sub_cancel_left]

theorem Reads.of_cut {c ahead behind : List τ} {a : α} (reads : Reads p.run c a) {s : σ}
    (stream : unread s ++ ahead = c ++ behind) (cut : (unread s).length < c.length) :
    (p.run s).value = .error Truncation.short := by
  obtain ⟨gap, split⟩ := prefix_of_append stream (Nat.le_of_lt cut)
  have missing : gap ≠ [] := by
    intro none
    rw [split, none, List.append_nil] at cut
    exact Nat.lt_irrefl _ cut
  exact reads.truncated s gap missing split.symm

/-- The receiver of a stream of frames gets what it should, and stops for want of tokens. -/
theorem serve_eq (idle : ∀ s, unread s = [] → (p.run s).value = .error Truncation.short)
    {frames : List F} (reads : ∀ m ∈ frames, Reads p.run (w m) (g m)) {s : σ}
    {events : List (Event τ)} {coming : List τ}
    (stream : unread s ++ (arrived events ++ coming) = frames.flatMap w) :
    serve p s events =
      ((deliveries w frames (unread s).length events).1.map g,
        if (deliveries w frames (unread s).length events).2 then some Truncation.short else none) := by
  induction events generalizing s frames with
  | nil => rfl
  | cons event events ih =>
    cases event with
    | arrive piece =>
      have fed : unread (feed s piece) ++ (arrived events ++ coming) = frames.flatMap w := by
        rw [Feed.unread_feed, ← stream, arrived]
        simp only [List.append_assoc]
      rw [serve, ih reads fed, deliveries, Feed.unread_feed, List.length_append]
    | poll =>
      cases frames with
      | nil =>
        have empty : unread s = [] := (List.append_eq_nil_iff.mp stream).1
        rw [serve, idle s empty]
        rfl
      | cons m frames =>
        have head := reads m List.mem_cons_self
        have tail : ∀ n ∈ frames, Reads p.run (w n) (g n) :=
          fun n member => reads n (List.mem_cons_of_mem m member)
        rw [List.flatMap_cons, arrived] at stream
        rw [deliveries]
        by_cases whole : (w m).length ≤ (unread s).length
        · obtain ⟨value, behind, size⟩ := head.of_whole stream whole
          rw [if_pos whole, ← size, serve, value]
          simp only [ih tail behind]
          rfl
        · rw [if_neg whole, serve, head.of_cut stream (Nat.lt_of_not_le whole)]
          rfl

end

/-! ## What it should get -/

section
variable {τ F : Type} {w : F → List τ}

/-- No poll comes before the last token of the frame it asks for. -/
def Punctual (w : F → List τ) (frames : List F) (n : Nat) (events : List (Event τ)) : Prop :=
  ∀ before after, events = before ++ poll :: after →
    polls before < frames.length ∧
      ((frames.take (polls before + 1)).flatMap w).length ≤ n + (arrived before).length

theorem punctual_arrive {frames : List F} {n : Nat} {piece : List τ} {events : List (Event τ)} :
    Punctual w frames n (arrive piece :: events) ↔
      Punctual w frames (n + piece.length) events := by
  constructor
  · intro punctual before after split
    have early := punctual (arrive piece :: before) after (congrArg _ split)
    rw [arrived, List.length_append, ← Nat.add_assoc] at early
    exact early
  · intro punctual before after split
    cases before with
    | nil => cases split
    | cons event before =>
      cases split
      rw [arrived, List.length_append, ← Nat.add_assoc]
      exact punctual before after rfl

theorem punctual_poll {m : F} {frames : List F} {n : Nat} {events : List (Event τ)} :
    Punctual w (m :: frames) n (poll :: events) ↔
      (w m).length ≤ n ∧ Punctual w frames (n - (w m).length) events := by
  constructor
  · intro punctual
    have here := (punctual [] events rfl).2
    have first : (w m).length ≤ n := by simpa [polls, arrived] using here
    refine ⟨first, ?_⟩
    intro before after split
    have later := punctual (poll :: before) after (congrArg _ split)
    simp only [polls, arrived, List.length_cons, List.take_succ_cons, List.flatMap_cons,
      List.length_append] at later ⊢
    omega
  · intro both before after split
    obtain ⟨first, punctual⟩ := both
    cases before with
    | nil => simpa [polls, arrived] using first
    | cons event before =>
      cases split
      have later := punctual before after rfl
      simp only [polls, arrived, List.length_cons, List.take_succ_cons, List.flatMap_cons,
        List.length_append] at later ⊢
      omega

theorem not_punctual_nil {n : Nat} {events : List (Event τ)} :
    ¬ Punctual w [] n (poll :: events) := by
  intro punctual
  exact Nat.not_lt_zero _ (punctual [] events rfl).1

/-- The events up to the first poll that comes too early, if there is one. -/
structure Timely (w : F → List τ) (frames : List F) (n : Nat)
    (events before after : List (Event τ)) : Prop where
  split : events = before ++ after
  punctual : Punctual w frames n before
  early : after = [] ∨ ∃ later, after = poll :: later ∧ ¬ Punctual w frames n (before ++ [poll])

/-- Every poll before the first early one delivers the next frame, and no other does. -/
theorem deliveries_timely (frames : List F) (n : Nat) (events : List (Event τ)) :
    ∃ before after, Timely w frames n events before after ∧
      (deliveries w frames n events).1 = frames.take (polls before) := by
  have start : ∀ (frames : List F) (n : Nat), Punctual w frames n [] := by
    intro frames n before after split
    cases before <;> cases split
  induction events generalizing frames n with
  | nil => exact ⟨[], [], ⟨rfl, start frames n, .inl rfl⟩, rfl⟩
  | cons event events ih =>
    cases event with
    | arrive piece =>
      obtain ⟨before, after, timely, got⟩ := ih frames (n + piece.length)
      refine ⟨arrive piece :: before, after, ⟨?_, punctual_arrive.mpr timely.punctual, ?_⟩, got⟩
      · rw [timely.split, List.cons_append]
      · rcases timely.early with none | ⟨later, first, early⟩
        · exact .inl none
        · exact .inr ⟨later, first, fun punctual => early (punctual_arrive.mp punctual)⟩
    | poll =>
      cases frames with
      | nil => exact ⟨[], _, ⟨rfl, start [] n, .inr ⟨events, rfl, not_punctual_nil⟩⟩, rfl⟩
      | cons m frames =>
        rw [deliveries]
        split
        · rename_i whole
          obtain ⟨before, after, timely, got⟩ := ih frames (n - (w m).length)
          refine ⟨poll :: before, after,
            ⟨?_, punctual_poll.mpr ⟨whole, timely.punctual⟩, ?_⟩, congrArg (m :: ·) got⟩
          · rw [timely.split, List.cons_append]
          · rcases timely.early with none | ⟨later, first, early⟩
            · exact .inl none
            · exact .inr ⟨later, first, fun punctual => early (punctual_poll.mp punctual).2⟩
        · rename_i missing
          have early : ¬ Punctual w (m :: frames) n [poll] :=
            fun punctual => missing (punctual_poll.mp punctual).1
          exact ⟨[], _, ⟨rfl, start _ n, .inr ⟨events, rfl, early⟩⟩, rfl⟩

/-- The run goes to its end exactly when it is punctual. -/
theorem deliveries_whole_iff (frames : List F) (n : Nat) (events : List (Event τ)) :
    (deliveries w frames n events).2 = false ↔ Punctual w frames n events := by
  induction events generalizing frames n with
  | nil =>
    refine iff_of_true rfl ?_
    intro before after split
    cases before <;> cases split
  | cons event events ih =>
    cases event with
    | arrive piece => rw [punctual_arrive, deliveries, ih]
    | poll =>
      cases frames with
      | nil => exact iff_of_false (by simp [deliveries]) not_punctual_nil
      | cons m frames =>
        rw [punctual_poll, deliveries]
        split
        · rename_i whole
          rw [ih]
          exact (and_iff_right whole).symm
        · rename_i missing
          exact iff_of_false (by simp) (fun both => missing both.1)

/-- And then every poll delivers the next frame. -/
theorem deliveries_of_punctual {frames : List F} {n : Nat} {events : List (Event τ)}
    (punctual : Punctual w frames n events) :
    (deliveries w frames n events).1 = frames.take (polls events) := by
  induction events generalizing frames n with
  | nil => rfl
  | cons event events ih =>
    cases event with
    | arrive piece => exact ih (punctual_arrive.mp punctual)
    | poll =>
      cases frames with
      | nil => exact absurd punctual not_punctual_nil
      | cons m frames =>
        obtain ⟨whole, later⟩ := punctual_poll.mp punctual
        rw [deliveries, if_pos whole]
        exact congrArg (m :: ·) (ih later)

end

end Wire
