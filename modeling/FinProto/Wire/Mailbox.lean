import Mathlib.Data.List.Forall2
import FinProto.Wire.Reader

/-! A writer and a reader of frames on one store, against a queue of frames. Whatever the order
of the calls, the reader gets what the queue would hand out, if a write leaves its frame behind
those waiting. -/
namespace Wire

/-- A call on a mailbox. -/
inductive Post (α : Type) where
  | put (a : α)
  | take

open Post

/-- What a queue answers: an element for each `take`, where there is one. -/
def answers {α : Type} : List α → List (Post α) → List (Option α)
  | _, [] => []
  | queue, put a :: posts => answers (queue ++ [a]) posts
  | [], take :: posts => none :: answers [] posts
  | a :: queue, take :: posts => some a :: answers queue posts

section
variable {σ τ ε ω α : Type} [Cursor σ τ] [Truncation ε] [Audit σ τ ω]

/-- What a call answers, and the store before and after it. -/
structure Answer (σ ε α : Type) where
  before : σ
  value : Except ε α
  after : σ

/-- What the store answers; a write that throws ends the run. -/
def exchange (write : α → σ → Except ε σ) (p : Reader σ τ ε ω α) :
    σ → List (Post α) → List (Answer σ ε α)
  | _, [] => []
  | s, put a :: posts =>
    match write a s with
    | .ok s => exchange write p s posts
    | .error e => [⟨s, .error e, s⟩]
  | s, take :: posts =>
    ⟨s, (p.run s).value, (p.run s).state⟩ :: exchange write p (p.run s).state posts

/-- An answer of the store for one of the queue: a frame like it, or the lack of one, which
leaves the store as it is. -/
inductive Answers (alike : α → α → Prop) : Answer σ ε α → Option α → Prop where
  | frame {a b : α} {s t : σ} (same : alike a b) : Answers alike ⟨s, .ok b, t⟩ (some a)
  | none {s : σ} : Answers alike ⟨s, .error Truncation.short, s⟩ none

/-- A store with the frames of a queue unread. -/
structure Holds (level : σ → Prop) (alike : α → α → Prop) (p : Reader σ τ ε ω α) (s : σ)
    (queue : List α) : Prop where
  level : level s
  held : ∃ words : List (List τ), unread s = words.flatten ∧
    List.Forall₂ (fun a word => ∃ b, alike a b ∧ Reads p.run word b) queue words

variable {write : α → σ → Except ε σ} {p : Reader σ τ ε ω α} {level : σ → Prop}
  {alike : α → α → Prop} {admits : α → Prop} {s : σ} {queue : List α}

theorem Holds.put {a b : α} {word : List τ} (holds : Holds level alike p s queue) {s' : σ}
    (kept : level s') (behind : unread s' = unread s ++ word) (same : alike a b)
    (reads : Reads p.run word b) : Holds level alike p s' (queue ++ [a]) where
  level := kept
  held := by
    obtain ⟨words, waiting, frames⟩ := holds.held
    refine ⟨words ++ [word], ?_, List.rel_append frames (.cons ⟨b, same, reads⟩ .nil)⟩
    rw [behind, waiting, List.flatten_append, List.flatten_singleton]

theorem Holds.take {a : α} (steady : ∀ s n, level s → level (advance s n))
    (holds : Holds level alike p s (a :: queue)) :
    ∃ b, (p.run s).value = .ok b ∧ alike a b ∧ Holds level alike p (p.run s).state queue := by
  obtain ⟨words, waiting, frames⟩ := holds.held
  cases frames with
  | cons head tail =>
    rename_i word words
    obtain ⟨b, same, reads⟩ := head
    obtain ⟨value, state⟩ := reads.accepts s words.flatten waiting
    refine ⟨b, value, same, ?_, words, ?_, tail⟩
    · rw [state]
      exact steady s _ holds.level
    · rw [state, Cursor.unread_advance, waiting, List.flatten_cons, List.drop_left]

theorem Holds.empty (holds : Holds level alike p s []) : unread s = [] := by
  obtain ⟨words, waiting, frames⟩ := holds.held
  cases frames
  exact waiting

/-- By induction on the calls, with the queue and the store general. -/
theorem exchange_answers
    (idle : ∀ s, unread s = [] → (p.run s).value = .error Truncation.short ∧ (p.run s).state = s)
    (steady : ∀ s n, level s → level (advance s n))
    (writes : ∀ s a, level s → admits a → ∃ s' word b, write a s = .ok s' ∧ level s' ∧
      unread s' = unread s ++ word ∧ alike a b ∧ Reads p.run word b)
    {posts : List (Post α)} (admitted : ∀ a, put a ∈ posts → admits a)
    (holds : Holds level alike p s queue) :
    List.Forall₂ (Answers alike) (exchange write p s posts) (answers queue posts) := by
  induction posts generalizing s queue with
  | nil => cases queue <;> exact .nil
  | cons post posts ih =>
    have later : ∀ a, put a ∈ posts → admits a := fun a member => admitted a (.tail _ member)
    cases post with
    | put a =>
      obtain ⟨s', word, b, wrote, kept, behind, same, reads⟩ :=
        writes s a holds.level (admitted a List.mem_cons_self)
      have next := ih later (holds.put kept behind same reads)
      rw [exchange, wrote]
      cases queue <;> exact next
    | take =>
      cases queue with
      | nil =>
        obtain ⟨value, state⟩ := idle s holds.empty
        rw [exchange, value, state, answers]
        exact .cons .none (ih later holds)
      | cons a queue =>
        obtain ⟨b, value, same, rest⟩ := holds.take steady
        rw [exchange, value, answers]
        exact .cons (.frame same) (ih later rest)

end

end Wire
