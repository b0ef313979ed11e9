import FinProto.Wire.Reader

/-! Readers as exact inverses of writers. `Inverts p w P` says that `p` reads
the spelling `w a` of every value satisfying `P` and reads nothing else, which
is at once the round trip, the canonicity of accepted input and unique parsing. -/
namespace Wire

variable {σ τ ε ω α β M : Type} [Cursor σ τ] [Truncation ε] [Audit σ τ ω]

def Inverts (p : Reader σ τ ε ω α) (w : α → List τ) (P : α → Prop) : Prop :=
  ∀ c a, Reads p.run c a ↔ c = w a ∧ P a

/-- An inverse found from the reader alone, so that a record's proof names its
fields only. -/
class Inverse (p : Reader σ τ ε ω α) (w : outParam (α → List τ)) (P : outParam (α → Prop)) :
    Prop where
  inverts : Inverts p w P

namespace Inverts
variable {p : Reader σ τ ε ω α} {w : α → List τ} {P : α → Prop}

theorem reads (inverse : Inverts p w P) (valid : P a) : Reads p.run (w a) a :=
  (inverse _ _).mpr ⟨rfl, valid⟩

/-- The round trip: a spelling at the cursor is read back, whatever follows it. -/
theorem run (inverse : Inverts p w P) (valid : P a) {s : σ} {t : List τ}
    (split : unread s = w a ++ t) :
    (p.run s).value = .ok a ∧ (p.run s).state = advance s (w a).length :=
  (inverse.reads valid).accepts s t split

/-- The converse: every accepted input starts with the spelling of its value. -/
theorem sound (inverse : Inverts p w P) {s : σ} (success : (p.run s).value = .ok a) :
    P a ∧ (∃ t, unread s = w a ++ t) ∧ (p.run s).state = advance s (w a).length := by
  obtain ⟨c, t, split, reads, state⟩ := p.consumed success
  obtain ⟨rfl, valid⟩ := (inverse c a).mp reads
  exact ⟨valid, ⟨t, split⟩, state⟩

/-- Spellings are a prefix code on the values read. -/
theorem unique (inverse : Inverts p w P) (left : P a) (right : P b) {t u : List τ}
    (same : w a ++ t = w b ++ u) : a = b ∧ t = u := by
  obtain ⟨spelled, equal⟩ := (inverse.reads left).unique (inverse.reads right) same
  rw [spelled] at same
  exact ⟨equal, List.append_cancel_left same⟩

/-- Different values read have different spellings. -/
theorem injective (inverse : Inverts p w P) (left : P a) (right : P b) (same : w a = w b) : a = b :=
  (inverse.unique left right (congrArg (· ++ []) same)).1

theorem congr (inverse : Inverts p w P) (spelled : ∀ a, w a = v a) (valid : ∀ a, P a ↔ Q a) :
    Inverts p v Q := by
  intro c a
  rw [inverse c a, spelled, valid]

theorem pure (a : α) : Inverts (Pure.pure a : Reader σ τ ε ω α) (fun _ => []) (fun b => a = b) :=
  fun _ _ => Reader.reads_pure

theorem note {event : σ → ω} {sound} {k : Unit → Reader σ τ ε ω α} (rest : Inverts (k ()) w P) :
    Inverts (Reader.note event sound >>= k) w P :=
  fun c a => Reader.reads_note_bind.trans (rest c a)

/-- Reading one field `g` of a record and then the rest. `C` is what the fields
read so far pin down; the rest is read knowing that this field is `a`. -/
theorem bind {k : α → Reader σ τ ε ω M} {W : M → List τ} {C Q : M → Prop} (g : M → α)
    (first : Inverts p w P) (rest : ∀ a, Inverts (k a) W (fun m => (C m ∧ g m = a) ∧ Q m)) :
    Inverts (p >>= k) (fun m => w (g m) ++ W m) (fun m => C m ∧ (P (g m) ∧ Q m)) := by
  intro c m
  rw [Reader.reads_bind]
  constructor
  · rintro ⟨c₁, c₂, a, rfl, head, tail⟩
    obtain ⟨rfl, valid⟩ := (first c₁ a).mp head
    obtain ⟨rfl, ⟨known, rfl⟩, valid'⟩ := (rest a c₂ m).mp tail
    exact ⟨rfl, known, valid, valid'⟩
  · rintro ⟨rfl, known, valid, valid'⟩
    exact ⟨w (g m), W m, g m, rfl, first.reads valid,
      (rest (g m) _ m).mpr ⟨rfl, ⟨known, rfl⟩, valid'⟩⟩

theorem field {k : α → Reader σ τ ε ω M} {W : M → List τ} {C Q : M → Prop} (g : M → α)
    [Inverse p w P] (rest : ∀ a, Inverts (k a) W (fun m => (C m ∧ g m = a) ∧ Q m)) :
    Inverts (p >>= k) (fun m => w (g m) ++ W m) (fun m => C m ∧ (P (g m) ∧ Q m)) :=
  bind g Inverse.inverts rest

/-- Reading a field whose reader was chosen by a field read before. -/
theorem fieldBy {κ : Type} {key : κ} {P : κ → α → Prop} {k : α → Reader σ τ ε ω M}
    {W : M → List τ} {C Q : M → Prop} (g : M → α) (choice : M → κ)
    (known : ∀ m, C m → choice m = key) (first : Inverts p w (P key))
    (rest : ∀ a, Inverts (k a) W (fun m => (C m ∧ g m = a) ∧ Q m)) :
    Inverts (p >>= k) (fun m => w (g m) ++ W m) (fun m => C m ∧ (P (choice m) (g m) ∧ Q m)) := by
  refine (bind g first rest).congr (fun _ => rfl) (fun m => ?_)
  constructor
  · intro read
    obtain ⟨pinned, valid⟩ := read
    exact ⟨pinned, by rwa [known m pinned]⟩
  · intro read
    obtain ⟨pinned, valid⟩ := read
    exact ⟨pinned, by rwa [known m pinned] at valid⟩

/-- The record is complete once the fields read determine it. -/
theorem done {m : M} {C : M → Prop} (determined : ∀ n, C n ↔ n = m) :
    Inverts (Pure.pure m : Reader σ τ ε ω M) (fun _ => []) (fun n => C n ∧ True) :=
  (Inverts.pure m).congr (fun _ => rfl) (fun n => by rw [determined, and_true, eq_comm])

/-- A fixed-width reader inverts a writer that spells exactly the windows of
that width, each as the value read from it. -/
theorem ofWidth {n : Nat} {f : List τ → α}
    (exactly : ∀ c a, Reads p.run c a ↔ c.length = n ∧ f c = a)
    (width : ∀ a, P a → (w a).length = n) (back : ∀ a, P a → f (w a) = a)
    (forth : ∀ c, c.length = n → w (f c) = c ∧ P (f c)) : Inverts p w P := by
  intro c a
  rw [exactly]
  constructor
  · intro window
    obtain ⟨full, same⟩ := window
    subst same
    exact ⟨(forth c full).1.symm, (forth c full).2⟩
  · intro spelling
    obtain ⟨spelled, valid⟩ := spelling
    subst spelled
    exact ⟨width a valid, back a valid⟩

/-- Reading through an injection into a larger type. -/
theorem map {f : α → β} {v : β → List τ} (inverse : Inverts p w P)
    (spelled : ∀ a, v (f a) = w a) :
    Inverts (f <$> p) v (fun b => ∃ a, f a = b ∧ P a) := by
  intro c b
  rw [← bind_pure_comp, Reader.reads_bind]
  constructor
  · rintro ⟨c₁, c₂, a, rfl, head, tail⟩
    obtain ⟨rfl, valid⟩ := (inverse c₁ a).mp head
    obtain ⟨rfl, rfl⟩ := Reader.reads_pure.mp tail
    exact ⟨by rw [spelled, List.append_nil], a, rfl, valid⟩
  · rintro ⟨rfl, a, rfl, valid⟩
    exact ⟨w a, [], a, by rw [spelled, List.append_nil], inverse.reads valid,
      Reader.reads_pure.mpr ⟨rfl, rfl⟩⟩

end Inverts

/-- Read `n` values one after the other. -/
def Reader.times (p : Reader σ τ ε ω α) : Nat → Reader σ τ ε ω (List α)
  | 0 => Pure.pure []
  | n + 1 => do
    let a ← p
    let as ← p.times n
    return a :: as

/-- Repetition: the spelling of a list is the spellings of its elements. -/
theorem Inverts.times {p : Reader σ τ ε ω α} {w : α → List τ} {P : α → Prop}
    (inverse : Inverts p w P) (n : Nat) :
    Inverts (p.times n) (fun as => as.flatMap w) (fun as => as.length = n ∧ ∀ a ∈ as, P a) := by
  induction n with
  | zero =>
    intro c as
    rw [Reader.times, Reader.reads_pure]
    constructor
    · intro done
      obtain ⟨consumed, empty⟩ := done
      subst empty
      exact ⟨consumed, rfl, by simp⟩
    · intro none
      obtain ⟨consumed, length, _⟩ := none
      have empty : as = [] := List.eq_nil_of_length_eq_zero length
      subst empty
      exact ⟨consumed, rfl⟩
  | succ n ih =>
    intro c as
    rw [Reader.times, Reader.reads_bind]
    constructor
    · intro reads
      obtain ⟨c₁, c₂, a, split, head, rest⟩ := reads
      obtain ⟨c₃, c₄, tail, split', body, last⟩ := Reader.reads_bind.mp rest
      obtain ⟨rfl, valid⟩ := (inverse c₁ a).mp head
      obtain ⟨rfl, length, valids⟩ := (ih c₃ tail).mp body
      obtain ⟨rfl, rfl⟩ := Reader.reads_pure.mp last
      exact ⟨by simp [split, split'], by simp [length], by simpa using ⟨valid, valids⟩⟩
    · intro spelling
      obtain ⟨consumed, length, valids⟩ := spelling
      cases as with
      | nil => simp at length
      | cons a tail =>
        have body := (ih (tail.flatMap w) tail).mpr
          ⟨rfl, by simpa using length, fun b member => valids b (by simp [member])⟩
        refine ⟨w a, tail.flatMap w, a, by simpa using consumed,
          inverse.reads (valids a (by simp)), ?_⟩
        exact Reader.reads_bind.mpr
          ⟨tail.flatMap w, [], tail, by simp, body, Reader.reads_pure.mpr ⟨rfl, rfl⟩⟩

/-- A reader that returns the normal form of what the writer was given: values
with one normal form share a spelling, and exactly the normal forms that fit
are read. -/
structure RoundTrip (p : Reader σ τ ε ω α) (w : α → List τ) (norm : α → α) (fits : α → Prop) :
    Prop where
  spelled : ∀ a, w (norm a) = w a
  settled : ∀ a, norm (norm a) = norm a
  fits_norm : ∀ a, fits (norm a) ↔ fits a
  inverts : Inverts p w (fun a => norm a = a ∧ fits a)

namespace RoundTrip
variable {p : Reader σ τ ε ω α} {w : α → List τ} {norm : α → α} {fits : α → Prop}

theorem reads (trip : RoundTrip p w norm fits) (valid : fits a) : Reads p.run (w a) (norm a) := by
  have read := trip.inverts.reads ⟨trip.settled a, (trip.fits_norm a).mpr valid⟩
  rwa [trip.spelled] at read

/-- A writer that already spells normal forms loses nothing. -/
theorem exact (inverse : Inverts p w P) : RoundTrip p w id P where
  spelled _ := rfl
  settled _ := rfl
  fits_norm _ := Iff.rfl
  inverts := inverse.congr (fun _ => rfl) (fun _ => by simp)

/-- A record whose fields are read one by one: what the fields require is that
the record is normal and fits. -/
theorem record {v : α → List τ} {Q : α → Prop} (chain : Inverts p v (fun a => True ∧ Q a))
    (required : ∀ a, Q a ↔ norm a = a ∧ fits a) (spelling : ∀ a, v a = w a)
    (spelled : ∀ a, w (norm a) = w a) (settled : ∀ a, norm (norm a) = norm a)
    (fits_norm : ∀ a, fits (norm a) ↔ fits a) : RoundTrip p w norm fits where
  spelled := spelled
  settled := settled
  fits_norm := fits_norm
  inverts := chain.congr spelling (fun a => by rw [true_and, required])

end RoundTrip

end Wire
