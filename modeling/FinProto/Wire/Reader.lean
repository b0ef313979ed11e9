/-! Self-delimiting readers over a cursor. A reader carries the proof that a
successful run depends on the tokens it consumed and on nothing after them, so
sequencing readers never has to re-establish it. -/
namespace Wire

/-- A state that walks over a token stream: the tokens still unread, moving
forward, and a state positioned in front of any given tokens. -/
class Cursor (σ : Type) (τ : outParam Type) where
  unread : σ → List τ
  advance : σ → Nat → σ
  load : List τ → σ
  unread_advance : ∀ s n, unread (advance s n) = (unread s).drop n
  advance_zero : ∀ s, advance s 0 = s
  advance_advance : ∀ s m n, advance (advance s m) n = advance s (m + n)
  unread_load : ∀ ts, unread (load ts) = ts

export Cursor (unread advance load)

attribute [simp] Cursor.unread_advance Cursor.advance_zero Cursor.advance_advance Cursor.unread_load

/-- The error a reader reports when it runs out of tokens. -/
class Truncation (ε : Type) where
  short : ε

/-- Events a run may log, and which of them are sound at a state. Soundness is
about the whole stream, so moving the cursor does not change it. -/
class Audit (σ : Type) (τ : outParam Type) (ω : Type) [Cursor σ τ] where
  Sound : σ → ω → Prop
  sound_advance : ∀ s n e, Sound (advance s n) e ↔ Sound s e

/-- What a run leaves behind, whether it returned a value or stopped. -/
structure Outcome (σ ε ω α : Type) where
  value : Except ε α
  state : σ
  log : List ω

section
variable {σ τ ε ω α β : Type} [Cursor σ τ] [Truncation ε]

/-- Reading consumes exactly `c` and returns `a`, whatever follows, and every
input that ends inside `c` stops with the truncation error. -/
structure Reads (run : σ → Outcome σ ε ω α) (c : List τ) (a : α) : Prop where
  accepts : ∀ s t, unread s = c ++ t → (run s).value = .ok a ∧ (run s).state = advance s c.length
  truncated : ∀ s t, t ≠ [] → unread s ++ t = c → (run s).value = .error Truncation.short

theorem Reads.accepts_load {run : σ → Outcome σ ε ω α} {c : List τ} (reads : Reads run c a)
    (t : List τ) : (run (load (c ++ t))).value = .ok a ∧
      (run (load (c ++ t))).state = advance (load (c ++ t)) c.length :=
  reads.accepts _ t (Cursor.unread_load _)

/-- Two reads that start at the same tokens consume the same and return the same. -/
theorem Reads.unique {run : σ → Outcome σ ε ω α} {c d t u : List τ} {a b : α}
    (first : Reads run c a) (second : Reads run d b) (same : c ++ t = d ++ u) :
    c = d ∧ a = b := by
  have ⟨value₁, state₁⟩ := first.accepts_load t
  have ⟨value₂, state₂⟩ := second.accepts (load (c ++ t)) u (by simpa using same)
  have rest : unread (advance (load (σ := σ) (c ++ t)) c.length) =
      unread (advance (load (σ := σ) (c ++ t)) d.length) := by rw [← state₁, state₂]
  rw [Cursor.unread_advance, Cursor.unread_advance, Cursor.unread_load, List.drop_left, same,
    List.drop_left] at rest
  subst rest
  exact ⟨List.append_cancel_right same, Except.ok.inj (value₁.symm.trans value₂)⟩

/-- A run that fails short of `n` tokens and otherwise maps the next `n` reads
exactly the windows of that width. -/
theorem Reads.window {run : σ → Outcome σ ε ω α} {f : List τ → α} {n : Nat}
    (enough : ∀ s, n ≤ (unread s).length →
      (run s).value = .ok (f ((unread s).take n)) ∧ (run s).state = advance s n)
    (short : ∀ s, (unread s).length < n →
      (run s).value = .error Truncation.short ∧ (run s).state = s)
    {c : List τ} (width : c.length = n) : Reads run c (f c) := by
  subst width
  constructor
  · intro s t split
    have bound : c.length ≤ (unread s).length := by simp [split]
    have taken : (unread s).take c.length = c := by simp [split]
    simpa only [taken] using enough s bound
  · intro s t nonempty split
    apply (short s _).1
    have positive := List.length_pos_iff.mpr nonempty
    have total : (unread s).length + t.length = c.length := by
      simpa using congrArg List.length split
    omega

end

/-- A reader: moves forward only, succeeds only by a self-delimiting read, and
logs only sound events. -/
structure Reader (σ τ ε ω : Type) [Cursor σ τ] [Truncation ε] [Audit σ τ ω] (α : Type) where
  run : σ → Outcome σ ε ω α
  moves : ∀ s, ∃ n, n ≤ (unread s).length ∧ (run s).state = advance s n
  delimited : ∀ s a, (run s).value = .ok a → ∃ c t, unread s = c ++ t ∧ Reads run c a
  audited : ∀ s, ∀ e ∈ (run s).log, Audit.Sound s e

namespace Reader
variable {σ τ ε ω α β γ : Type} [Cursor σ τ] [Truncation ε] [Audit σ τ ω]

@[ext] theorem ext {p q : Reader σ τ ε ω α} (same : ∀ s, p.run s = q.run s) : p = q := by
  cases p
  cases q
  simp only [mk.injEq]
  exact funext same

/-- A successful run consumed a prefix of the unread tokens and advanced past it. -/
theorem consumed (p : Reader σ τ ε ω α) {s : σ} {a : α} (success : (p.run s).value = .ok a) :
    ∃ c t, unread s = c ++ t ∧ Reads p.run c a ∧ (p.run s).state = advance s c.length := by
  obtain ⟨c, t, split, reads⟩ := p.delimited s a success
  exact ⟨c, t, split, reads, (reads.accepts s t split).2⟩

/-- Return a value without looking at the input. -/
def pure (a : α) : Reader σ τ ε ω α where
  run s := ⟨.ok a, s, []⟩
  moves s := ⟨0, Nat.zero_le _, (Cursor.advance_zero s).symm⟩
  delimited s b success := by
    cases success
    refine ⟨[], unread s, rfl, ⟨fun s _ _ => ⟨rfl, (Cursor.advance_zero s).symm⟩, ?_⟩⟩
    intro s t nonempty empty
    exact absurd (List.append_eq_nil_iff.mp empty).2 nonempty
  audited := by simp

/-- Stop with an error, leaving the cursor where it is. -/
def throw (e : ε) : Reader σ τ ε ω α where
  run s := ⟨.error e, s, []⟩
  moves s := ⟨0, Nat.zero_le _, (Cursor.advance_zero s).symm⟩
  delimited s a success := by cases success
  audited := by simp

/-- Log an event without reading anything. -/
def note (event : σ → ω) (sound : ∀ s, Audit.Sound s (event s)) : Reader σ τ ε ω Unit where
  run s := ⟨.ok (), s, [event s]⟩
  moves s := ⟨0, Nat.zero_le _, (Cursor.advance_zero s).symm⟩
  delimited s b _ := by
    refine ⟨[], unread s, rfl, ⟨fun s _ _ => ⟨rfl, (Cursor.advance_zero s).symm⟩, ?_⟩⟩
    intro s t nonempty empty
    exact absurd (List.append_eq_nil_iff.mp empty).2 nonempty
  audited s e member := by
    cases List.mem_singleton.mp member
    exact sound s

/-- The effect of running one reader and feeding its value to the next. -/
def chain (p : Reader σ τ ε ω α) (k : α → Reader σ τ ε ω β) (s : σ) : Outcome σ ε ω β :=
  match p.run s with
  | ⟨.ok a, s', log⟩ => ⟨((k a).run s').value, ((k a).run s').state, log ++ ((k a).run s').log⟩
  | ⟨.error e, s', log⟩ => ⟨.error e, s', log⟩

theorem chain_ok {p : Reader σ τ ε ω α} {k : α → Reader σ τ ε ω β} {s : σ}
    (success : (p.run s).value = .ok a) :
    chain p k s = ⟨((k a).run (p.run s).state).value, ((k a).run (p.run s).state).state,
      (p.run s).log ++ ((k a).run (p.run s).state).log⟩ := by
  unfold chain
  split
  · rename_i found
    rw [found] at success
    cases success
    simp [found]
  · rename_i found
    rw [found] at success
    cases success

theorem chain_error {p : Reader σ τ ε ω α} {k : α → Reader σ τ ε ω β} {s : σ}
    (failure : (p.run s).value = .error e) :
    chain p k s = ⟨.error e, (p.run s).state, (p.run s).log⟩ := by
  unfold chain
  split
  · rename_i found
    rw [found] at failure
    cases failure
  · rename_i found
    rw [found] at failure
    cases failure
    simp [found]

/-- Self-delimiting reads compose: an input cut inside the second part still
lets the first part through, so the truncation is reported by the second. -/
theorem reads_chain {p : Reader σ τ ε ω α} {k : α → Reader σ τ ε ω β} {c d : List τ}
    (first : Reads p.run c a) (second : Reads (k a).run d b) : Reads (chain p k) (c ++ d) b := by
  constructor
  · intro s t split
    rw [List.append_assoc] at split
    obtain ⟨value, state⟩ := first.accepts s (d ++ t) split
    have rest : unread (advance s c.length) = d ++ t := by simp [split]
    obtain ⟨value', state'⟩ := second.accepts _ t rest
    rw [chain_ok value, state]
    exact ⟨value', by simpa using state'⟩
  · intro s t nonempty split
    rcases List.append_eq_append_iff.mp split with ⟨gap, fits, _⟩ | ⟨part, before, after⟩
    · by_cases none : gap = []
      · subst none
        have whole : unread s = c := by simpa using fits.symm
        obtain ⟨value, state⟩ := first.accepts s [] (by rw [whole, List.append_nil])
        rw [chain_ok value, state]
        apply second.truncated _ t nonempty
        rw [Cursor.unread_advance, whole, List.drop_length, List.nil_append]
        rwa [whole, List.append_cancel_left_eq] at split
      · rw [chain_error (first.truncated s gap none fits.symm)]
    · obtain ⟨value, state⟩ := first.accepts s part before
      rw [chain_ok value, state]
      apply second.truncated _ t nonempty
      have rest : unread (advance s c.length) = part := by simp [before]
      rw [rest]
      exact after.symm

/-- Run one reader, then the reader its value selects. -/
def bind (p : Reader σ τ ε ω α) (k : α → Reader σ τ ε ω β) : Reader σ τ ε ω β where
  run := chain p k
  moves s := by
    obtain ⟨m, bound, state⟩ := p.moves s
    cases result : (p.run s).value with
    | error e => exact ⟨m, bound, by rw [chain_error result, state]⟩
    | ok a =>
      obtain ⟨n, bound', state'⟩ := (k a).moves (p.run s).state
      refine ⟨m + n, ?_, ?_⟩
      · rw [state] at bound'
        simp only [Cursor.unread_advance, List.length_drop] at bound'
        omega
      · rw [chain_ok result]
        simp only [state']
        rw [state, Cursor.advance_advance]
  delimited s b success := by
    cases result : (p.run s).value with
    | error e => rw [chain_error result] at success; cases success
    | ok a =>
      obtain ⟨c, t, split, first, state⟩ := p.consumed result
      rw [chain_ok result] at success
      obtain ⟨d, u, split', second⟩ := (k a).delimited _ _ success
      rw [state] at split'
      have tail : t = d ++ u := by simpa [split] using split'
      exact ⟨c ++ d, u, by rw [split, tail, List.append_assoc], reads_chain first second⟩
  audited s e member := by
    obtain ⟨m, _, state⟩ := p.moves s
    cases result : (p.run s).value with
    | error _ => rw [chain_error result] at member; exact p.audited s e member
    | ok a =>
      rw [chain_ok result] at member
      rcases List.mem_append.mp member with before | after
      · exact p.audited s e before
      · have sound := (k a).audited _ e after
        rwa [state, Audit.sound_advance] at sound

instance : Monad (Reader σ τ ε ω) where
  pure := pure
  bind := bind

@[simp] theorem run_pure (a : α) (s : σ) :
    (Pure.pure a : Reader σ τ ε ω α).run s = ⟨.ok a, s, []⟩ := rfl

@[simp] theorem run_bind (p : Reader σ τ ε ω α) (k : α → Reader σ τ ε ω β) (s : σ) :
    (p >>= k).run s = chain p k s := rfl

@[simp] theorem run_throw (e : ε) (s : σ) :
    (throw e : Reader σ τ ε ω α).run s = ⟨.error e, s, []⟩ := rfl

instance : LawfulMonad (Reader σ τ ε ω) := by
  refine LawfulMonad.mk' _ ?id_map ?pure_bind ?bind_assoc
  case id_map =>
    intro α p
    apply ext
    intro s
    change chain p _ s = _
    cases result : p.run s with
    | mk value state log => cases value <;> simp [chain, result, pure]
  case pure_bind =>
    intro α β a k
    apply ext
    intro s
    change chain (pure a) k s = _
    simp [chain, pure]
  case bind_assoc =>
    intro α β γ p k l
    apply ext
    intro s
    change chain (p >>= k) l s = chain p (fun a => k a >>= l) s
    cases result : p.run s with
    | mk value state log =>
      cases value with
      | error e => simp [chain, result]
      | ok a =>
        cases next : (k a).run state with
        | mk value' state' log' => cases value' <;> simp [chain, result, next]

/-- Reading with a sequence is reading its parts, in order. -/
theorem reads_bind {p : Reader σ τ ε ω α} {k : α → Reader σ τ ε ω β} {c : List τ} {b : β} :
    Reads (p >>= k).run c b ↔
      ∃ c₁ c₂ a, c = c₁ ++ c₂ ∧ Reads p.run c₁ a ∧ Reads (k a).run c₂ b := by
  constructor
  · intro whole
    have ⟨success, _⟩ := whole.accepts_load []
    rw [List.append_nil, run_bind] at success
    cases result : (p.run (load c)).value with
    | error e => rw [chain_error result] at success; cases success
    | ok a =>
      obtain ⟨c₁, t, split, first, state⟩ := p.consumed result
      rw [chain_ok result, state] at success
      obtain ⟨c₂, u, split', second, _⟩ := (k a).consumed success
      have tail : t = c₂ ++ u := by simpa [split] using split'
      have start : c = (c₁ ++ c₂) ++ u := by
        rw [← Cursor.unread_load (σ := σ) c, split, tail, List.append_assoc]
      have parts := reads_chain first second
      obtain ⟨same, _⟩ := whole.unique parts (t := []) (u := u) (by simpa using start)
      exact ⟨c₁, c₂, a, same, first, second⟩
  · rintro ⟨c₁, c₂, a, rfl, first, second⟩
    exact reads_chain first second

theorem reads_pure {a b : α} {c : List τ} :
    Reads (Pure.pure a : Reader σ τ ε ω α).run c b ↔ c = [] ∧ a = b := by
  constructor
  · intro reads
    have none : Reads (Pure.pure a : Reader σ τ ε ω α).run ([] : List τ) a := by
      refine ⟨fun s _ _ => ⟨rfl, (Cursor.advance_zero s).symm⟩, ?_⟩
      intro s t nonempty empty
      exact absurd (List.append_eq_nil_iff.mp empty).2 nonempty
    obtain ⟨consumed, same⟩ := reads.unique none (t := []) (u := c) (by simp)
    exact ⟨consumed, same.symm⟩
  · rintro ⟨rfl, rfl⟩
    refine ⟨fun s _ _ => ⟨rfl, (Cursor.advance_zero s).symm⟩, ?_⟩
    intro s t nonempty empty
    exact absurd (List.append_eq_nil_iff.mp empty).2 nonempty

theorem not_reads_throw {e : ε} {c : List τ} {a : α} :
    ¬ Reads (throw e : Reader σ τ ε ω α).run c a := by
  intro reads
  have ⟨value, _⟩ := reads.accepts_load []
  cases value

/-- A reader of a fixed number of tokens: any function that fails short of `n`
tokens and otherwise maps the next `n` and moves past them. -/
def window (run : σ → Outcome σ ε ω α) (n : Nat) (f : List τ → α)
    (enough : ∀ s, n ≤ (unread s).length →
      (run s).value = .ok (f ((unread s).take n)) ∧ (run s).state = advance s n)
    (short : ∀ s, (unread s).length < n →
      (run s).value = .error Truncation.short ∧ (run s).state = s)
    (audited : ∀ s, ∀ e ∈ (run s).log, Audit.Sound s e) : Reader σ τ ε ω α where
  run := run
  moves s := by
    by_cases bound : n ≤ (unread s).length
    · exact ⟨n, bound, (enough s bound).2⟩
    · refine ⟨0, Nat.zero_le _, ?_⟩
      rw [(short s (Nat.lt_of_not_le bound)).2, Cursor.advance_zero]
  delimited s a success := by
    by_cases bound : n ≤ (unread s).length
    · have result := (enough s bound).1
      have same : f ((unread s).take n) = a := Except.ok.inj (result.symm.trans success)
      refine ⟨(unread s).take n, (unread s).drop n, (List.take_append_drop n _).symm, ?_⟩
      rw [← same]
      exact Reads.window enough short (List.length_take_of_le bound)
    · rw [(short s (Nat.lt_of_not_le bound)).1] at success
      cases success
  audited := audited

theorem reads_note_bind {event : σ → ω} {sound} {k : Unit → Reader σ τ ε ω β} {c : List τ} {b : β} :
    Reads (note event sound >>= k).run c b ↔ Reads (k ()).run c b := by
  have nothing : Reads (note (ε := ε) event sound).run ([] : List τ) () := by
    refine ⟨fun s _ _ => ⟨rfl, (Cursor.advance_zero s).symm⟩, ?_⟩
    intro s t nonempty empty
    exact absurd (List.append_eq_nil_iff.mp empty).2 nonempty
  rw [reads_bind]
  constructor
  · intro reads
    obtain ⟨c₁, c₂, _, split, head, rest⟩ := reads
    obtain ⟨empty, _⟩ := head.unique nothing (t := []) (u := c₁) (by simp)
    subst empty
    simpa [split] using rest
  · intro rest
    exact ⟨[], c, (), rfl, nothing, rest⟩

theorem reads_window {run : σ → Outcome σ ε ω α} {n : Nat} {f : List τ → α} {enough short audited}
    {c : List τ} {a : α} :
    Reads (window run n f enough short audited).run c a ↔ c.length = n ∧ f c = a := by
  constructor
  · intro reads
    have ⟨success, _⟩ := reads.accepts_load []
    have bound : n ≤ c.length := by
      apply Nat.le_of_not_lt
      intro missing
      have stopped := (short (load (c ++ [])) (by simpa using missing)).1
      cases success.symm.trans stopped
    have head := Reads.window enough short (List.length_take_of_le bound)
    obtain ⟨whole, same⟩ := reads.unique head (t := []) (u := c.drop n) (by simp)
    have width : c.length = n := by rw [whole]; exact List.length_take_of_le bound
    exact ⟨width, by rw [same, ← whole]⟩
  · intro window
    obtain ⟨width, same⟩ := window
    subst same
    exact Reads.window enough short width

end Reader

end Wire
