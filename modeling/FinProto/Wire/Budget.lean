import FinProto.Wire.Layout

/-! What a reader logs, weighed against the tokens it takes. Costs add up along a reader, and
each element of a list pays for one more than it logs itself. A reader that accepts has paid for
everything; one that stops may leave a prefix unpaid for each list it stops in. -/
namespace Wire

namespace Layout
variable {τ : Type} {limit depth : Nat}

/-- The fewest tokens anything along a layout takes. -/
def width : Layout τ → Nat
  | done => 0
  | stop => 0
  | fixed n next => n + next.width
  | choose n _ => n
  | text announced next => announced.width + next.width
  | list announced _ next => announced.width + next.width

/-- No prefix announces more than `limit`, no element is empty, and no more than `depth`
prefixes wait for what they announce at once. -/
def Affordable (limit : Nat) : Layout τ → Nat → Prop
  | done, _ => True
  | stop, _ => True
  | fixed _ next, depth => next.Affordable limit depth
  | choose _ next, depth => ∀ ts, (next ts).Affordable limit depth
  | text announced next, depth =>
    0 < depth ∧ (∀ ts, announced.value ts ≤ limit) ∧ next.Affordable limit depth
  | list announced element next, depth =>
    0 < depth ∧ (∀ ts, announced.value ts ≤ limit) ∧ 0 < element.width ∧
      element.Affordable limit (depth - 1) ∧ next.Affordable limit depth

theorem width_skip (n : Nat) (layout : Layout τ) : (skip n layout).width = n + layout.width := by
  cases layout with
  | fixed m next => simp only [skip, width, Nat.add_assoc]
  | done => rfl
  | stop => rfl
  | choose m next => rfl
  | text announced next => rfl
  | list announced element next => rfl

theorem width_andThen (layout after : Layout τ) :
    (layout.andThen after).width ≤ layout.width + after.width := by
  induction layout with
  | done => simp [andThen, width]
  | stop => simp [andThen, width]
  | choose n next ih => simp [andThen, width]
  | fixed n next ih =>
    simp only [andThen, width_skip, width]
    omega
  | text announced next ih =>
    simp only [andThen, width]
    omega
  | list announced element next _ ih =>
    simp only [andThen, width]
    omega

theorem affordable_skip (n : Nat) (layout : Layout τ) :
    (skip n layout).Affordable limit depth ↔ layout.Affordable limit depth := by
  cases layout <;> rfl

theorem affordable_andThen {layout after : Layout τ} (front : layout.Affordable limit depth)
    (behind : after.Affordable limit depth) : (layout.andThen after).Affordable limit depth := by
  induction layout with
  | done => exact behind
  | stop => trivial
  | fixed n next ih => exact (affordable_skip n _).mpr (ih front)
  | choose n next ih => exact fun ts => ih ts (front ts)
  | text announced next ih => exact ⟨front.1, front.2.1, ih front.2.2⟩
  | list announced element next _ ih =>
    obtain ⟨deep, small, wide, inner, front⟩ := front
    exact ⟨deep, small, wide, inner, ih front⟩

theorem affordable_front {layout after : Layout τ}
    (affordable : (layout.andThen after).Affordable limit depth) :
    layout.Affordable limit depth := by
  induction layout with
  | done => trivial
  | stop => trivial
  | fixed n next ih => exact ih ((affordable_skip n _).mp affordable)
  | choose n next ih => exact fun ts => ih ts (affordable ts)
  | text announced next ih => exact ⟨affordable.1, affordable.2.1, ih affordable.2.2⟩
  | list announced element next _ ih =>
    obtain ⟨deep, small, wide, inner, behind⟩ := affordable
    exact ⟨deep, small, wide, inner, ih behind⟩

/-- What stands behind a layout counts as soon as its end is reached. -/
theorem affordable_behind {layout after : Layout τ}
    (affordable : (layout.andThen after).Affordable limit depth) {ts left : List τ}
    (reached : layout.rest ts = some left) : after.Affordable limit depth := by
  induction layout generalizing ts with
  | done => exact affordable
  | stop => cases reached
  | fixed n next ih =>
    simp only [rest] at reached
    split at reached
    · cases reached
    · exact ih ((affordable_skip n _).mp affordable) reached
  | choose n next ih =>
    simp only [rest] at reached
    split at reached
    · cases reached
    · exact ih _ (affordable _) reached
  | text announced next ih =>
    simp only [rest] at reached
    split at reached
    · cases reached
    · split at reached
      · cases reached
      · exact ih affordable.2.2 reached
  | list announced element next _ ih =>
    obtain ⟨_, _, _, _, behind⟩ := affordable
    simp only [rest] at reached
    split at reached
    · cases reached
    · obtain ⟨middle, _, reached⟩ := Option.bind_eq_some_iff.mp reached
      exact ih behind reached

end Layout

section
variable {σ τ ε ω α β : Type} [Cursor σ τ] [Truncation ε] [Audit σ τ ω]

def total (cost : ω → Nat) : List ω → Nat
  | [] => 0
  | e :: log => cost e + total cost log

theorem total_append (cost : ω → Nat) (front back : List ω) :
    total cost (front ++ back) = total cost front + total cost back := by
  induction front with
  | nil => simp [total]
  | cons e front ih =>
    rw [List.cons_append, total, total, ih]
    omega

theorem total_free {cost : ω → Nat} {log : List ω} (free : ∀ e ∈ log, cost e = 0) :
    total cost log = 0 := by
  induction log with
  | nil => rfl
  | cons e log ih =>
    rw [total, free e List.mem_cons_self, ih fun e member => free e (.tail _ member)]

/-- What this reader logs costs `spare` less than the tokens it takes, if it accepts. -/
def Pays (cost : ω → Nat) (p : Reader σ τ ε ω α) (spare : Nat) : Prop :=
  ∀ s a, (p.run s).value = .ok a →
    total cost (p.run s).log + spare + (unread (p.run s).state).length ≤ (unread s).length

namespace Pays
variable {cost : ω → Nat} {p : Reader σ τ ε ω α} {k : α → Reader σ τ ε ω β} {m n : Nat}

theorem weaken (pays : Pays cost p (m + n)) : Pays cost p n := by
  intro s a success
  have paid := pays s a success
  omega

theorem pure (a : α) : Pays cost (Pure.pure a : Reader σ τ ε ω α) 0 := by
  intro s b _
  change 0 + 0 + (unread s).length ≤ (unread s).length
  omega

theorem throw (e : ε) : Pays cost ((Reader.throw e : Reader σ τ ε ω α) >>= k) n := by
  intro s b success
  cases success

theorem bind (first : Pays cost p m)
    (second : ∀ s a, (p.run s).value = .ok a → Pays cost (k a) n) :
    Pays cost (p >>= k) (m + n) := by
  intro s b success
  rw [Reader.run_bind] at success ⊢
  cases result : (p.run s).value with
  | error e =>
    rw [Reader.chain_error result] at success
    cases success
  | ok a =>
    rw [Reader.chain_ok result] at success ⊢
    have before := first s a result
    have after := second s a result _ b success
    rw [total_append]
    simp only at after ⊢
    omega

theorem map (pays : Pays cost p n) (g : α → β) : Pays cost (g <$> p) n := by
  rw [← bind_pure_comp]
  exact pays.bind fun _ a _ => pure (g a)

/-- Tokens taken at once, with nothing logged that costs. -/
theorem take {f : List τ → α} (takes : Takes p n f)
    (free : ∀ s, total cost (p.run s).log = 0) : Pays cost p n := by
  intro s a success
  by_cases short : (unread s).length < n
  · obtain ⟨e, failure⟩ := takes.short s short
    cases success.symm.trans failure
  · rw [free s, (takes.enough s (Nat.le_of_not_lt short)).2, Cursor.unread_advance,
      List.length_drop]
    omega

/-- What each element has to spare adds up. -/
theorem times (pays : Pays cost p m) (n : Nat) : Pays cost (p.times n) (n * m) := by
  induction n with
  | zero =>
    rw [Nat.zero_mul]
    exact pure []
  | succ n ih =>
    have tail : ∀ a, Pays cost (p.times n >>= fun as => Pure.pure (a :: as)) (n * m) :=
      fun a => ih.bind fun _ as _ => pure (a :: as)
    have paid : Pays cost (p.times (n + 1)) (m + n * m) := pays.bind fun _ a _ => tail a
    rwa [Nat.succ_mul, Nat.add_comm (n * m)]

/-- An event that costs what the reader behind it has to spare. -/
theorem note {event : σ → ω} {sound} {q : Unit → Reader σ τ ε ω β}
    (costs : ∀ s, cost (event s) = m) (pays : Pays cost (q ()) (m + n)) :
    Pays cost (Reader.note event sound >>= q) n := by
  intro s b success
  rw [Reader.run_bind, Reader.chain_ok (a := ()) rfl] at success ⊢
  have after := pays _ b success
  have logged : total cost ((Reader.note (ε := ε) event sound).run s).log = m := by
    change cost (event s) + 0 = m
    rw [costs, Nat.add_zero]
  have still : ((Reader.note (ε := ε) event sound).run s).state = s := rfl
  rw [total_append, logged]
  rw [still] at after ⊢
  simp only at after ⊢
  omega

end Pays

/-- However this reader ends, what it logs costs no more than the tokens it took and `excess`. -/
def Within (cost : ω → Nat) (excess : Nat) (p : Reader σ τ ε ω α) : Prop :=
  ∀ s, total cost (p.run s).log + (unread (p.run s).state).length ≤ (unread s).length + excess

namespace Within
variable {cost : ω → Nat} {p : Reader σ τ ε ω α} {k : α → Reader σ τ ε ω β} {m n : Nat}

theorem pure (a : α) : Within cost n (Pure.pure a : Reader σ τ ε ω α) := by
  intro s
  change 0 + (unread s).length ≤ (unread s).length + n
  omega

theorem throw (e : ε) : Within cost n ((Reader.throw e : Reader σ τ ε ω α) >>= k) := by
  intro s
  change 0 + (unread s).length ≤ (unread s).length + n
  omega

/-- The second reader only runs where the first has paid. -/
theorem bind (pays : Pays cost p 0) (first : Within cost n p)
    (second : ∀ s a, (p.run s).value = .ok a → Within cost n (k a)) : Within cost n (p >>= k) := by
  intro s
  rw [Reader.run_bind]
  cases result : (p.run s).value with
  | error e =>
    rw [Reader.chain_error result]
    exact first s
  | ok a =>
    have before := pays s a result
    have after := second s a result (p.run s).state
    rw [Reader.chain_ok result, total_append]
    simp only at after ⊢
    omega

theorem map (pays : Pays cost p 0) (within : Within cost n p) (g : α → β) :
    Within cost n (g <$> p) := by
  rw [← bind_pure_comp]
  exact within.bind pays fun _ a _ => pure (g a)

theorem free (costless : ∀ s, total cost (p.run s).log = 0) : Within cost n p := by
  intro s
  obtain ⟨m, _, moved⟩ := p.moves s
  rw [costless s, moved, Cursor.unread_advance, List.length_drop]
  omega

theorem times (pays : Pays cost p 0) (within : Within cost n p) (count : Nat) :
    Within cost n (p.times count) := by
  induction count with
  | zero => exact pure []
  | succ count ih =>
    have paid : Pays cost (p.times count) 0 := pays.times count
    exact within.bind pays fun _ a _ => ih.bind paid fun _ as _ => pure (a :: as)

/-- An event of the reader that stops behind it stays unpaid. -/
theorem note {event : σ → ω} {sound} {q : Unit → Reader σ τ ε ω β}
    (costs : ∀ s, cost (event s) ≤ m) (within : Within cost n (q ())) :
    Within cost (n + m) (Reader.note event sound >>= q) := by
  intro s
  have after := within s
  have here := costs s
  rw [Reader.run_bind, Reader.chain_ok (a := ()) rfl, total_append]
  change cost (event s) + 0 + _ + _ ≤ _
  change total cost ((q ()).run s).log + (unread ((q ()).run s).state).length ≤ _ at after
  change _ + total cost ((q ()).run s).log + (unread ((q ()).run s).state).length ≤ _
  omega

end Within

/-- A reader whose log costs `spare` less than the tokens it takes if it accepts, and `excess`
more at the most if it stops. -/
structure Frugal (cost : ω → Nat) (spare excess : Nat) (p : Reader σ τ ε ω α) : Prop where
  pays : Pays cost p spare
  within : Within cost excess p

namespace Frugal
variable {cost : ω → Nat} {spare spare' excess limit : Nat} {p : Reader σ τ ε ω α}
  {k : α → Reader σ τ ε ω β}

theorem weaken (frugal : Frugal cost spare excess p) (less : spare' ≤ spare) :
    Frugal cost spare' excess p := by
  obtain ⟨m, rfl⟩ := Nat.exists_eq_add_of_le' less
  exact ⟨frugal.pays.weaken, frugal.within⟩

theorem pure (a : α) : Frugal cost 0 excess (Pure.pure a : Reader σ τ ε ω α) :=
  ⟨.pure a, .pure a⟩

theorem throw (e : ε) : Frugal cost spare excess ((Reader.throw e : Reader σ τ ε ω α) >>= k) :=
  ⟨.throw e, .throw e⟩

theorem take {n : Nat} {f : List τ → α} (takes : Takes p n f)
    (free : ∀ s, total cost (p.run s).log = 0) : Frugal cost n excess p :=
  ⟨.take takes free, .free free⟩

theorem map (frugal : Frugal cost spare excess p) (g : α → β) :
    Frugal cost spare excess (g <$> p) :=
  ⟨frugal.pays.map g, frugal.within.map frugal.pays.weaken g⟩

/-- Reading a field and then the rest. -/
theorem bind (first : Frugal cost spare excess p)
    (second : ∀ s a, (p.run s).value = .ok a → Frugal cost spare' excess (k a)) :
    Frugal cost (spare + spare') excess (p >>= k) := by
  constructor
  · exact first.pays.bind fun s a success => (second s a success).pays
  · exact first.within.bind first.pays.weaken fun s a success => (second s a success).within

/-- A prefix and as many tokens or elements as it says, at the cost of its value. -/
theorem counted (value : α → Nat) (event : Nat → σ → ω) (sound : ∀ n s, Audit.Sound s (event n s))
    {q : Nat → Reader σ τ ε ω β} (first : Frugal cost spare (excess + limit) p)
    (costs : ∀ n s, cost (event n s) = n) (small : ∀ s a, (p.run s).value = .ok a → value a ≤ limit)
    (behind : ∀ n, Frugal cost n excess (q n)) :
    Frugal cost spare (excess + limit) (p >>= fun a =>
      Reader.note (event (value a)) (sound (value a)) >>= fun _ => q (value a)) := by
  have noted : ∀ s a, (p.run s).value = .ok a → Frugal cost 0 (excess + limit)
      (Reader.note (event (value a)) (sound (value a)) >>= fun _ => q (value a)) := by
    intro s a success
    have dear : ∀ t, cost (event (value a) t) ≤ limit :=
      fun t => Nat.le_trans (Nat.le_of_eq (costs _ t)) (small s a success)
    exact ⟨.note (costs (value a)) (behind (value a)).pays, .note dear (behind (value a)).within⟩
  exact first.bind noted

end Frugal

end

end Wire
