import FinProto.Wire.Layout

/-! Verdicts: why a reader along a layout fails. Either the tokens ran out, or the layout
stopped; and where nothing stops it, more tokens would have seen it through. -/
namespace Wire

namespace Layout
variable {τ : Type}

/-- Whether the layout stops before the tokens end. -/
def stops : Layout τ → List τ → Bool
  | done => fun _ => false
  | stop => fun _ => true
  | fixed n next => fun ts => if ts.length < n then false else next.stops (ts.drop n)
  | choose n next => fun ts =>
    if ts.length < n then false else (next (ts.take n)).stops (ts.drop n)
  | text announced next => fun ts =>
    if ts.length < announced.width then false
    else if (ts.drop announced.width).length < announced.value (ts.take announced.width) then false
    else next.stops ((ts.drop announced.width).drop (announced.value (ts.take announced.width)))
  | list announced element next => fun ts =>
    if ts.length < announced.width then false
    else
      let n := announced.value (ts.take announced.width)
      let behind := ts.drop announced.width
      sounded element.rest element.stops n behind || (repeated element.rest n behind).any next.stops

/-- A layout in which nothing is chosen by the tokens, so that nothing stops it. -/
def Plain : Layout τ → Prop
  | done => True
  | stop => False
  | fixed _ next => next.Plain
  | choose _ _ => False
  | text _ next => next.Plain
  | list _ element next => element.Plain ∧ next.Plain

/-- No choice on the way is cut short, and none leads to a stop. -/
def Clear : Layout τ → List τ → Prop
  | done => fun _ => True
  | stop => fun _ => False
  | fixed n next => fun ts => next.Clear (ts.drop n)
  | choose n next => fun ts => n ≤ ts.length ∧ (next (ts.take n)).Clear (ts.drop n)
  | text announced next => fun ts =>
    next.Clear ((ts.drop announced.width).drop (announced.value (ts.take announced.width)))
  | list announced element next => fun ts =>
    element.Plain ∧
      next.Clear ((repeated element.rest (announced.value (ts.take announced.width))
        (ts.drop announced.width)).getD [])

theorem stops_skip (n : Nat) (layout : Layout τ) (ts : List τ) :
    (skip n layout).stops ts = if ts.length < n then false else layout.stops (ts.drop n) := by
  cases layout with
  | fixed m next =>
    simp only [skip, stops, List.length_drop, List.drop_drop]
    exact ite_lt_add ts.length n m _ _
  | done => rfl
  | stop => rfl
  | choose m next => rfl
  | text announced next => rfl
  | list announced element next => rfl

theorem stops_andThen (layout after : Layout τ) (ts : List τ) :
    (layout.andThen after).stops ts =
      (layout.stops ts || (layout.rest ts).any after.stops) := by
  induction layout generalizing ts with
  | done => rfl
  | stop => rfl
  | fixed n next ih =>
    simp only [andThen, stops_skip, stops, rest]
    split
    · rfl
    · exact ih _
  | choose n next ih =>
    simp only [andThen, stops, rest]
    split
    · rfl
    · exact ih _ _
  | text announced next ih =>
    simp only [andThen, stops, rest]
    split
    · rfl
    · split
      · rfl
      · exact ih _
  | list announced element next _ ih =>
    simp only [andThen, stops, rest]
    split
    · rfl
    · cases repeated element.rest (announced.value (ts.take announced.width))
          (ts.drop announced.width) with
      | none => simp
      | some ts => simp [ih, Bool.or_assoc]

/-- Where a repetition sounds because a step fails there, it gets nowhere. -/
theorem repeated_eq_none {step : List τ → Option (List τ)} {rings : List τ → Bool}
    (fails : ∀ ts, rings ts = true → step ts = none) {n : Nat} {ts : List τ}
    (sounds : sounded step rings n ts = true) : repeated step n ts = none := by
  induction n generalizing ts with
  | zero => cases sounds
  | succ n ih =>
    rw [sounded, Bool.or_eq_true] at sounds
    rw [repeated]
    rcases sounds with here | later
    · rw [fails ts here]
      rfl
    · cases result : step ts with
      | none => rfl
      | some left =>
        rw [result, Option.any_some] at later
        exact ih later

/-- A layout that stops has nothing behind it. -/
theorem rest_of_stops {layout : Layout τ} {ts : List τ} (stopped : layout.stops ts = true) :
    layout.rest ts = none := by
  induction layout generalizing ts with
  | done => cases stopped
  | stop => rfl
  | fixed n next ih =>
    simp only [stops] at stopped
    simp only [rest]
    split
    · rfl
    · rename_i enough
      rw [if_neg enough] at stopped
      exact ih stopped
  | choose n next ih =>
    simp only [stops] at stopped
    simp only [rest]
    split
    · rfl
    · rename_i enough
      rw [if_neg enough] at stopped
      exact ih _ stopped
  | text announced next ih =>
    simp only [stops] at stopped
    simp only [rest]
    split
    · rfl
    · rename_i enough
      rw [if_neg enough] at stopped
      split
      · rfl
      · rename_i whole
        rw [if_neg whole] at stopped
        exact ih stopped
  | list announced element next inner ih =>
    simp only [stops] at stopped
    simp only [rest]
    split
    · rfl
    · rename_i enough
      rw [if_neg enough, Bool.or_eq_true] at stopped
      rcases stopped with within | behind
      · rw [repeated_eq_none (fun _ => inner) within]
        rfl
      · cases result : repeated element.rest (announced.value (ts.take announced.width))
            (ts.drop announced.width) with
        | none => rfl
        | some left =>
          rw [result, Option.any_some] at behind
          exact ih behind

theorem stops_of_plain {layout : Layout τ} (plain : layout.Plain) (ts : List τ) :
    layout.stops ts = false := by
  induction layout generalizing ts with
  | done => rfl
  | stop => cases plain
  | choose n next ih => cases plain
  | fixed n next ih =>
    simp only [stops, ih plain]
    exact ite_self false
  | text announced next ih =>
    simp only [stops, ih plain, ite_self]
  | list announced element next inner ih =>
    simp only [stops, sounded_eq_false (inner plain.1), Bool.false_or]
    split
    · rfl
    · cases repeated element.rest (announced.value (ts.take announced.width))
          (ts.drop announced.width) with
      | none => rfl
      | some ts => exact ih plain.2 ts

theorem clear_of_plain {layout : Layout τ} (plain : layout.Plain) (ts : List τ) :
    layout.Clear ts := by
  induction layout generalizing ts with
  | done => trivial
  | stop => cases plain
  | choose n next ih => cases plain
  | fixed n next ih => exact ih plain _
  | text announced next ih => exact ih plain _
  | list announced element next _ ih => exact ⟨plain.1, ih plain.2 _⟩

theorem clear_skip (n : Nat) (layout : Layout τ) (ts : List τ) :
    (skip n layout).Clear ts ↔ layout.Clear (ts.drop n) := by
  cases layout with
  | fixed m next => simp only [skip, Clear, List.drop_drop]
  | done => exact Iff.rfl
  | stop => exact Iff.rfl
  | choose m next => exact Iff.rfl
  | text announced next => exact Iff.rfl
  | list announced element next => exact Iff.rfl

theorem clear_andThen {layout after : Layout τ} {ts : List τ} (clear : layout.Clear ts)
    (plain : after.Plain) : (layout.andThen after).Clear ts := by
  induction layout generalizing ts with
  | done => exact clear_of_plain plain ts
  | stop => cases clear
  | fixed n next ih => exact (clear_skip n _ ts).mpr (ih clear)
  | choose n next ih => exact ⟨clear.1, ih _ clear.2⟩
  | text announced next ih => exact ih clear
  | list announced element next _ ih => exact ⟨clear.1, ih clear.2⟩

/-! ## More tokens -/

/-- More tokens at the end stay behind what a step leaves. -/
def Extends (step : List τ → Option (List τ)) : Prop :=
  ∀ {ts left}, step ts = some left → ∀ more, step (ts ++ more) = some (left ++ more)

/-- A step leaves no more tokens than it finds. -/
def Shrinks (step : List τ → Option (List τ)) : Prop :=
  ∀ {ts left}, step ts = some left → left.length ≤ ts.length

theorem extends_repeated {step : List τ → Option (List τ)} (longer : Extends step) (n : Nat) :
    Extends (repeated step n) := by
  induction n with
  | zero =>
    intro ts left reached more
    cases reached
    rfl
  | succ n ih =>
    intro ts left reached more
    rw [repeated, Option.bind_eq_some_iff] at reached
    obtain ⟨middle, first, second⟩ := reached
    rw [repeated, longer first more]
    exact ih second more

theorem shrinks_repeated {step : List τ → Option (List τ)} (shorter : Shrinks step) (n : Nat) :
    Shrinks (repeated step n) := by
  induction n with
  | zero =>
    intro ts left reached
    cases reached
    exact Nat.le_refl _
  | succ n ih =>
    intro ts left reached
    rw [repeated, Option.bind_eq_some_iff] at reached
    obtain ⟨middle, first, second⟩ := reached
    exact Nat.le_trans (ih second) (shorter first)

theorem shrinks_bind {step next : List τ → Option (List τ)} (first : Shrinks step)
    (second : Shrinks next) : Shrinks fun ts => (step ts).bind next := by
  intro ts left reached
  rw [Option.bind_eq_some_iff] at reached
  obtain ⟨middle, head, tail⟩ := reached
  exact Nat.le_trans (second tail) (first head)

/-- Nothing is left of nothing. -/
theorem getD_repeated_nil {step : List τ → Option (List τ)} (shorter : Shrinks step) (n : Nat) :
    (repeated step n []).getD [] = [] := by
  cases result : repeated step n [] with
  | none => rfl
  | some left =>
    exact List.eq_nil_of_length_eq_zero (Nat.le_zero.mp (shrinks_repeated shorter n result))

/-- Enough tokens stay enough. -/
theorem le_length_append {n : Nat} {ts : List τ} (room : n ≤ ts.length) (more : List τ) :
    n ≤ (ts ++ more).length := by
  rw [List.length_append]
  exact Nat.le_trans room (Nat.le_add_right _ _)

theorem not_lt_append {n : Nat} {ts : List τ} (enough : ¬ ts.length < n) (more : List τ) :
    ¬ (ts ++ more).length < n :=
  Nat.not_lt.mpr (le_length_append (Nat.le_of_not_lt enough) more)

theorem le_of_le_drop {n : Nat} {ts left : List τ} (within : left.length ≤ (ts.drop n).length) :
    left.length ≤ ts.length := by
  rw [List.length_drop] at within
  exact Nat.le_trans within (Nat.sub_le _ _)

/-- Behind a window the tokens go on as long as the window is whole. -/
theorem ite_lt_eq_some {α : Type} {m n : Nat} {x : Option α} {a : α} :
    (if m < n then none else x) = some a ↔ n ≤ m ∧ x = some a := by
  by_cases short : m < n
  · rw [if_pos short]
    constructor
    · intro reached
      cases reached
    · intro reached
      exact absurd short (Nat.not_lt.mpr reached.1)
  · rw [if_neg short]
    exact (and_iff_right (Nat.le_of_not_lt short)).symm

section
variable {n : Nat} {announced : Announced τ} {element next : Layout τ} {ts left : List τ}

theorem rest_fixed : (fixed n next).rest ts = some left ↔
    n ≤ ts.length ∧ next.rest (ts.drop n) = some left := ite_lt_eq_some

theorem rest_choose {next : List τ → Layout τ} : (choose n next).rest ts = some left ↔
    n ≤ ts.length ∧ (next (ts.take n)).rest (ts.drop n) = some left := ite_lt_eq_some

theorem rest_text : (text announced next).rest ts = some left ↔
    announced.width ≤ ts.length ∧
      announced.value (ts.take announced.width) ≤ (ts.drop announced.width).length ∧
      next.rest ((ts.drop announced.width).drop (announced.value (ts.take announced.width))) =
        some left :=
  ite_lt_eq_some.trans (and_congr_right fun _ => ite_lt_eq_some)

theorem rest_list : (list announced element next).rest ts = some left ↔
    announced.width ≤ ts.length ∧ ∃ middle,
      repeated element.rest (announced.value (ts.take announced.width))
        (ts.drop announced.width) = some middle ∧ next.rest middle = some left :=
  ite_lt_eq_some.trans (and_congr_right fun _ => Option.bind_eq_some_iff)

end

theorem extends_rest (layout : Layout τ) : Extends layout.rest := by
  induction layout with
  | done =>
    intro ts left reached more
    cases reached
    rfl
  | stop =>
    intro ts left reached
    cases reached
  | fixed n next ih =>
    intro ts left reached more
    obtain ⟨room, behind⟩ := rest_fixed.mp reached
    refine rest_fixed.mpr ⟨le_length_append room more, ?_⟩
    rw [List.drop_append_of_le_length room]
    exact ih behind more
  | choose n next ih =>
    intro ts left reached more
    obtain ⟨room, behind⟩ := rest_choose.mp reached
    refine rest_choose.mpr ⟨le_length_append room more, ?_⟩
    rw [List.drop_append_of_le_length room, List.take_append_of_le_length room]
    exact ih _ behind more
  | text announced next ih =>
    intro ts left reached more
    obtain ⟨room, whole, behind⟩ := rest_text.mp reached
    rw [rest_text, List.drop_append_of_le_length room, List.take_append_of_le_length room,
      List.drop_append_of_le_length whole]
    exact ⟨le_length_append room more, le_length_append whole more, ih behind more⟩
  | list announced element next inner ih =>
    intro ts left reached more
    obtain ⟨room, middle, elements, behind⟩ := rest_list.mp reached
    rw [rest_list, List.drop_append_of_le_length room, List.take_append_of_le_length room]
    exact ⟨le_length_append room more, middle ++ more, extends_repeated inner _ elements more,
      ih behind more⟩

theorem shrinks_rest (layout : Layout τ) : Shrinks layout.rest := by
  induction layout with
  | done =>
    intro ts left reached
    cases reached
    exact Nat.le_refl _
  | stop =>
    intro ts left reached
    cases reached
  | fixed n next ih =>
    intro ts left reached
    exact le_of_le_drop (ih (rest_fixed.mp reached).2)
  | choose n next ih =>
    intro ts left reached
    exact le_of_le_drop (ih _ (rest_choose.mp reached).2)
  | text announced next ih =>
    intro ts left reached
    obtain ⟨_, _, behind⟩ := rest_text.mp reached
    exact le_of_le_drop (le_of_le_drop (ih behind))
  | list announced element next inner ih =>
    intro ts left reached
    obtain ⟨_, middle, elements, behind⟩ := rest_list.mp reached
    exact le_of_le_drop (Nat.le_trans (ih behind) (shrinks_repeated inner _ elements))

/-- The tokens reach the end, or some continuation of them reaches it exactly. -/
def Completes (step : List τ → Option (List τ)) (ts : List τ) : Prop :=
  (∃ left, step ts = some left) ∨ ∃ more, step (ts ++ more) = some []

/-- From nothing the end is reached exactly. -/
theorem Completes.of_nil {step : List τ → Option (List τ)} (shorter : Shrinks step)
    (completes : Completes step []) : ∃ more, step more = some [] := by
  rcases completes with ⟨left, reached⟩ | ⟨more, reached⟩
  · have empty : left = [] := List.eq_nil_of_length_eq_zero (Nat.le_zero.mp (shorter reached))
    exact ⟨[], empty ▸ reached⟩
  · exact ⟨more, reached⟩

theorem completes_repeated {step : List τ → Option (List τ)} (longer : Extends step)
    (shorter : Shrinks step) (each : ∀ ts, Completes step ts) (n : Nat) (ts : List τ) :
    Completes (repeated step n) ts := by
  induction n generalizing ts with
  | zero => exact .inl ⟨ts, rfl⟩
  | succ n ih =>
    rcases each ts with ⟨middle, first⟩ | ⟨more, first⟩
    · rcases ih middle with ⟨left, second⟩ | ⟨more, second⟩
      · refine .inl ⟨left, ?_⟩
        rw [repeated, first]
        exact second
      · refine .inr ⟨more, ?_⟩
        rw [repeated, longer first more]
        exact second
    · obtain ⟨more', second⟩ := (ih []).of_nil (shrinks_repeated shorter n)
      refine .inr ⟨more ++ more', ?_⟩
      rw [← List.append_assoc, repeated, longer first more']
      exact second

section
variable [Inhabited τ]

/-- What `n` tokens lack. -/
def filler (n : Nat) (ts : List τ) : List τ := List.replicate (n - ts.length) default

theorem not_lt_filled (n : Nat) (ts : List τ) : ¬ (ts ++ filler n ts).length < n := by
  rw [List.length_append, filler, List.length_replicate]
  omega

theorem filler_of_le {n : Nat} {ts : List τ} (room : n ≤ ts.length) : filler n ts = [] := by
  rw [filler, Nat.sub_eq_zero_of_le room, List.replicate_zero]

theorem take_filled (n : Nat) (ts more : List τ) :
    (ts ++ filler n ts ++ more).take n = (ts ++ filler n ts).take n :=
  List.take_append_of_le_length (Nat.le_of_not_lt (not_lt_filled n ts))

/-- Filling leaves what stands behind as it is. -/
theorem drop_filled (n : Nat) (ts more : List τ) :
    (ts ++ filler n ts ++ more).drop n = ts.drop n ++ more := by
  rw [List.drop_append_of_le_length (Nat.le_of_not_lt (not_lt_filled n ts))]
  rcases Nat.le_total n ts.length with room | short
  · rw [filler_of_le room, List.append_nil]
  · rw [List.drop_of_length_le short, List.drop_of_length_le]
    rw [List.length_append, filler, List.length_replicate]
    omega

/-- What is dropped behind a window is the same whether it was filled or not. -/
theorem drop_drop_filled (n : Nat) (ts : List τ) (count : List τ → Nat) :
    (ts.drop n).drop (count ((ts ++ filler n ts).take n)) =
      (ts.drop n).drop (count (ts.take n)) := by
  rcases Nat.le_total n ts.length with room | short
  · rw [filler_of_le room, List.append_nil]
  · rw [List.drop_of_length_le short, List.drop_nil, List.drop_nil]

/-- Completing behind a window completes the window as well. -/
theorem completes_behind {n : Nat} {ts : List τ} {step next : List τ → Option (List τ)}
    (enters : ∀ more, step (ts ++ filler n ts ++ more) = next (ts.drop n ++ more))
    (shorter : Shrinks next) (completes : Completes next (ts.drop n)) : Completes step ts := by
  by_cases short : ts.length < n
  · rw [List.drop_of_length_le (Nat.le_of_lt short)] at enters completes
    obtain ⟨more, reached⟩ := completes.of_nil shorter
    refine .inr ⟨filler n ts ++ more, ?_⟩
    rw [← List.append_assoc, enters, List.nil_append, reached]
  · rw [filler_of_le (Nat.le_of_not_lt short), List.append_nil] at enters
    rcases completes with ⟨left, reached⟩ | ⟨more, reached⟩
    · have whole := enters []
      rw [List.append_nil, List.append_nil] at whole
      exact .inl ⟨left, whole.trans reached⟩
    · exact .inr ⟨more, (enters more).trans reached⟩

/-- Take `n` tokens and go on behind them. -/
def behind (n : Nat) (next : List τ → Option (List τ)) (ts : List τ) : Option (List τ) :=
  if ts.length < n then none else next (ts.drop n)

omit [Inhabited τ] in
theorem shrinks_behind (n : Nat) {next : List τ → Option (List τ)} (shorter : Shrinks next) :
    Shrinks (behind n next) := by
  intro ts left reached
  exact le_of_le_drop (shorter (ite_lt_eq_some.mp reached).2)

theorem behind_filled (n : Nat) (next : List τ → Option (List τ)) (ts more : List τ) :
    behind n next (ts ++ filler n ts ++ more) = next (ts.drop n ++ more) := by
  rw [behind, if_neg (not_lt_append (not_lt_filled n ts) more), drop_filled]

omit [Inhabited τ] in
/-- Completing one step and then, from what it leaves, the next. -/
theorem Completes.bind {step next : List τ → Option (List τ)} {ts : List τ} (longer : Extends step)
    (shorter : Shrinks next) (first : Completes step ts)
    (second : Completes next ((step ts).getD [])) :
    Completes (fun ts => (step ts).bind next) ts := by
  rcases first with ⟨middle, reached⟩ | ⟨more, reached⟩
  · rw [reached, Option.getD_some] at second
    rcases second with ⟨left, reached'⟩ | ⟨more, reached'⟩
    · exact .inl ⟨left, by simp only [reached, Option.bind_some, reached']⟩
    · exact .inr ⟨more, by simp only [longer reached more, Option.bind_some, reached']⟩
  · cases result : step ts with
    | some middle =>
      rw [result, Option.getD_some] at second
      rcases second with ⟨left, reached'⟩ | ⟨more, reached'⟩
      · exact .inl ⟨left, by simp only [result, Option.bind_some, reached']⟩
      · exact .inr ⟨more, by simp only [longer result more, Option.bind_some, reached']⟩
    | none =>
      rw [result, Option.getD_none] at second
      obtain ⟨more', reached'⟩ := second.of_nil shorter
      refine .inr ⟨more ++ more', ?_⟩
      simp only [← List.append_assoc, longer reached more', Option.bind_some, List.nil_append,
        reached']

/-- Where the choices made so far are sound, more tokens lead to the end. -/
theorem completes_of_clear {layout : Layout τ} {ts : List τ} (clear : layout.Clear ts) :
    Completes layout.rest ts := by
  induction layout generalizing ts with
  | done => exact .inl ⟨ts, rfl⟩
  | stop => cases clear
  | fixed n next ih =>
    exact completes_behind (behind_filled n next.rest ts) (shrinks_rest next) (ih clear)
  | choose n next ih =>
    obtain ⟨room, clear⟩ := clear
    have enters : ∀ more, (choose n next).rest (ts ++ filler n ts ++ more) =
        (next (ts.take n)).rest (ts.drop n ++ more) := by
      intro more
      simp only [rest]
      rw [if_neg (not_lt_append (not_lt_filled n ts) more), drop_filled, take_filled,
        filler_of_le room, List.append_nil]
    exact completes_behind enters (shrinks_rest _) (ih _ clear)
  | text announced next ih =>
    have enters : ∀ more, (text announced next).rest (ts ++ filler announced.width ts ++ more) =
        behind (announced.value ((ts ++ filler announced.width ts).take announced.width)) next.rest
          (ts.drop announced.width ++ more) := by
      intro more
      simp only [rest]
      rw [if_neg (not_lt_append (not_lt_filled _ ts) more), drop_filled, take_filled]
      rfl
    have counted := completes_behind (behind_filled _ next.rest _) (shrinks_rest next)
      (by rw [drop_drop_filled]; exact ih clear)
    exact completes_behind enters (shrinks_behind _ (shrinks_rest next)) counted
  | list announced element next inner ih =>
    obtain ⟨plain, clear⟩ := clear
    have each : ∀ us, Completes element.rest us := fun us => inner (clear_of_plain plain us)
    have enters : ∀ more,
        (list announced element next).rest (ts ++ filler announced.width ts ++ more) =
          (repeated element.rest
            (announced.value ((ts ++ filler announced.width ts).take announced.width))
            (ts.drop announced.width ++ more)).bind next.rest := by
      intro more
      simp only [rest]
      rw [if_neg (not_lt_append (not_lt_filled _ ts) more), drop_filled, take_filled]
    have left : next.Clear ((repeated element.rest
        (announced.value ((ts ++ filler announced.width ts).take announced.width))
        (ts.drop announced.width)).getD []) := by
      rcases Nat.le_total announced.width ts.length with room | short
      · rwa [filler_of_le room, List.append_nil]
      · rw [List.drop_of_length_le short, getD_repeated_nil (shrinks_rest element)] at clear ⊢
        exact clear
    have elements := completes_repeated (extends_rest element) (shrinks_rest element) each
      (announced.value ((ts ++ filler announced.width ts).take announced.width))
      (ts.drop announced.width)
    exact completes_behind enters
      (shrinks_bind (shrinks_repeated (shrinks_rest element) _) (shrinks_rest next))
      (elements.bind (extends_repeated (extends_rest element) _) (shrinks_rest next) (ih left))

end

end Layout

/-! ## Readers -/

section
variable {σ τ ε ω α β : Type} [Cursor σ τ] [Truncation ε] [Audit σ τ ω]

/-- A reader that fails where more tokens would have seen it through ran out of them. -/
theorem Reader.short_of_longer {p : Reader σ τ ε ω α} {s : σ} {e : ε} {a : α} {more : List τ}
    (failure : (p.run s).value = .error e)
    (longer : (p.run (load (unread s ++ more))).value = .ok a) : e = Truncation.short := by
  obtain ⟨c, t, split, reads, _⟩ := p.consumed longer
  rw [Cursor.unread_load] at split
  have whole : ∀ part, unread s ≠ c ++ part := by
    intro part same
    cases failure.symm.trans (reads.accepts s part same).1
  rcases List.append_eq_append_iff.mp split with ⟨gap, fits, _⟩ | ⟨part, before, _⟩
  · have missing : gap ≠ [] := by
      intro none
      rw [none, List.append_nil] at fits
      exact whole [] (by rw [List.append_nil, fits])
    exact Except.error.inj (failure.symm.trans (reads.truncated s gap missing fits.symm))
  · exact (whole part before).elim

/-- Two readers at once, the second by what the first took. -/
theorem Takes.bind {p : Reader σ τ ε ω α} {m n : Nat} {f : List τ → α} (takes : Takes p m f)
    {k : α → Reader σ τ ε ω β} {g : α → List τ → β} (rest : ∀ a, Takes (k a) n (g a)) :
    Takes (p >>= k) (m + n) (fun ts => g (f (ts.take m)) (ts.drop m)) := by
  constructor
  · intro s bound
    obtain ⟨value, state⟩ := takes.enough s (by omega)
    have left : n ≤ (unread (advance s m)).length := by
      rw [Cursor.unread_advance, List.length_drop]
      omega
    obtain ⟨later, stop⟩ := (rest (f ((unread s).take m))).enough (advance s m) left
    rw [Reader.run_bind, Reader.chain_ok value, state]
    refine ⟨?_, stop.trans (Cursor.advance_advance _ _ _)⟩
    rw [List.take_take, Nat.min_eq_left (Nat.le_add_right m n), List.drop_take,
      Nat.add_sub_cancel_left, ← Cursor.unread_advance]
    exact later
  · intro s missing
    by_cases first : (unread s).length < m
    · obtain ⟨e, failure⟩ := takes.short s first
      rw [Reader.run_bind, Reader.chain_error failure]
      exact ⟨e, rfl⟩
    · obtain ⟨value, state⟩ := takes.enough s (Nat.le_of_not_lt first)
      have gone : (unread (advance s m)).length < n := by
        rw [Cursor.unread_advance, List.length_drop]
        omega
      obtain ⟨e, failure⟩ := (rest (f ((unread s).take m))).short (advance s m) gone
      rw [Reader.run_bind, Reader.chain_ok value, state]
      exact ⟨e, failure⟩

namespace Follows
variable {watch : Watch σ ω} {p : Reader σ τ ε ω α} {layout : Layout τ}

theorem accepts_iff (follows : Follows watch p layout) (s : σ) :
    (∃ a, (p.run s).value = .ok a) ↔ ∃ left, layout.rest (unread s) = some left := by
  constructor
  · intro accepted
    obtain ⟨a, success⟩ := accepted
    exact ⟨_, follows.tracks.accepts s a success⟩
  · intro reached
    obtain ⟨left, reached⟩ := reached
    cases result : (p.run s).value with
    | ok a => exact ⟨a, rfl⟩
    | error e => cases reached.symm.trans (follows.tracks.refuses s e result)

variable [Inhabited τ]

/-- Where the choices so far are sound, a failing reader would be seen through by more
tokens, to the end of them. -/
theorem completed (follows : Follows watch p layout) {s : σ} {e : ε}
    (failure : (p.run s).value = .error e) (clear : layout.Clear (unread s)) :
    e = Truncation.short ∧ ∃ more a, (p.run (load (unread s ++ more))).value = .ok a ∧
      unread (p.run (load (unread s ++ more))).state = [] := by
  have stuck := follows.tracks.refuses s e failure
  rcases Layout.completes_of_clear clear with ⟨left, reached⟩ | ⟨more, reached⟩
  · cases stuck.symm.trans reached
  · rw [← Cursor.unread_load (σ := σ) (unread s ++ more)] at reached
    obtain ⟨a, success⟩ := (follows.accepts_iff _).mpr ⟨[], reached⟩
    refine ⟨Reader.short_of_longer failure success, more, a, success, ?_⟩
    exact Option.some.inj ((follows.tracks.accepts _ a success).symm.trans reached)

end Follows

/-- The reason to fail, by whether something stops the reader. -/
def reason (refusal : ε) : Bool → ε
  | true => refusal
  | false => Truncation.short

/-- A reader that fails with `refusal` where `stops` says, and for want of tokens anywhere else. -/
def Judged (refusal : ε) (p : Reader σ τ ε ω α) (stops : List τ → Bool) : Prop :=
  ∀ s e, (p.run s).value = .error e → e = reason refusal (stops (unread s))

namespace Judged
variable {watch : Watch σ ω} {refusal : ε} {p : Reader σ τ ε ω α} {k : α → Reader σ τ ε ω β}
  {rest : List τ → Option (List τ)} {rings stops next : List τ → Bool} {n : Nat} {f : List τ → α}

theorem congr {stops' : List τ → Bool} (judged : Judged refusal p stops)
    (same : ∀ ts, stops ts = stops' ts) : Judged refusal p stops' := by
  cases funext same
  exact judged

/-- Where nothing is chosen there is no other reason to fail. -/
theorem ofPlain [Inhabited τ] {layout : Layout τ} (follows : Follows watch p layout)
    (plain : layout.Plain) : Judged refusal p layout.stops := by
  intro s e failure
  rw [Layout.stops_of_plain plain]
  exact (follows.completed failure (Layout.clear_of_plain plain _)).1

theorem pure (a : α) : Judged refusal (Pure.pure a : Reader σ τ ε ω α) (fun _ => false) := by
  intro s e failure
  cases failure

theorem stopped :
    Judged refusal ((Reader.throw refusal : Reader σ τ ε ω α) >>= k) (fun _ => true) := by
  intro s e failure
  cases failure
  rfl

/-- Where the first fails it is to blame, and behind it the second. -/
theorem bind (tracks : Tracks watch p rest rings) (ends : ∀ ts, stops ts = true → rest ts = none)
    (first : Judged refusal p stops) (second : ∀ a, Judged refusal (k a) next) :
    Judged refusal (p >>= k) (fun ts => stops ts || (rest ts).any next) := by
  intro s e failure
  rw [Reader.run_bind] at failure
  dsimp only
  cases result : (p.run s).value with
  | error e' =>
    rw [Reader.chain_error result] at failure
    cases failure
    rw [tracks.refuses s e result, Option.any_none, Bool.or_false]
    exact first s e result
  | ok a =>
    rw [Reader.chain_ok result] at failure
    have reached := tracks.accepts s a result
    have passed : stops (unread s) = false := by
      apply Bool.eq_false_iff.mpr
      intro stopped
      cases (ends _ stopped).symm.trans reached
    rw [reached, passed, Bool.false_or, Option.any_some]
    exact second a _ e failure

theorem map (judged : Judged refusal p stops) (g : α → β) : Judged refusal (g <$> p) stops := by
  intro s e failure
  rw [← bind_pure_comp, Reader.run_bind] at failure
  cases result : (p.run s).value with
  | error e' =>
    rw [Reader.chain_error result] at failure
    cases failure
    exact judged s e result
  | ok a =>
    rw [Reader.chain_ok result] at failure
    cases failure

/-- Reading a field and then what it selects. -/
theorem choose (takes : Takes p n f) (first : Judged refusal p (fun _ => false))
    {next : α → List τ → Bool} (second : ∀ a, Judged refusal (k a) (next a)) :
    Judged refusal (p >>= k)
      (fun ts => if ts.length < n then false else next (f (ts.take n)) (ts.drop n)) := by
  intro s e failure
  rw [Reader.run_bind] at failure
  dsimp only
  by_cases missing : (unread s).length < n
  · obtain ⟨e', stuck⟩ := takes.short s missing
    rw [Reader.chain_error stuck] at failure
    cases failure
    rw [if_pos missing]
    exact first s e stuck
  · obtain ⟨value, state⟩ := takes.enough s (Nat.le_of_not_lt missing)
    rw [Reader.chain_ok value, state] at failure
    rw [if_neg missing, ← Cursor.unread_advance]
    exact second _ _ e failure

theorem times (tracks : Tracks watch p rest rings) (ends : ∀ ts, stops ts = true → rest ts = none)
    (judged : Judged refusal p stops) (n : Nat) :
    Judged refusal (p.times n) (sounded rest stops n) := by
  induction n with
  | zero => exact pure []
  | succ n ih =>
    have tail : ∀ a, Judged refusal (p.times n >>= fun as => Pure.pure (a :: as))
        (sounded rest stops n) := by
      intro a
      rw [bind_pure_comp]
      exact ih.map fun as => a :: as
    exact bind tracks ends judged tail

/-- An event is no reason to fail. -/
theorem note {event : σ → ω} {sound} {q : Reader σ τ ε ω β} (judged : Judged refusal q stops) :
    Judged refusal (Reader.note event sound >>= fun _ => q) stops := by
  intro s e failure
  rw [Reader.run_bind, Reader.chain_ok (a := ()) rfl] at failure
  exact judged _ e failure

end Judged

end

end Wire
