import FinProto.Wire.Inverse

/-! Layouts: how far a reader gets, told from the tokens alone. A layout says where the
announced lengths stand, so the events a reader logs can be foretold without running it. -/
namespace Wire

/-- A length prefix: the tokens it takes and the number they announce. -/
structure Announced (τ : Type) where
  width : Nat
  value : List τ → Nat

inductive Layout (τ : Type) where
  | done
  | stop
  | fixed (n : Nat) (next : Layout τ)
  | choose (n : Nat) (next : List τ → Layout τ)
  | text (announced : Announced τ) (next : Layout τ)
  | list (announced : Announced τ) (element next : Layout τ)

/-- Go through the tokens `n` times. -/
def repeated (step : List τ → Option (List τ)) : Nat → List τ → Option (List τ)
  | 0, ts => some ts
  | n + 1, ts => (step ts).bind (repeated step n)

/-- Whether anything rings on the way through the tokens `n` times. -/
def sounded (step : List τ → Option (List τ)) (rings : List τ → Bool) : Nat → List τ → Bool
  | 0, _ => false
  | n + 1, ts => rings ts || (step ts).any (sounded step rings n)

/-- What to ring at, each for a number and the tokens left where it is used: a number that
sizes a container, and a number of tokens taken at once. -/
structure Alarm where
  sizes : Nat → Nat → Bool
  takes : Nat → Nat → Bool

namespace Layout
variable {τ : Type}

/-- The tokens behind a layout, if there are enough and it does not stop. -/
def rest : Layout τ → List τ → Option (List τ)
  | done => some
  | stop => fun _ => none
  | fixed n next => fun ts => if ts.length < n then none else next.rest (ts.drop n)
  | choose n next => fun ts =>
    if ts.length < n then none else (next (ts.take n)).rest (ts.drop n)
  | text announced next => fun ts =>
    if ts.length < announced.width then none
    else if (ts.drop announced.width).length < announced.value (ts.take announced.width) then none
    else next.rest ((ts.drop announced.width).drop (announced.value (ts.take announced.width)))
  | list announced element next => fun ts =>
    if ts.length < announced.width then none
    else (repeated element.rest (announced.value (ts.take announced.width))
      (ts.drop announced.width)).bind next.rest

/-- Whether the alarm rings before the layout ends or the tokens do. -/
def rings (alarm : Alarm) : Layout τ → List τ → Bool
  | done => fun _ => false
  | stop => fun _ => false
  | fixed n next => fun ts => if ts.length < n then false else next.rings alarm (ts.drop n)
  | choose n next => fun ts =>
    if ts.length < n then false else (next (ts.take n)).rings alarm (ts.drop n)
  | text announced next => fun ts =>
    if ts.length < announced.width then false
    else
      let n := announced.value (ts.take announced.width)
      let behind := ts.drop announced.width
      alarm.sizes n behind.length ||
        if behind.length < n then false
        else alarm.takes n behind.length || next.rings alarm (behind.drop n)
  | list announced element next => fun ts =>
    if ts.length < announced.width then false
    else
      let n := announced.value (ts.take announced.width)
      let behind := ts.drop announced.width
      alarm.sizes n behind.length || sounded element.rest (element.rings alarm) n behind ||
        (repeated element.rest n behind).any (next.rings alarm)

/-- A run of tokens in front of a layout; adjacent runs are one. -/
def skip (n : Nat) : Layout τ → Layout τ
  | done => fixed n done
  | stop => fixed n stop
  | fixed m next => fixed (n + m) next
  | choose m next => fixed n (choose m next)
  | text announced next => fixed n (text announced next)
  | list announced element next => fixed n (list announced element next)

/-- One layout behind another. -/
def andThen : Layout τ → Layout τ → Layout τ
  | done, after => after
  | stop, _ => stop
  | fixed n next, after => skip n (next.andThen after)
  | choose n next, after => choose n (fun ts => (next ts).andThen after)
  | text announced next, after => text announced (next.andThen after)
  | list announced element next, after => list announced element (next.andThen after)

/-- Adjacent runs are one. -/
theorem skip_skip (m n : Nat) (layout : Layout τ) :
    skip m (skip n layout) = skip (m + n) layout := by
  cases layout with
  | fixed k next => simp only [skip, Nat.add_assoc]
  | done => rfl
  | stop => rfl
  | choose k next => rfl
  | text announced next => rfl
  | list announced element next => rfl

/-- Too short for both of two runs: for the first, or for the second behind it. -/
theorem ite_lt_add (length n m : Nat) (x y : α) :
    (if length < n + m then x else y) =
      if length < n then x else if length - n < m then x else y := by
  by_cases short : length < n
  · rw [if_pos short, if_pos (by omega)]
  · by_cases within : length < n + m
    · rw [if_neg short, if_pos within, if_pos (by omega)]
    · rw [if_neg short, if_neg within, if_neg (by omega)]

theorem rest_skip (n : Nat) (layout : Layout τ) (ts : List τ) :
    (skip n layout).rest ts = if ts.length < n then none else layout.rest (ts.drop n) := by
  cases layout with
  | fixed m next =>
    simp only [skip, rest, List.length_drop, List.drop_drop]
    exact ite_lt_add ts.length n m _ _
  | done => rfl
  | stop => rfl
  | choose m next => rfl
  | text announced next => rfl
  | list announced element next => rfl

theorem rings_skip (alarm : Alarm) (n : Nat) (layout : Layout τ) (ts : List τ) :
    (skip n layout).rings alarm ts =
      if ts.length < n then false else layout.rings alarm (ts.drop n) := by
  cases layout with
  | fixed m next =>
    simp only [skip, rings, List.length_drop, List.drop_drop]
    exact ite_lt_add ts.length n m _ _
  | done => rfl
  | stop => rfl
  | choose m next => rfl
  | text announced next => rfl
  | list announced element next => rfl

theorem rest_andThen (layout after : Layout τ) (ts : List τ) :
    (layout.andThen after).rest ts = (layout.rest ts).bind after.rest := by
  induction layout generalizing ts with
  | done => rfl
  | stop => rfl
  | fixed n next ih =>
    simp only [andThen, rest_skip, rest]
    split
    · rfl
    · exact ih _
  | choose n next ih =>
    simp only [andThen, rest]
    split
    · rfl
    · exact ih _ _
  | text announced next ih =>
    simp only [andThen, rest]
    split
    · rfl
    · split
      · rfl
      · exact ih _
  | list announced element next _ ih =>
    simp only [andThen, rest]
    split
    · rfl
    · rw [Option.bind_assoc]
      exact congrArg _ (funext ih)

theorem rings_andThen (alarm : Alarm) (layout after : Layout τ) (ts : List τ) :
    (layout.andThen after).rings alarm ts =
      (layout.rings alarm ts || (layout.rest ts).any (after.rings alarm)) := by
  induction layout generalizing ts with
  | done => rfl
  | stop => rfl
  | fixed n next ih =>
    simp only [andThen, rings_skip, rings, rest]
    split
    · rfl
    · exact ih _
  | choose n next ih =>
    simp only [andThen, rings, rest]
    split
    · rfl
    · exact ih _ _
  | text announced next ih =>
    simp only [andThen, rings, rest]
    split
    · rfl
    · split
      · rw [Bool.or_false, Option.any_none, Bool.or_false]
      · rw [ih, Bool.or_assoc, Bool.or_assoc]
  | list announced element next _ ih =>
    simp only [andThen, rings, rest]
    split
    · rfl
    · cases repeated element.rest (announced.value (ts.take announced.width))
          (ts.drop announced.width) with
      | none => simp
      | some ts => simp [ih, Bool.or_assoc]

/-- No tokens are counted by a prefix, other than in whole elements. -/
def Textless : Layout τ → Prop
  | done => True
  | stop => True
  | fixed _ next => next.Textless
  | choose _ next => ∀ ts, (next ts).Textless
  | text _ _ => False
  | list _ element next => element.Textless ∧ next.Textless

theorem textless_skip (n : Nat) {layout : Layout τ} (textless : layout.Textless) :
    (skip n layout).Textless := by
  cases layout with
  | done => trivial
  | stop => trivial
  | fixed m next => exact textless
  | choose m next => exact textless
  | text announced next => cases textless
  | list announced element next => exact textless

theorem textless_andThen {layout after : Layout τ} (first : layout.Textless)
    (second : after.Textless) : (layout.andThen after).Textless := by
  induction layout with
  | done => exact second
  | stop => trivial
  | fixed n next ih => exact textless_skip n (ih first)
  | choose n next ih => exact fun ts => ih ts (first ts)
  | text announced next ih => cases first
  | list announced element next _ ih => exact ⟨first.1, ih first.2⟩

theorem sounded_eq_false {step : List τ → Option (List τ)} {rings : List τ → Bool}
    (silent : ∀ ts, rings ts = false) (n : Nat) (ts : List τ) : sounded step rings n ts = false := by
  induction n generalizing ts with
  | zero => rfl
  | succ n ih =>
    rw [sounded, silent, Bool.false_or]
    cases step ts with
    | none => rfl
    | some ts => exact ih ts

/-- An alarm that watches only what is taken at once stays silent where nothing is. -/
theorem rings_of_textless {alarm : Alarm} (sizes : ∀ n left, alarm.sizes n left = false)
    {layout : Layout τ} (textless : layout.Textless) (ts : List τ) :
    layout.rings alarm ts = false := by
  induction layout generalizing ts with
  | done => rfl
  | stop => rfl
  | fixed n next ih =>
    simp only [rings]
    split
    · rfl
    · exact ih textless _
  | choose n next ih =>
    simp only [rings]
    split
    · rfl
    · exact ih _ (textless _) _
  | text announced next ih => cases textless
  | list announced element next inner ih =>
    simp only [rings, sizes, sounded_eq_false (inner textless.1), Bool.or_self, Bool.false_or]
    split
    · rfl
    · cases repeated element.rest (announced.value (ts.take announced.width))
          (ts.drop announced.width) with
      | none => rfl
      | some ts => exact ih textless.2 ts

end Layout

/-! ## What a reader does, told from the tokens -/

/-- Events to watch a reader for, and the alarm that foretells them. -/
structure Watch (σ ω : Type) {τ : outParam Type} [Cursor σ τ] where
  alarm : Alarm
  bad : σ → ω → Prop
  steady : ∀ s n e, bad (advance s n) e ↔ bad s e

section
variable {σ τ ε ω α β : Type} [Cursor σ τ] [Truncation ε] [Audit σ τ ω]

/-- A reader goes as far as `rest` says, and logs something bad exactly where `rings` says. -/
structure Tracks (watch : Watch σ ω) (p : Reader σ τ ε ω α) (rest : List τ → Option (List τ))
    (rings : List τ → Bool) : Prop where
  accepts : ∀ s a, (p.run s).value = .ok a → rest (unread s) = some (unread (p.run s).state)
  refuses : ∀ s e, (p.run s).value = .error e → rest (unread s) = none
  bad_iff : ∀ s, (∃ e ∈ (p.run s).log, watch.bad s e) ↔ rings (unread s) = true

/-- A reader of `n` tokens at once, mapped by `f`. -/
structure Takes (p : Reader σ τ ε ω α) (n : Nat) (f : List τ → α) : Prop where
  enough : ∀ s, n ≤ (unread s).length →
    (p.run s).value = .ok (f ((unread s).take n)) ∧ (p.run s).state = advance s n
  short : ∀ s, (unread s).length < n → ∃ e, (p.run s).value = .error e

/-- What a reader of `n` tokens returns. -/
theorem Takes.value {p : Reader σ τ ε ω α} {n : Nat} {f : List τ → α} (takes : Takes p n f) {s : σ}
    {a : α} (success : (p.run s).value = .ok a) : a = f ((unread s).take n) := by
  by_cases short : (unread s).length < n
  · obtain ⟨e, failure⟩ := takes.short s short
    cases success.symm.trans failure
  · exact Except.ok.inj (success.symm.trans (takes.enough s (Nat.le_of_not_lt short)).1)

theorem Takes.map {p : Reader σ τ ε ω α} {n : Nat} {f : List τ → α} (takes : Takes p n f)
    (g : α → β) : Takes (g <$> p) n (fun ts => g (f ts)) := by
  rw [← bind_pure_comp]
  constructor
  · intro s bound
    obtain ⟨value, state⟩ := takes.enough s bound
    rw [Reader.run_bind, Reader.chain_ok value]
    exact ⟨rfl, state⟩
  · intro s missing
    obtain ⟨e, failure⟩ := takes.short s missing
    rw [Reader.run_bind, Reader.chain_error failure]
    exact ⟨e, rfl⟩

section
variable (watch : Watch σ ω) {p : Reader σ τ ε ω α} {k : α → Reader σ τ ε ω β} {s : σ}

/-- Nothing more is logged behind a reader that fails. -/
theorem bad_of_error {e : ε} (failure : (p.run s).value = .error e) :
    (∃ e ∈ ((p >>= k).run s).log, watch.bad s e) ↔ ∃ e ∈ (p.run s).log, watch.bad s e := by
  rw [Reader.run_bind, Reader.chain_error failure]

/-- What is bad behind a reader is bad where that began. -/
theorem bad_of_ok {a : α} (success : (p.run s).value = .ok a) :
    (∃ e ∈ ((p >>= k).run s).log, watch.bad s e) ↔
      (∃ e ∈ (p.run s).log, watch.bad s e) ∨
        ∃ e ∈ ((k a).run (p.run s).state).log, watch.bad (p.run s).state e := by
  obtain ⟨n, _, state⟩ := p.moves s
  have steady : ∀ e, watch.bad (p.run s).state e ↔ watch.bad s e := by
    intro e
    rw [state, watch.steady]
  rw [Reader.run_bind, Reader.chain_ok success]
  constructor
  · intro bad
    obtain ⟨e, member, bad⟩ := bad
    rcases List.mem_append.mp member with before | after
    · exact .inl ⟨e, before, bad⟩
    · exact .inr ⟨e, after, (steady e).mpr bad⟩
  · intro bad
    rcases bad with ⟨e, before, bad⟩ | ⟨e, after, bad⟩
    · exact ⟨e, List.mem_append_left _ before, bad⟩
    · exact ⟨e, List.mem_append_right _ after, (steady e).mp bad⟩

end

/-- A reader that logs nothing bad. -/
class Quiet (watch : Watch σ ω) (p : Reader σ τ ε ω α) : Prop where
  quiet : ∀ s, ∀ e ∈ (p.run s).log, ¬ watch.bad s e

theorem Quiet.iff_false {watch : Watch σ ω} {p : Reader σ τ ε ω α} (silent : Quiet watch p)
    (s : σ) :
    (∃ e ∈ (p.run s).log, watch.bad s e) ↔ False := by
  refine ⟨?_, False.elim⟩
  intro bad
  obtain ⟨e, member, bad⟩ := bad
  exact silent.quiet s e member bad

namespace Tracks
variable {watch : Watch σ ω} {p : Reader σ τ ε ω α} {k : α → Reader σ τ ε ω β} {n : Nat}
  {f : List τ → α}

theorem congr {rest rest' : List τ → Option (List τ)} {rings rings' : List τ → Bool}
    (tracks : Tracks watch p rest rings) (same : ∀ ts, rest ts = rest' ts)
    (same' : ∀ ts, rings ts = rings' ts) : Tracks watch p rest' rings' := by
  cases funext same
  cases funext same'
  exact tracks

theorem pure (a : α) : Tracks watch (Pure.pure a : Reader σ τ ε ω α) some (fun _ => false) where
  accepts _ _ _ := rfl
  refuses _ _ failure := by cases failure
  bad_iff _ := by simp

theorem stopped (e : ε) :
    Tracks watch ((Reader.throw e : Reader σ τ ε ω α) >>= k) (fun _ => none) (fun _ => false) where
  accepts _ _ success := by cases success
  refuses _ _ _ := rfl
  bad_iff s := by
    rw [bad_of_error watch (e := e) rfl]
    simp [Reader.throw]

theorem bind {rest next : List τ → Option (List τ)} {rings sounds : List τ → Bool}
    (first : Tracks watch p rest rings) (second : ∀ a, Tracks watch (k a) next sounds) :
    Tracks watch (p >>= k) (fun ts => (rest ts).bind next)
      (fun ts => rings ts || (rest ts).any sounds) := by
  constructor
  · intro s b success
    rw [Reader.run_bind] at success ⊢
    cases result : (p.run s).value with
    | error e =>
      rw [Reader.chain_error result] at success
      cases success
    | ok a =>
      rw [Reader.chain_ok result] at success ⊢
      rw [first.accepts s a result]
      exact (second a).accepts _ b success
  · intro s e failure
    rw [Reader.run_bind] at failure
    cases result : (p.run s).value with
    | error e =>
      rw [first.refuses s e result]
      rfl
    | ok a =>
      rw [Reader.chain_ok result] at failure
      rw [first.accepts s a result]
      exact (second a).refuses _ e failure
  · intro s
    rw [Bool.or_eq_true, ← first.bad_iff]
    cases result : (p.run s).value with
    | error e =>
      rw [bad_of_error watch result, first.refuses s e result]
      simp
    | ok a =>
      rw [bad_of_ok watch result, first.accepts s a result, Option.any_some, ← (second a).bad_iff]

theorem map {rest : List τ → Option (List τ)} {rings : List τ → Bool}
    (tracks : Tracks watch p rest rings) (g : α → β) : Tracks watch (g <$> p) rest rings := by
  rw [← bind_pure_comp]
  refine (tracks.bind fun a => pure (g a)).congr ?_ ?_
  · intro ts
    cases rest ts <;> rfl
  · intro ts
    cases rest ts <;> simp

theorem note {event : σ → ω} {sound} {b : Nat → Bool}
    (rings : ∀ s, watch.bad s (event s) ↔ b (unread s).length = true) :
    Tracks watch (Reader.note event sound : Reader σ τ ε ω Unit) some (fun ts => b ts.length) where
  accepts _ _ _ := rfl
  refuses _ _ failure := by cases failure
  bad_iff s := by simp [Reader.note, rings]

/-- Taking `n` tokens at once. -/
theorem take (takes : Takes p n f) {b : List τ → Bool}
    (rings : ∀ s, (∃ e ∈ (p.run s).log, watch.bad s e) ↔ b (unread s) = true) :
    Tracks watch p (fun ts => if ts.length < n then none else some (ts.drop n)) b := by
  refine ⟨?_, ?_, rings⟩
  · intro s a success
    by_cases short : (unread s).length < n
    · obtain ⟨e, failure⟩ := takes.short s short
      cases success.symm.trans failure
    · rw [if_neg short, (takes.enough s (Nat.le_of_not_lt short)).2, Cursor.unread_advance]
  · intro s e failure
    by_cases short : (unread s).length < n
    · rw [if_pos short]
    · cases (takes.enough s (Nat.le_of_not_lt short)).1.symm.trans failure

theorem takeQuiet (takes : Takes p n f) [silent : Quiet watch p] :
    Tracks watch p (fun ts => if ts.length < n then none else some (ts.drop n)) (fun _ => false) := by
  apply take takes
  intro s
  rw [silent.iff_false]
  simp

/-- Taking `n` tokens at once, and what they select. -/
theorem choose (takes : Takes p n f) [silent : Quiet watch p] {rest : α → List τ → Option (List τ)}
    {rings : α → List τ → Bool} (second : ∀ a, Tracks watch (k a) (rest a) (rings a)) :
    Tracks watch (p >>= k)
      (fun ts => if ts.length < n then none else rest (f (ts.take n)) (ts.drop n))
      (fun ts => if ts.length < n then false else rings (f (ts.take n)) (ts.drop n)) := by
  constructor
  · intro s b success
    rw [Reader.run_bind] at success ⊢
    by_cases short : (unread s).length < n
    · obtain ⟨e, failure⟩ := takes.short s short
      rw [Reader.chain_error failure] at success
      cases success
    · obtain ⟨value, state⟩ := takes.enough s (Nat.le_of_not_lt short)
      rw [Reader.chain_ok value, state] at success ⊢
      rw [if_neg short, ← Cursor.unread_advance]
      exact (second _).accepts _ b success
  · intro s e failure
    rw [Reader.run_bind] at failure
    by_cases short : (unread s).length < n
    · rw [if_pos short]
    · obtain ⟨value, state⟩ := takes.enough s (Nat.le_of_not_lt short)
      rw [Reader.chain_ok value, state] at failure
      rw [if_neg short, ← Cursor.unread_advance]
      exact (second _).refuses _ e failure
  · intro s
    by_cases short : (unread s).length < n
    · obtain ⟨e, failure⟩ := takes.short s short
      rw [bad_of_error watch failure, silent.iff_false, if_pos short]
      simp
    · obtain ⟨value, state⟩ := takes.enough s (Nat.le_of_not_lt short)
      rw [bad_of_ok watch value, silent.iff_false, false_or, state, if_neg short,
        ← Cursor.unread_advance, (second _).bad_iff]

theorem times {rest : List τ → Option (List τ)} {rings : List τ → Bool}
    (tracks : Tracks watch p rest rings) (n : Nat) :
    Tracks watch (p.times n) (repeated rest n) (sounded rest rings n) := by
  induction n with
  | zero => exact pure []
  | succ n ih =>
    have tail : ∀ a, Tracks watch (p.times n >>= fun as => Pure.pure (a :: as)) (repeated rest n)
        (sounded rest rings n) := by
      intro a
      have consed := ih.map (fun as => a :: as)
      rwa [← bind_pure_comp] at consed
    exact tracks.bind tail

end Tracks

/-- A reader that goes along a layout. -/
class Follows (watch : Watch σ ω) (p : Reader σ τ ε ω α) (layout : outParam (Layout τ)) : Prop where
  tracks : Tracks watch p layout.rest (layout.rings watch.alarm)

namespace Follows
variable {watch : Watch σ ω} {p : Reader σ τ ε ω α} {k : α → Reader σ τ ε ω β}
  {layout after : Layout τ} {n : Nat} {f : List τ → α}

/-- Something bad is logged exactly where the alarm rings along the layout. -/
theorem bad_iff (follows : Follows watch p layout) (s : σ) :
    (∃ e ∈ (p.run s).log, watch.bad s e) ↔ layout.rings watch.alarm (unread s) = true :=
  follows.tracks.bad_iff s

/-- A reader along a run of tokens logs nothing bad. -/
theorem quiet (follows : Follows watch p (.fixed n .done)) : Quiet watch p := by
  refine ⟨fun s e member bad => ?_⟩
  have rings := (follows.bad_iff s).mp ⟨e, member, bad⟩
  simp [Layout.rings] at rings

instance pure (a : α) : Follows watch (Pure.pure a : Reader σ τ ε ω α) .done := ⟨.pure a⟩

theorem stopped (e : ε) : Follows watch ((Reader.throw e : Reader σ τ ε ω α) >>= k) .stop :=
  ⟨.stopped e⟩

/-- Reading a field and then the rest. -/
theorem next [first : Follows watch p layout] (second : ∀ a, Follows watch (k a) after) :
    Follows watch (p >>= k) (layout.andThen after) := by
  refine ⟨(first.tracks.bind fun a => (second a).tracks).congr ?_ ?_⟩
  · intro ts
    exact (layout.rest_andThen after ts).symm
  · intro ts
    exact (layout.rings_andThen watch.alarm after ts).symm

instance map [follows : Follows watch p layout] (g : α → β) : Follows watch (g <$> p) layout :=
  ⟨follows.tracks.map g⟩

theorem fixed (takes : Takes p n f) [Quiet watch p] : Follows watch p (.fixed n .done) := by
  refine ⟨(Tracks.takeQuiet takes).congr (fun _ => rfl) ?_⟩
  intro ts
  exact (ite_self false).symm

theorem choose (takes : Takes p n f) [Quiet watch p] {next : α → Layout τ}
    (second : ∀ a, Follows watch (k a) (next a)) :
    Follows watch (p >>= k) (.choose n fun ts => next (f ts)) :=
  ⟨.choose takes fun a => (second a).tracks⟩

section
variable {announced : Announced τ} {value : α → Nat} {event : Nat → σ → ω}
  (sound : ∀ n s, Audit.Sound s (event n s))

/-- A prefix that sizes a container, and the tokens it counts. -/
theorem text {take : Nat → Reader σ τ ε ω β} {g : Nat → List τ → β}
    (takes : Takes p announced.width f) [Quiet watch p] (reads : ∀ n, Takes (take n) n (g n))
    (means : ∀ ts, announced.value ts = value (f ts))
    (sizes : ∀ n s, watch.bad s (event n s) ↔ watch.alarm.sizes n (unread s).length = true)
    (counted : ∀ n s, (∃ e ∈ ((take n).run s).log, watch.bad s e) ↔
      (if (unread s).length < n then false else watch.alarm.takes n (unread s).length) = true) :
    Follows watch (p >>= fun a => Reader.note (event (value a)) (sound (value a)) >>= fun _ =>
      take (value a)) (.text announced .done) := by
  have taken : ∀ n, Tracks watch (take n)
      (fun ts => if ts.length < n then none else some (ts.drop n))
      (fun ts => if ts.length < n then false else watch.alarm.takes n ts.length) :=
    fun n => .take (reads n) (counted n)
  have behind : ∀ a, Tracks watch (Reader.note (event (value a)) (sound (value a)) >>= fun _ =>
      take (value a)) _ _ := fun a => (Tracks.note (sizes (value a))).bind fun _ => taken (value a)
  refine ⟨(Tracks.choose takes behind).congr ?_ ?_⟩
  · intro ts
    simp [Layout.rest, means]
  · intro ts
    simp [Layout.rings, means]

/-- A prefix that sizes a container, and as many elements. -/
theorem list {q : Reader σ τ ε ω β} [element : Follows watch q layout]
    (takes : Takes p announced.width f) [Quiet watch p]
    (means : ∀ ts, announced.value ts = value (f ts))
    (sizes : ∀ n s, watch.bad s (event n s) ↔ watch.alarm.sizes n (unread s).length = true) :
    Follows watch (p >>= fun a => Reader.note (event (value a)) (sound (value a)) >>= fun _ =>
      q.times (value a)) (.list announced layout .done) := by
  have behind : ∀ a, Tracks watch (Reader.note (event (value a)) (sound (value a)) >>= fun _ =>
      q.times (value a)) _ _ :=
    fun a => (Tracks.note (sizes (value a))).bind fun _ => element.tracks.times (value a)
  refine ⟨(Tracks.choose takes behind).congr ?_ ?_⟩
  · intro ts
    simp [Layout.rest, means]
  · intro ts
    simp [Layout.rings, means]

end

end Follows

end

end Wire
