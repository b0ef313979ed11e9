import FinProto.Wire.Inverse

/-! Ledgers: what a run logs on its way from one state to another. Accounts add up along a
reader, so that a ledger kept by the smallest readers is kept by all that are made of them,
where they accept and where they stop. -/
namespace Wire

/-- An account of events between two states, which holds of no events and adds up. -/
structure Ledger (σ ω : Type) where
  Accounts : σ → List ω → σ → Prop
  still : ∀ s, Accounts s [] s
  onward : ∀ {s middle t front back}, Accounts s front middle → Accounts middle back t →
    Accounts s (front ++ back) t

section
variable {σ τ ε ω α β : Type} [Cursor σ τ] [Truncation ε] [Audit σ τ ω] {ledger : Ledger σ ω}

/-- A reader all of whose runs the ledger accounts for. -/
class Accounted (ledger : Ledger σ ω) (p : Reader σ τ ε ω α) : Prop where
  accounts : ∀ s, ledger.Accounts s (p.run s).log (p.run s).state

namespace Accounted
variable {p : Reader σ τ ε ω α} {k : α → Reader σ τ ε ω β}

theorem pure (a : α) : Accounted ledger (Pure.pure a : Reader σ τ ε ω α) where
  accounts := ledger.still

theorem stopped (e : ε) : Accounted ledger ((Reader.throw e : Reader σ τ ε ω α) >>= k) where
  accounts := ledger.still

/-- Reading a field and then the rest. -/
theorem next [first : Accounted ledger p] (second : ∀ a, Accounted ledger (k a)) :
    Accounted ledger (p >>= k) where
  accounts s := by
    rw [Reader.run_bind]
    cases result : (p.run s).value with
    | error e =>
      rw [Reader.chain_error result]
      exact first.accounts s
    | ok a =>
      rw [Reader.chain_ok result]
      exact ledger.onward (first.accounts s) ((second a).accounts _)

instance map [Accounted ledger p] (g : α → β) : Accounted ledger (g <$> p) := by
  rw [← bind_pure_comp]
  exact next fun a => pure (g a)

theorem note {event : σ → ω} {sound} (booked : ∀ s, ledger.Accounts s [event s] s) :
    Accounted ledger (Reader.note (ε := ε) event sound) where
  accounts := booked

theorem times [Accounted ledger p] (n : Nat) : Accounted ledger (p.times n) := by
  induction n with
  | zero => exact pure []
  | succ n ih => exact next fun a => next fun as => pure (a :: as)

/-- Tokens taken at once: the ledger accounts for the reader that takes them, and nothing is
logged where they are missing. -/
theorem window {run : σ → Outcome σ ε ω α} {n : Nat} {f : List τ → α} {enough short audited}
    (taken : ∀ s, n ≤ (unread s).length → ledger.Accounts s (run s).log (advance s n))
    (missing : ∀ s, (unread s).length < n → (run s).log = []) :
    Accounted ledger (Reader.window run n f enough short audited) where
  accounts s := by
    change ledger.Accounts s (run s).log (run s).state
    by_cases room : n ≤ (unread s).length
    · rw [(enough s room).2]
      exact taken s room
    · have gone := Nat.lt_of_not_le room
      rw [(short s gone).2, missing s gone]
      exact ledger.still s

end Accounted

end

end Wire
