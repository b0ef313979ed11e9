/-! Comparisons that need not be reflexive. Such a comparison compares keys, and only
between members of a domain: outside it nothing equals anything, not even itself. -/
namespace Wire

/-- `same` is equality of keys on the domain, and false off it. -/
def Compares (same : α → α → Bool) (domain : α → Prop) (key : α → β) : Prop :=
  ∀ a b, same a b = true ↔ domain a ∧ domain b ∧ key a = key b

namespace Compares
variable {same : α → α → Bool} {domain : α → Prop} {key : α → β}

/-- Reflexive exactly on the domain. -/
theorem self_iff (compares : Compares same domain key) (a : α) : same a a = true ↔ domain a := by
  rw [compares a a]
  simp

theorem symm (compares : Compares same domain key) (a b : α) : same a b = same b a := by
  rw [Bool.eq_iff_iff, compares a b, compares b a]
  constructor
  · intro alike
    obtain ⟨left, right, keys⟩ := alike
    exact ⟨right, left, keys.symm⟩
  · intro alike
    obtain ⟨left, right, keys⟩ := alike
    exact ⟨right, left, keys.symm⟩

theorem trans (compares : Compares same domain key) {a b c : α} (first : same a b = true)
    (second : same b c = true) : same a c = true := by
  obtain ⟨left, _, keys⟩ := (compares a b).mp first
  obtain ⟨_, right, keys'⟩ := (compares b c).mp second
  exact (compares a c).mpr ⟨left, right, keys.trans keys'⟩

/-- An equality test compares everything by itself. -/
theorem ofLawful (lawful : ∀ a b, same a b = true ↔ a = b) :
    Compares same (fun _ => True) (fun a => a) := by
  intro a b
  simp [lawful a b]

/-- Lists are compared element by element. -/
theorem list [BEq α] (compares : Compares (fun a b : α => a == b) domain key) (as bs : List α) :
    (as == bs) = true ↔ (∀ a ∈ as, domain a) ∧ (∀ b ∈ bs, domain b) ∧ as.map key = bs.map key := by
  induction as generalizing bs with
  | nil =>
    cases bs with
    | nil => simp
    | cons b bs => simp
  | cons a as ih =>
    cases bs with
    | nil => simp
    | cons b bs =>
      have head : (a == b) = true ↔ domain a ∧ domain b ∧ key a = key b := compares a b
      rw [List.cons_beq_cons, Bool.and_eq_true, head, ih]
      simp only [List.mem_cons, forall_eq_or_imp, List.map_cons, List.cons.injEq]
      grind

end Compares

end Wire
