/-! First in, first out: what is put in goes behind what waits, what is taken comes off
its front. Steps that pass tokens on in this way compose to runs that do. -/
namespace Wire

variable {σ τ ι : Type}

/-- A step that puts tokens in behind those waiting and takes some off the front. -/
def Passes (waiting put taken left : List τ) : Prop := waiting ++ put = taken ++ left

namespace Passes

theorem idle (waiting : List τ) : Passes waiting [] [] waiting := List.append_nil waiting

theorem put (waiting tokens : List τ) : Passes waiting tokens [] (waiting ++ tokens) := rfl

theorem take {waiting taken left : List τ} (split : waiting = taken ++ left) :
    Passes waiting [] taken left := (List.append_nil waiting).trans split

theorem trans {a b c put put' taken taken' : List τ} (first : Passes a put taken b)
    (second : Passes b put' taken' c) : Passes a (put ++ put') (taken ++ taken') c := by
  unfold Passes at first second ⊢
  rw [← List.append_assoc, first, List.append_assoc, second, List.append_assoc]

end Passes

/-- What a run of a machine takes out, step by step. -/
def takenBy (step : σ → ι → σ) (taken : σ → ι → List τ) : σ → List ι → List τ
  | _, [] => []
  | s, op :: ops => taken s op ++ takenBy step taken (step s op) ops

/-- A machine whose every step passes tokens on does so over whole runs. -/
theorem passes_run {step : σ → ι → σ} {waiting : σ → List τ} {put : ι → List τ}
    {taken : σ → ι → List τ}
    (each : ∀ s op, Passes (waiting s) (put op) (taken s op) (waiting (step s op)))
    (s : σ) (ops : List ι) :
    Passes (waiting s) (ops.flatMap put) (takenBy step taken s ops) (waiting (ops.foldl step s)) := by
  induction ops generalizing s with
  | nil => exact .idle (waiting s)
  | cons op ops ih => exact (each s op).trans (ih (step s op))

end Wire
