import Mathlib.Data.List.Basic

/-! Bit vectors of whole bytes as little-endian byte lists, and the loop that
rebuilds a vector by or-ing shifted bytes together. -/
namespace Wire

variable {n : Nat}

/-- Byte `i` of a vector, least significant first. -/
def byteAt (v : BitVec (8 * n)) (i : Nat) : UInt8 :=
  ⟨v.extractLsb' (8 * i) 8⟩

def toBytes (v : BitVec (8 * n)) : List UInt8 :=
  (List.range n).map (byteAt v)

/-- Byte `i` of a list, placed at its offset in the vector. -/
def placed (n : Nat) (bytes : List UInt8) (i : Nat) : BitVec (8 * n) :=
  (bytes.getD i 0).toBitVec.setWidth (8 * n) <<< (8 * i)

def ofBytes (n : Nat) (bytes : List UInt8) : BitVec (8 * n) :=
  (List.range n).foldl (fun v i => v ||| placed n bytes i) 0

@[simp] theorem length_toBytes (v : BitVec (8 * n)) : (toBytes v).length = n := by
  simp [toBytes]

theorem getLsbD_placed (bytes : List UInt8) (i : Nat) {j : Nat} (bound : j < 8 * n) :
    (placed n bytes i).getLsbD j =
      (decide (j / 8 = i) && (bytes.getD i 0).toBitVec.getLsbD (j % 8)) := by
  simp only [placed, BitVec.getLsbD_shiftLeft, BitVec.getLsbD_setWidth, bound, decide_true,
    Bool.true_and]
  by_cases same : j / 8 = i
  · have after : ¬ j < 8 * i := by omega
    have index : j - 8 * i = j % 8 := by omega
    have fits : j % 8 < 8 * n := by omega
    simp [same, after, index, fits]
  · rcases Nat.lt_or_gt_of_ne same with before | after
    · have early : j < 8 * i := by omega
      simp [same, early]
    · have late : 8 ≤ j - 8 * i := by omega
      have none : (bytes.getD i 0).toBitVec.getLsbD (j - 8 * i) = false :=
        BitVec.getLsbD_of_ge _ _ late
      simp only [none, same, decide_false, Bool.false_and, Bool.and_false]

theorem getLsbD_foldl_placed (bytes : List UInt8) (k : Nat) {j : Nat} (bound : j < 8 * n) :
    ((List.range k).foldl (fun v i => v ||| placed n bytes i) 0).getLsbD j =
      (decide (j / 8 < k) && (bytes.getD (j / 8) 0).toBitVec.getLsbD (j % 8)) := by
  induction k with
  | zero => simp
  | succ k ih =>
    rw [List.range_succ, List.foldl_append, List.foldl_cons, List.foldl_nil, BitVec.getLsbD_or,
      ih, getLsbD_placed bytes k bound]
    by_cases same : j / 8 = k
    · simp [same]
    · have shift : j / 8 < k + 1 ↔ j / 8 < k := by omega
      simp [same, shift]

theorem getLsbD_ofBytes (bytes : List UInt8) {j : Nat} (bound : j < 8 * n) :
    (ofBytes n bytes).getLsbD j = (bytes.getD (j / 8) 0).toBitVec.getLsbD (j % 8) := by
  have inside : j / 8 < n := by omega
  rw [ofBytes, getLsbD_foldl_placed bytes n bound]
  simp [inside]

theorem getD_toBytes (v : BitVec (8 * n)) {i : Nat} (bound : i < n) :
    (toBytes v).getD i 0 = byteAt v i := by
  simp [toBytes, List.getD_eq_getElem?_getD, bound]

theorem ofBytes_toBytes (v : BitVec (8 * n)) : ofBytes n (toBytes v) = v := by
  apply BitVec.eq_of_getLsbD_eq
  intro j bound
  have inside : j / 8 < n := by omega
  have small : j % 8 < 8 := by omega
  have index : 8 * (j / 8) + j % 8 = j := by omega
  rw [getLsbD_ofBytes _ bound, getD_toBytes v inside]
  simp [byteAt, small, index]

theorem toBytes_ofBytes {bytes : List UInt8} (width : bytes.length = n) :
    toBytes (ofBytes n bytes) = bytes := by
  apply List.ext_getElem
  · simp [width]
  · intro i bound bound'
    simp only [toBytes, List.getElem_map, List.getElem_range]
    apply UInt8.eq_of_toBitVec_eq
    apply BitVec.eq_of_getLsbD_eq
    intro j small
    have inside : 8 * i + j < 8 * n := by omega
    have quotient : (8 * i + j) / 8 = i := by omega
    have remainder : (8 * i + j) % 8 = j := by omega
    simp [byteAt, small, getLsbD_ofBytes _ inside, quotient, remainder,
      List.getD_eq_getElem?_getD, bound']

/-- A loop that combines the bytes one by one in any way that agrees with
or-ing the placed byte computes the same vector. -/
theorem foldl_eq_ofBytes (bytes : List UInt8) {step : BitVec (8 * n) → Nat → BitVec (8 * n)}
    (agrees : ∀ v i, i < n → step v i = v ||| placed n bytes i) :
    (List.range n).foldl step 0 = ofBytes n bytes := by
  apply List.foldl_ext
  intro v i member
  exact agrees v i (List.mem_range.mp member)

/-- The loop may also take the places from the last down to the first. -/
theorem foldl_down_eq_ofBytes (bytes : List UInt8) {step : BitVec (8 * n) → Nat → BitVec (8 * n)}
    (agrees : ∀ v i, i < n → step v i = v ||| placed n bytes (n - 1 - i)) :
    (List.range n).foldl step 0 = ofBytes n bytes := by
  have mirrored : (List.range n).map (fun i => n - 1 - i) = (List.range n).reverse := by
    apply List.ext_getElem
    · simp
    · intro i bound _
      simp
  have commute : ∀ a ∈ List.range n, ∀ b ∈ List.range n, ∀ v : BitVec (8 * n),
      v ||| placed n bytes a ||| placed n bytes b = v ||| placed n bytes b ||| placed n bytes a := by
    intro a _ b _ v
    rw [BitVec.or_assoc, BitVec.or_comm (placed n bytes a), BitVec.or_assoc]
  calc (List.range n).foldl step 0
      = (List.range n).foldl (fun v i => v ||| placed n bytes (n - 1 - i)) 0 := by
        apply List.foldl_ext
        intro v i member
        exact agrees v i (List.mem_range.mp member)
    _ = ((List.range n).map (fun i => n - 1 - i)).foldl (fun v i => v ||| placed n bytes i) 0 := by
        rw [List.foldl_map]
    _ = ofBytes n bytes := by
        rw [mirrored]
        exact ((List.reverse_perm _).symm.foldl_eq' commute 0).symm

end Wire
