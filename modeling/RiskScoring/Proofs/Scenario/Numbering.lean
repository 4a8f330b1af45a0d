import Mathlib.Data.List.Nodup
import RiskScoring.Proofs.Scenario.Commit

/-!
# Numbers from one on

Versions and ranks are given out in the same way: the next one comes after the greatest that is
there. So they are the numbers from one on, as long as a word holds them, and sorting by them gives
the order in which they were given out.

* `Consecutive`: some words are the numbers from one on.
* `Consecutive.greatest_toNat`, `Consecutive.concat`: the greatest of them, and the next one.
* `Consecutive.mergeSort_of_perm`: sorting brings them back into order.
-/

namespace RiskScoring

/-- The words are the numbers from one on. -/
def Consecutive (words : List UInt32) : Prop :=
  words.map UInt32.toNat = List.range' 1 words.length

namespace Consecutive

variable {words : List UInt32}

theorem nil : Consecutive [] := rfl

theorem bounds (consecutive : Consecutive words) {word : UInt32} (listed : word ∈ words) :
    1 ≤ word.toNat ∧ word.toNat ≤ words.length := by
  have isNumber : word.toNat ∈ words.map UInt32.toNat := List.mem_map_of_mem listed
  rw [consecutive, List.mem_range'_1] at isNumber
  omega

/-- The greatest of them says how many there are. -/
theorem greatest_toNat (consecutive : Consecutive words) :
    (greatest words).toNat = words.length := by
  have upper : ∀ word ∈ words, word ≤ greatest words := greatest_le_iff.mp (UInt32.le_refl _)
  cases words with
  | nil => rfl
  | cons first rest =>
    -- The word that is the length is there, and no other is above it.
    have isNumber : (first :: rest).length ∈ (first :: rest).map UInt32.toNat := by
      rw [consecutive, List.mem_range'_1, List.length_cons]
      omega
    obtain ⟨last, listed, isLength⟩ := List.mem_map.mp isNumber
    have lower : greatest (first :: rest) ≤ last := by
      refine greatest_le_iff.mpr fun word isWord => ?_
      rw [UInt32.le_iff_toNat_le, isLength]
      exact (consecutive.bounds isWord).2
    rw [UInt32.le_antisymm lower (upper last listed), isLength]

/-- The next one, as long as a word holds it. -/
theorem concat (consecutive : Consecutive words) (inBounds : words.length + 1 < UInt32.size) :
    Consecutive (words ++ [greatest words + 1]) := by
  have next : (greatest words + 1).toNat = words.length + 1 := by
    rw [UInt32.toNat_add, consecutive.greatest_toNat]
    exact Nat.mod_eq_of_lt inBounds
  rw [Consecutive, List.map_append, consecutive, List.map_singleton, next, List.length_append,
    List.length_singleton, List.range'_1_concat, Nat.add_comm 1]

/-- The next one, if none of them is the greatest word. -/
theorem concat_of_below (consecutive : Consecutive words)
    (below : ∀ word ∈ words, word.toNat < UInt32.size - 1) :
    Consecutive (words ++ [greatest words + 1]) := by
  have inBounds : greatest words ≤ 4294967294 := by
    refine greatest_le_iff.mpr fun word listed => UInt32.le_iff_toNat_le.mpr ?_
    exact Nat.le_pred_of_lt (below word listed)
  refine consecutive.concat ?_
  rw [← consecutive.greatest_toNat]
  exact Nat.succ_lt_succ (Nat.lt_succ_of_le (UInt32.le_iff_toNat_le.mp inBounds))

theorem increasing (consecutive : Consecutive words) : words.Pairwise (· < ·) := by
  have numbers : (words.map UInt32.toNat).Pairwise (· < ·) := by
    rw [consecutive]
    exact List.pairwise_lt_range'
  exact (List.pairwise_map.mp numbers).imp UInt32.lt_iff_toNat_lt.mpr

variable {α : Type} {number : α → UInt32} {list listed : List α}

theorem sorted (consecutive : Consecutive (list.map number)) :
    list.Pairwise fun x y => decide (number x ≤ number y) = true :=
  (List.pairwise_map.mp consecutive.increasing).imp fun lower =>
    decide_eq_true (UInt32.le_of_lt lower)

/-- What is numbered in order is sorted. -/
theorem mergeSort_eq (consecutive : Consecutive (list.map number)) :
    (list.mergeSort fun x y => decide (number x ≤ number y)) = list :=
  List.mergeSort_of_pairwise consecutive.sorted

/-- Sorting by number brings everything back into order. -/
theorem mergeSort_of_perm (consecutive : Consecutive (list.map number)) (same : listed.Perm list) :
    (listed.mergeSort fun x y => decide (number x ≤ number y)) = list := by
  have distinct : ∀ x ∈ list, ∀ y ∈ list, number x = number y → x = y := by
    have nodup : (list.map number).Nodup :=
      consecutive.increasing.imp fun lower => UInt32.ne_of_lt lower
    exact fun x isX y isY => List.inj_on_of_nodup_map nodup isX isY
  have permuted := (List.mergeSort_perm listed fun x y => decide (number x ≤ number y)).trans same
  have inOrder : (listed.mergeSort fun x y => decide (number x ≤ number y)).Pairwise
      fun x y => decide (number x ≤ number y) = true := by
    refine List.pairwise_mergeSort ?_ ?_ listed
    · intro x y z first second
      exact decide_eq_true
        (UInt32.le_trans (of_decide_eq_true first) (of_decide_eq_true second))
    · intro x y
      rcases UInt32.le_total (number x) (number y) with lower | upper
      · simp [lower]
      · simp [upper]
  refine permuted.eq_of_pairwise ?_ inOrder consecutive.sorted
  intro x y isX isY lower upper
  exact distinct x (permuted.mem_iff.mp isX) y isY
    (UInt32.le_antisymm (of_decide_eq_true lower) (of_decide_eq_true upper))

end Consecutive

end RiskScoring
