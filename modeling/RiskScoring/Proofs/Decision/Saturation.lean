import Mathlib.Data.List.Forall2
import Mathlib.Algebra.BigOperators.Group.List.Basic
import Mathlib.Algebra.Ring.Int.Defs
import RiskScoring.Decision.Basic

/-!
# Points added up within a word

A score is added up rule by rule, and a sum that passes an end of the range of a word is that end.
What is added later starts from there, so the order can matter.

* `Score.running`: points added up in order, each sum kept within a word.
* `toInt_totalScore`: the score of executions is the running score of their contributions.
* `Score.running_mono`: more points never make less of a score.
* `Score.running_of_steady`: the running score is the sum, clamped once, if no partial sum is
  further beyond an end of the range than the sum is.
* `Score.OrderFree`: points whose sum stays within a word in every order, or is of one sign.
* `Score.running_of_parts`: points of which one part comes first, and so the two orders that differ
  most, `Score.running_of_gainsFirst` and `Score.running_of_lossesFirst`.
* `Score.clamp_ne_of_not_orderFree`: they do differ when the points are not free of the order.
-/

namespace RiskScoring

namespace Score

/-- The least score of a word. -/
def least : Int := -0x8000000000000000

/-- The greatest score of a word. -/
def greatest : Int := 0x7fffffffffffffff

/-- The score of a word that is nearest to a number. -/
def clamp (x : Int) : Int := max least (min x greatest)

/-- Points added up in order, where a sum that passes an end of the range is that end. -/
def running (start : Int) (points : List Int) : Int :=
  points.foldl (fun score more => clamp (score + more)) start

@[simp] theorem running_nil (start : Int) : running start [] = start := rfl

theorem running_cons (start more : Int) (points : List Int) :
    running start (more :: points) = running (clamp (start + more)) points := rfl

theorem clamp_mono {x y : Int} (less : x ≤ y) : clamp x ≤ clamp y := by
  unfold clamp
  omega

theorem least_le_clamp (x : Int) : least ≤ clamp x := by
  unfold clamp
  omega

theorem clamp_le_greatest (x : Int) : clamp x ≤ greatest := by
  unfold clamp least greatest
  omega

end Score

/-! ## Words -/

theorem toInt_addScores (x y : Int64) :
    (addScores x y).toInt = Score.clamp (x.toInt + y.toInt) :=
  Int64.toInt_ofInt_of_le (Score.least_le_clamp (x.toInt + y.toInt))
    (Int.lt_add_one_of_le (Score.clamp_le_greatest (x.toInt + y.toInt)))

theorem toInt_foldl_addScores (executions : List RuleExecution) (start : Int64) :
    (executions.foldl (fun score execution => addScores score execution.contribution) start).toInt =
      Score.running start.toInt (executions.map fun execution => execution.contribution.toInt) := by
  induction executions generalizing start with
  | nil => rfl
  | cons execution rest ih =>
    rw [List.foldl_cons, ih, toInt_addScores, List.map_cons, Score.running_cons]

/-- The score of executions is what their contributions add up to in order. -/
theorem toInt_totalScore (executions : List RuleExecution) :
    (totalScore executions).toInt =
      Score.running 0 (executions.map fun execution => execution.contribution.toInt) := by
  rw [totalScore, toInt_foldl_addScores, Int64.toInt_zero]

namespace Score

variable {points others : List Int} {start other : Int}

/-! ## More points -/

/-- More points, added to a greater score, never make less of it. -/
theorem running_mono (less : start ≤ other) (each : List.Forall₂ (· ≤ ·) points others) :
    running start points ≤ running other others := by
  induction each generalizing start other with
  | nil => exact less
  | cons more _ ih => exact ih (clamp_mono (Int.add_le_add less more))

/-! ## Points that pass no end for a while only -/

/-- No partial sum is further beyond an end of the range than the sum is. -/
structure Steady (start : Int) (points : List Int) : Prop where
  above (count : Nat) : start + (points.take count).sum ≤ max greatest (start + points.sum)
  below (count : Nat) : min least (start + points.sum) ≤ start + (points.take count).sum

theorem running_mem_range (lower : least ≤ start) (upper : start ≤ greatest) (points : List Int) :
    least ≤ running start points ∧ running start points ≤ greatest := by
  induction points generalizing start with
  | nil => exact ⟨lower, upper⟩
  | cons more rest ih => exact ih (least_le_clamp _) (clamp_le_greatest _)

/-- When no partial sum is above `top`, the score falls behind the sum by what `top` is beyond the
range at most. -/
theorem le_running {top : Int} (near : greatest - top ≤ start)
    (above : ∀ count : Nat, (points.take count).sum ≤ top) :
    greatest - top + points.sum ≤ running start points := by
  induction points generalizing start top with
  | nil => simpa using near
  | cons more rest ih =>
    have first : more ≤ top := by simpa using above 1
    have later (count : Nat) : (rest.take count).sum ≤ top - more := by
      have shifted := above (count + 1)
      rw [List.take_succ_cons, List.sum_cons] at shifted
      omega
    have nearer : greatest - (top - more) ≤ clamp (start + more) := by
      unfold clamp
      omega
    have ends := ih nearer later
    rw [List.sum_cons, running_cons]
    omega

/-- When no partial sum is below `bottom`, the score is ahead of the sum by what `bottom` is beyond
the range at most. -/
theorem running_le {bottom : Int} (near : start ≤ least - bottom)
    (below : ∀ count : Nat, bottom ≤ (points.take count).sum) :
    running start points ≤ least - bottom + points.sum := by
  induction points generalizing start bottom with
  | nil => simpa using near
  | cons more rest ih =>
    have first : bottom ≤ more := by simpa using below 1
    have later (count : Nat) : bottom - more ≤ (rest.take count).sum := by
      have shifted := below (count + 1)
      rw [List.take_succ_cons, List.sum_cons] at shifted
      omega
    have nearer : clamp (start + more) ≤ least - (bottom - more) := by
      unfold clamp
      omega
    have ends := ih nearer later
    rw [List.sum_cons, running_cons]
    omega

/-- Steady points make the sum of the score, clamped once. -/
theorem running_of_steady (lower : least ≤ start) (upper : start ≤ greatest)
    (steady : Steady start points) : running start points = clamp (start + points.sum) := by
  have atLeast : greatest - (max greatest (start + points.sum) - start) + points.sum ≤
      running start points := by
    refine le_running (by omega) fun count => ?_
    have bounded := steady.above count
    omega
  have atMost : running start points ≤
      least - (min least (start + points.sum) - start) + points.sum := by
    refine running_le (by omega) fun count => ?_
    have bounded := steady.below count
    omega
  have range := running_mem_range lower upper points
  unfold clamp
  omega

/-! ## Gains and losses -/

/-- What is gained, without the losses. -/
def gained (points : List Int) : Int := (points.map fun more => max more 0).sum

/-- What is lost, without the gains. -/
def lost (points : List Int) : Int := (points.map fun more => min more 0).sum

@[simp] theorem gained_cons (more : Int) (points : List Int) :
    gained (more :: points) = max more 0 + gained points := by
  rw [gained, List.map_cons, List.sum_cons, gained]

@[simp] theorem lost_cons (more : Int) (points : List Int) :
    lost (more :: points) = min more 0 + lost points := by
  rw [lost, List.map_cons, List.sum_cons, lost]

theorem gained_perm (same : points.Perm others) : gained points = gained others :=
  (same.map _).sum_eq

theorem lost_perm (same : points.Perm others) : lost points = lost others :=
  (same.map _).sum_eq

theorem gained_add_lost (points : List Int) : gained points + lost points = points.sum := by
  induction points with
  | nil => rfl
  | cons more rest ih =>
    rw [gained_cons, lost_cons, List.sum_cons]
    omega

/-- Some of the points sum to no more than what is gained and to no less than what is lost. -/
theorem sum_of_sublist (part : points.Sublist others) :
    lost others ≤ points.sum ∧ points.sum ≤ gained others := by
  induction part with
  | slnil => exact ⟨Int.le_refl 0, Int.le_refl 0⟩
  | cons more _ ih =>
    rw [gained_cons, lost_cons]
    omega
  | cons_cons more _ ih =>
    rw [gained_cons, lost_cons, List.sum_cons]
    omega

theorem gained_nonneg (points : List Int) : 0 ≤ gained points :=
  (sum_of_sublist (List.nil_sublist points)).2

theorem lost_nonpos (points : List Int) : lost points ≤ 0 :=
  (sum_of_sublist (List.nil_sublist points)).1

/-! ## The order of the points -/

/-- Neither all gains nor all losses pass an end of the range, or there is nothing but gains or
nothing but losses. -/
def OrderFree (points : List Int) : Prop :=
  (gained points ≤ greatest ∧ least ≤ lost points) ∨ gained points = 0 ∨ lost points = 0

instance (points : List Int) : Decidable (OrderFree points) :=
  inferInstanceAs (Decidable ((_ ∧ _) ∨ _ ∨ _))

theorem orderFree_perm (same : points.Perm others) : OrderFree points ↔ OrderFree others := by
  rw [OrderFree, OrderFree, gained_perm same, lost_perm same]

theorem OrderFree.steady (free : OrderFree points) : Steady 0 points := by
  have whole := gained_add_lost points
  have parts (count : Nat) : (points.take count).sum + (points.drop count).sum = points.sum := by
    rw [← List.sum_append, List.take_append_drop]
  unfold OrderFree at free
  constructor
  · intro count
    have part := sum_of_sublist (List.take_sublist count points)
    have rest := sum_of_sublist (List.drop_sublist count points)
    have sum := parts count
    unfold greatest at free ⊢
    omega
  · intro count
    have part := sum_of_sublist (List.take_sublist count points)
    have rest := sum_of_sublist (List.drop_sublist count points)
    have sum := parts count
    unfold least at free ⊢
    omega

/-- Points that are free of the order make their sum, clamped once. -/
theorem OrderFree.running_eq (free : OrderFree points) : running 0 points = clamp points.sum := by
  have sum := running_of_steady (by decide) (by decide) free.steady
  rwa [Int.zero_add] at sum

/-! ### Gains first, or losses first -/

/-- All parts are of one sign. -/
def OneSign (part : Int → Int) : Prop :=
  (∀ more, 0 ≤ part more) ∨ ∀ more, part more ≤ 0

theorem oneSign_gains : OneSign (max · 0) := Or.inl fun more => Int.le_max_right more 0

theorem oneSign_losses : OneSign (min · 0) := Or.inr fun more => Int.min_le_right more 0

theorem OneSign.sum_map {part : Int → Int} (oneSign : OneSign part) (more : Int)
    (points : List Int) :
    0 ≤ part more ∧ 0 ≤ (points.map part).sum ∨ part more ≤ 0 ∧ (points.map part).sum ≤ 0 := by
  refine oneSign.imp (fun signs => ⟨signs more, ?_⟩) fun signs => ⟨signs more, ?_⟩
  · exact List.sum_induction (0 ≤ ·) (fun _ _ => Int.add_nonneg) (Int.le_refl 0)
      (List.forall_mem_map.mpr fun next _ => signs next)
  · exact List.sum_induction (· ≤ 0) (fun _ _ => Int.add_nonpos) (Int.le_refl 0)
      (List.forall_mem_map.mpr fun next _ => signs next)

/-- A bound that is met keeps its place as long as the points are of one sign. -/
theorem clamp_clamp_add {more later : Int} (lower : least ≤ start) (upper : start ≤ greatest)
    (oneSign : 0 ≤ more ∧ 0 ≤ later ∨ more ≤ 0 ∧ later ≤ 0) :
    clamp (clamp (start + more) + later) = clamp (start + (more + later)) := by
  unfold clamp
  omega

/-- When every number is of one of two parts and those of the first part come first, the score moves
as far as the first part takes it, and from there by the last part. -/
theorem running_of_parts {first last : Int → Int} (oneSign : OneSign first)
    (oneSignLast : OneSign last)
    (parts : ∀ more, first more = more ∧ last more = 0 ∨ first more = 0 ∧ last more = more)
    (lower : least ≤ start) (upper : start ≤ greatest)
    (sorted : points.Pairwise fun more later => first later = 0 ∨ last more = 0) :
    running start points =
      clamp (clamp (start + (points.map first).sum) + (points.map last).sum) := by
  induction points generalizing start with
  | nil =>
    simp only [running_nil, List.map_nil, List.sum_nil, clamp]
    omega
  | cons more rest ih =>
    obtain ⟨ahead, later⟩ := List.pairwise_cons.mp sorted
    have signs := oneSign.sum_map more rest
    have signsLast := oneSignLast.sum_map more rest
    rw [running_cons, ih (least_le_clamp _) (clamp_le_greatest _) later, List.map_cons,
      List.map_cons, List.sum_cons, List.sum_cons]
    rcases parts more with ⟨isFirst, notLast⟩ | ⟨notFirst, isLast⟩
    · rw [isFirst] at signs ⊢
      rw [notLast, Int.zero_add, clamp_clamp_add lower upper signs]
    · rw [isLast] at signsLast ⊢
      rw [notFirst, Int.zero_add]
      by_cases isZero : more = 0
      · rw [isZero, Int.add_zero, Int.zero_add]
        unfold clamp
        omega
      · have noneLeft : (rest.map first).sum = 0 :=
          List.sum_eq_zero (List.forall_mem_map.mpr fun next listed =>
            (ahead next listed).resolve_right (isLast.trans_ne isZero))
        have settled : clamp (clamp (start + more)) = clamp (start + more) := by
          unfold clamp
          omega
        have still : clamp start = start := by
          unfold clamp
          omega
        rw [noneLeft, Int.add_zero, Int.add_zero, settled, still,
          clamp_clamp_add lower upper signsLast]

/-- With the gains first, the score climbs as far as it can before the losses take from it. -/
theorem running_of_gainsFirst (lower : least ≤ start) (upper : start ≤ greatest)
    (gainsFirst : points.Pairwise fun more later => 0 < later → more = 0 ∨ 0 < more) :
    running start points = clamp (clamp (start + gained points) + lost points) := by
  refine running_of_parts oneSign_gains oneSign_losses (fun more => by omega) lower upper ?_
  exact gainsFirst.imp fun {more later} before => by omega

/-- With the losses first, the score falls as far as it can before the gains add to it. -/
theorem running_of_lossesFirst (lower : least ≤ start) (upper : start ≤ greatest)
    (lossesFirst : points.Pairwise fun more later => later < 0 → more = 0 ∨ more < 0) :
    running start points = clamp (clamp (start + lost points) + gained points) := by
  refine running_of_parts oneSign_losses oneSign_gains (fun more => by omega) lower upper ?_
  exact lossesFirst.imp fun {more later} before => by omega

/-- If the points are not free of the order, these two orders make different scores. -/
theorem clamp_ne_of_not_orderFree (mixed : ¬OrderFree points) :
    clamp (clamp (gained points) + lost points) ≠ clamp (clamp (lost points) + gained points) := by
  have gains := gained_nonneg points
  have losses := lost_nonpos points
  unfold OrderFree at mixed
  unfold clamp
  unfold least greatest at mixed ⊢
  omega

end Score

end RiskScoring
