import Mathlib.Data.List.Chain
import RiskScoring.Proofs.Scenario.Numbering

/-!
# Logs of publications

What the log of one scenario says, and what one more entry changes about it.

* `Publication.liveIn`: the iteration that is live after a log.
* `Publication.stateIn`: where a log leaves an iteration.
* `Publication.Ranked`: the ranks of a log are the numbers from one on.
* `Publication.IsLog`: a log begins with a publication, and each entry fits the one before it.
* `Publication.IsLog.append`, `Publication.stateIn_append_of_ne`: one more entry.
-/

namespace RiskScoring

namespace Publication

/-- What the entry after an entry may be. An iteration is taken down by the entry after the one that
published it, and no iteration is published twice in a row. -/
def Follows (earlier later : Publication) : Prop :=
  match later.action with
  | .publish => earlier.action = .publish → earlier.iteration ≠ later.iteration
  | .unpublish => earlier.action = .publish ∧ earlier.iteration = later.iteration

/-- The log of one scenario. -/
structure IsLog (log : List Publication) : Prop where
  first : ∀ entry, log.head? = some entry → entry.action = .publish
  chain : log.IsChain Follows

/-- The ranks of a log are the numbers from one on. -/
def Ranked (log : List Publication) : Prop :=
  (log.map fun entry => entry.rank.toNat) = List.range' 1 log.length

/-- What is live after an entry. -/
def leavesLive (entry : Publication) : Option Uuid :=
  match entry.action with
  | .publish => some entry.iteration
  | .unpublish => none

/-- The iteration that is live after a log. -/
def liveIn (log : List Publication) : Option Uuid := log.getLast?.bind leavesLive

/-- The last entry that names an iteration. -/
def lastNaming (log : List Publication) (id : Uuid) : Option Publication :=
  (log.filter fun entry => entry.iteration == id).getLast?

/-- Where a log leaves an iteration. One that it does not name is a draft still. Otherwise the last
entry that names it decides: if that took it down, it is unpublished, and if that published it, it
is live as long as nothing came after. -/
def stateIn (log : List Publication) (id : Uuid) : IterationState :=
  match lastNaming log id with
  | none => .draft
  | some entry =>
    match entry.action with
    | .unpublish => .unpublished
    | .publish => if log.getLast? = some entry then .live else .superseded

/-- The entry can be made while an iteration is live, or none is. -/
def Fits (entry : Publication) (live : Option Uuid) : Prop :=
  match entry.action with
  | .publish => live ≠ some entry.iteration
  | .unpublish => live = some entry.iteration

variable {log : List Publication} {entry : Publication} {id : Uuid}

/-! ## The last rank -/

theorem ranked_iff : Ranked log ↔ Consecutive (log.map Publication.rank) := by
  rw [Ranked, Consecutive, List.map_map, List.length_map]
  rfl

/-- The last rank of a log is its length. -/
theorem Ranked.greatest_toNat (ranked : Ranked log) :
    (greatest (log.map Publication.rank)).toNat = log.length :=
  (ranked_iff.mp ranked).greatest_toNat.trans (List.length_map _)

/-- The entry after the last one of a log, as long as a word holds its rank. -/
theorem Ranked.append (ranked : Ranked log) (inBounds : log.length + 1 < UInt32.size)
    (next : entry.rank = greatest (log.map Publication.rank) + 1) :
    Ranked (log ++ [entry]) := by
  rw [ranked_iff, List.map_append, List.map_singleton, next]
  exact (ranked_iff.mp ranked).concat (by rwa [List.length_map])

/-! ## One more entry -/

theorem IsLog.nil : IsLog [] := ⟨fun _ isHead => (nomatch isHead), .nil⟩

@[simp]
theorem liveIn_append (log : List Publication) (entry : Publication) :
    liveIn (log ++ [entry]) = entry.leavesLive := by
  simp [liveIn]

/-- An entry fits after a log if it fits what the log leaves live. -/
theorem IsLog.append (isLog : IsLog log) (fits : entry.Fits (liveIn log)) :
    IsLog (log ++ [entry]) where
  first := by
    intro head isHead
    cases log with
    | nil =>
      cases isHead
      cases action : entry.action with
      | publish => rfl
      | unpublish =>
        rw [Fits, action] at fits
        cases fits
    | cons entry rest => exact isLog.first head isHead
  chain := by
    rw [List.isChain_append]
    refine ⟨isLog.chain, .singleton entry, ?_⟩
    intro earlier isLast later isLater
    cases isLater
    rw [Option.mem_def] at isLast
    rw [liveIn, isLast, Option.bind_some] at fits
    unfold Follows
    unfold Fits leavesLive at fits
    cases action : entry.action with
    | publish =>
      simp only [action] at fits ⊢
      intro published same
      rw [published, same] at fits
      exact fits rfl
    | unpublish =>
      simp only [action] at fits ⊢
      cases before : earlier.action with
      | publish =>
        rw [before] at fits
        exact ⟨rfl, Option.some.inj fits⟩
      | unpublish =>
        rw [before] at fits
        cases fits

theorem lastNaming_append_of_eq (log : List Publication) (names : entry.iteration = id) :
    lastNaming (log ++ [entry]) id = some entry := by
  simp [lastNaming, names]

theorem lastNaming_append_of_ne (log : List Publication) (names : entry.iteration ≠ id) :
    lastNaming (log ++ [entry]) id = lastNaming log id := by
  simp [lastNaming, names]

theorem iteration_of_lastNaming (isLast : lastNaming log id = some entry) :
    entry.iteration = id := by
  have listed := List.mem_filter.mp (List.mem_of_getLast? isLast)
  exact eq_of_beq listed.2

theorem stateIn_eq_draft (unnamed : ∀ entry ∈ log, entry.iteration ≠ id) :
    stateIn log id = .draft := by
  have nothing : log.filter (fun entry => entry.iteration == id) = [] := by
    simpa using unnamed
  simp [stateIn, lastNaming, nothing]

/-- An iteration that is published is live. -/
theorem stateIn_append_publish (log : List Publication) (names : entry.iteration = id)
    (publishes : entry.action = .publish) : stateIn (log ++ [entry]) id = .live := by
  simp [stateIn, lastNaming_append_of_eq log names, publishes]

theorem stateIn_append_unpublish (log : List Publication) (names : entry.iteration = id)
    (unpublishes : entry.action = .unpublish) : stateIn (log ++ [entry]) id = .unpublished := by
  simp [stateIn, lastNaming_append_of_eq log names, unpublishes]

/-- An entry for another iteration leaves an iteration where it was, unless it was live. -/
theorem stateIn_append_of_ne (log : List Publication) (names : entry.iteration ≠ id) :
    stateIn (log ++ [entry]) id =
      if stateIn log id = .live then .superseded else stateIn log id := by
  unfold stateIn
  rw [lastNaming_append_of_ne log names]
  cases found : lastNaming log id with
  | none => simp
  | some last =>
    have other : entry ≠ last := by
      rintro rfl
      exact names (iteration_of_lastNaming found)
    cases action : last.action with
    | unpublish => simp [action]
    | publish => by_cases isLast : log.getLast? = some last <;> simp [action, isLast, other]

end Publication

end RiskScoring
