import RiskScoring.Proofs.Decision.Scoring
import RiskScoring.Proofs.Evaluation.Counted

/-!
# Scoring when reads are to fail

A formula that reads the store fails at its first read if a failure is to come, and takes that
failure with it; one that does not read the store is not concerned. So the trigger condition and the
rules of an iteration take the failures one by one, each that reads the store takes one, and when
none is left the others give what they give alone.

* `Expression.readsStore`: whether a formula reads the store.
* `Rule.execute`: what a rule gives alone.
* `Rule.executionsFailing`: what rules give one after the other when reads are to fail.
* `Iteration.runRules_of_ready`: the loop over the rules.
* `Iteration.Scored`, `Iteration.score_scored`: how an object is scored.
-/

namespace RiskScoring

open Ingest

/-! ## One formula -/

namespace Expression

/-- Whether the formula reads the store, when it is evaluated alone and no failure is to come. -/
def readsStore (formula : Expression) (scope : Scope) (store : Store) : Bool :=
  decide (store.reads <
    ((formula.evaluateBool scope.accessor).runFrom (.start (store.failReads 0))).2.store.reads)

/-- What the formula gives alone, when no failure is to come. -/
def alone (formula : Expression) (scope : Scope) (store : Store) : Except EvaluationError Bool :=
  ((formula.evaluateBool scope.accessor).runFrom (.start (store.failReads 0))).1

variable {store : Store}

theorem calm_start (opens : store.failingOpenings = 0) :
    (Session.start (store.failReads 0)).Calm store.rows :=
  Session.calm_iff.mpr ⟨⟨rfl, opens⟩, rfl⟩

/-- A formula gives what it gives alone, after a number of reads that is not zero exactly if it
reads the store. -/
theorem alone_counted (scope : Scope) (opens : store.failingOpenings = 0) (formula : Expression) :
    ∃ count, (0 < count ↔ formula.readsStore scope store = true) ∧
      (formula.evaluateBool scope.accessor).Counted store.rows (formula.alone scope store)
        count := by
  obtain ⟨result, count, counted⟩ := formula.evaluateBool_counted scope store.rows
  have ends := counted (.start (store.failReads 0)) ⟨rfl, opens⟩
  have none : (Session.start (store.failReads 0)).store.failingReads = 0 := rfl
  rw [if_pos (Or.inr none)] at ends
  refine ⟨count, ?_, ?_⟩
  · rw [readsStore, ends, decide_eq_true_iff, Session.reads_touches]
    show 0 < count ↔ store.reads < store.reads + count
    omega
  · rw [alone, ends]
    exact counted

theorem alone_ne_readFailed (scope : Scope) (opens : store.failingOpenings = 0)
    (formula : Expression) (cause : StorageError) :
    formula.alone scope store ≠ .error (.readFailed cause) :=
  evaluateBool_ne_readFailed formula (calm_start opens) cause

/-- A formula is spared if it does not read the store or no failure is to come. -/
theorem spared_iff {reading : Bool} {failing : Nat} :
    ¬(reading = true ∧ 0 < failing) ↔ reading = false ∨ failing = 0 := by
  cases reading with
  | false => simp
  | true => simp [Nat.pos_iff_ne_zero]

/-- A formula that reads the store takes a failure that is to come. -/
theorem evaluateBool_of_struck {scope : Scope} (opens : store.failingOpenings = 0)
    {formula : Expression} (reads : formula.readsStore scope store = true) {session : Session}
    (ready : session.store.Ready store.rows) (fails : 0 < session.store.failingReads) :
    (formula.evaluateBool scope.accessor).runFrom session =
      (.error (.readFailed .readFailed), session.touch) := by
  obtain ⟨count, counts, counted⟩ := alone_counted scope opens formula
  have isSome := counts.mpr reads
  rw [counted session ready, if_neg (by omega)]

/-- A formula gives what it gives alone, and takes no failure, if none is to come or it does not
read the store. -/
theorem evaluateBool_of_spared {scope : Scope} (opens : store.failingOpenings = 0)
    {formula : Expression} {session : Session} (ready : session.store.Ready store.rows)
    (spared : formula.readsStore scope store = false ∨ session.store.failingReads = 0) :
    ∃ after, (formula.evaluateBool scope.accessor).runFrom session =
        (formula.alone scope store, after) ∧
      after.store.Ready store.rows ∧ after.store.failingReads = session.store.failingReads := by
  obtain ⟨count, counts, counted⟩ := alone_counted scope opens formula
  refine ⟨Session.touch^[count] session, ?_, Session.ready_touches ready count, ?_⟩
  · rw [counted session ready, if_pos]
    rcases spared with silent | none
    · rw [silent] at counts
      exact Or.inl (by simpa using counts)
    · exact Or.inr none
  · rw [Session.failingReads_touches]
    rcases spared with silent | none
    · rw [silent] at counts
      have : count = 0 := by simpa using counts
      omega
    · omega

end Expression

/-! ## The rules -/

namespace Rule

/-- What the rule gives alone, when no failure is to come. -/
def execute (rule : Rule) (scope : Scope) (store : Store) : RuleExecution :=
  .ofResult rule (rule.formula.alone scope store)

/-- What the rule gives when its first read of the store is made to fail. -/
def struck (rule : Rule) : RuleExecution := .ofResult rule (.error (.readFailed .readFailed))

/-- Whether the formula of the rule reads the store. -/
def reads (scope : Scope) (store : Store) (rule : Rule) : Bool :=
  rule.formula.readsStore scope store

/-- What rules give one after the other when a number of reads is to fail: the first ones that read
the store are struck, and all others give what they give alone. -/
def executionsFailing (scope : Scope) (store : Store) : Nat → List Rule → List RuleExecution
  | _, [] => []
  | 0, rule :: rest => rule.execute scope store :: executionsFailing scope store 0 rest
  | failing + 1, rule :: rest =>
    if rule.reads scope store then rule.struck :: executionsFailing scope store failing rest
    else rule.execute scope store :: executionsFailing scope store (failing + 1) rest

variable {scope : Scope} {store : Store}

theorem failure_execute_ne (opens : store.failingOpenings = 0) (rule : Rule) :
    (rule.execute scope store).failure ≠ some .readFailed := by
  have notFailed := Expression.alone_ne_readFailed scope opens rule.formula
  unfold execute
  cases result : rule.formula.alone scope store with
  | ok value => exact fun failed => nomatch failed
  | error error =>
    rw [result] at notFailed
    cases error with
    | readFailed cause => exact absurd rfl (notFailed cause)
    | _ => exact fun failed => nomatch failed

/-- Without failures to come every rule gives what it gives alone. -/
theorem executionsFailing_zero (rules : List Rule) :
    executionsFailing scope store 0 rules = rules.map fun rule => rule.execute scope store := by
  induction rules with
  | nil => rfl
  | cons rule rest ih => rw [executionsFailing, ih, List.map_cons]

/-- A rule is struck if it reads the store and there are fewer such rules before it than reads that
are to fail. -/
theorem getElem?_executionsFailing (failing : Nat) (rules : List Rule) (index : Nat) :
    (executionsFailing scope store failing rules)[index]? = rules[index]?.map fun rule =>
      if rule.reads scope store = true ∧
          (rules.take index).countP (Rule.reads scope store) < failing then rule.struck
      else rule.execute scope store := by
  induction rules generalizing failing index with
  | nil => simp [executionsFailing]
  | cons rule rest ih =>
    cases failing with
    | zero =>
      rw [executionsFailing_zero, List.getElem?_map]
      simp
    | succ failing =>
      rw [executionsFailing]
      by_cases reading : rule.reads scope store = true
      · rw [if_pos reading]
        cases index with
        | zero => simp [reading]
        | succ index =>
          rw [List.getElem?_cons_succ, List.getElem?_cons_succ, ih, List.take_succ_cons,
            List.countP_cons_of_pos reading]
          simp only [Nat.add_lt_add_iff_right]
      · rw [if_neg reading]
        cases index with
        | zero => simp [reading]
        | succ index =>
          rw [List.getElem?_cons_succ, List.getElem?_cons_succ, ih, List.take_succ_cons,
            List.countP_cons_of_neg reading]

/-- The executions that are marked with a failed read are those of the first rules that read the
store. -/
theorem marked_executionsFailing (opens : store.failingOpenings = 0) (failing : Nat)
    (rules : List Rule) :
    (executionsFailing scope store failing rules).filter
        (fun execution => execution.failure == some .readFailed) =
      ((rules.filter (Rule.reads scope store)).take failing).map Rule.struck := by
  have unmarked (rule : Rule) :
      ((rule.execute scope store).failure == some .readFailed) = false :=
    beq_eq_false_iff_ne.mpr (rule.failure_execute_ne opens)
  have marked (rule : Rule) : (rule.struck.failure == some .readFailed) = true := rfl
  induction rules generalizing failing with
  | nil => simp [executionsFailing]
  | cons rule rest ih =>
    cases failing with
    | zero => simpa [executionsFailing, unmarked] using ih 0
    | succ failing =>
      by_cases reading : rule.reads scope store = true
      · simpa [executionsFailing, reading, marked] using ih failing
      · simpa [executionsFailing, reading, unmarked] using ih (failing + 1)

end Rule

namespace Iteration

variable {scope : Scope} {store : Store}

/-- The executions of rules, one after the other: each that reads the store takes a failure. -/
theorem runRules_of_ready (scope : Scope) (opens : store.failingOpenings = 0)
    (rules : List Rule) {session : Session} (ready : session.store.Ready store.rows) :
    ∃ after, (runRules scope.accessor rules).run session =
        (Rule.executionsFailing scope store session.store.failingReads rules, after) ∧
      after.store.Ready store.rows ∧ after.store.failingReads =
        session.store.failingReads - rules.countP (Rule.reads scope store) := by
  induction rules generalizing session with
  | nil => exact ⟨session, by cases session.store.failingReads <;> rfl, ready, rfl⟩
  | cons rule rest ih =>
    let ended := (rule.formula.evaluateBool scope.accessor).runFrom session
    have split : (runRules scope.accessor (rule :: rest)).run session =
        (.ofResult rule ended.1 :: ((runRules scope.accessor rest).run ended.2).1,
          ((runRules scope.accessor rest).run ended.2).2) := rfl
    by_cases struck : rule.reads scope store = true ∧ 0 < session.store.failingReads
    · obtain ⟨reading, fails⟩ := struck
      have ends : ended = (.error (.readFailed .readFailed), session.touch) :=
        Expression.evaluateBool_of_struck opens reading ready fails
      obtain ⟨after, runs, afterReady, left⟩ := ih (Session.ready_touch ready)
      obtain ⟨failing, isFailing⟩ := Nat.exists_eq_add_of_lt fails
      rw [Nat.zero_add] at isFailing
      have touched : session.touch.store.failingReads = failing := by
        show session.store.failingReads - 1 = failing
        omega
      rw [touched] at runs left
      refine ⟨after, ?_, afterReady, ?_⟩
      · rw [split, ends, runs, isFailing, Rule.executionsFailing, if_pos reading]
        rfl
      · rw [left, List.countP_cons_of_pos reading]
        omega
    · have spared := Expression.spared_iff.mp struck
      obtain ⟨middle, ends, middleReady, same⟩ :=
        Expression.evaluateBool_of_spared opens ready spared
      change ended = (rule.formula.alone scope store, middle) at ends
      obtain ⟨after, runs, afterReady, left⟩ := ih middleReady
      rw [same] at runs left
      refine ⟨after, ?_, afterReady, ?_⟩
      · rw [split, ends, runs]
        cases failing : session.store.failingReads with
        | zero => rfl
        | succ failing =>
          rcases spared with silent | none
          · rw [Rule.executionsFailing, silent, if_neg Bool.false_ne_true]
            rfl
          · rw [none] at failing
            cases failing
      · rw [left]
        rcases spared with silent | none
        · rw [List.countP_cons_of_neg (by rw [silent]; exact Bool.false_ne_true)]
        · omega

/-! ## One object -/

/-- How an object is scored, and how many failures are left then. Unless its first read is made to
fail, the trigger condition gives what it gives alone. -/
inductive Scored (iteration : Iteration) (scenario : Scenario) (batch : Option Uuid) (stamp : Stamp)
    (scope : Scope) (store : Store) : Evaluation → Nat → Prop
  | struck (reading : iteration.trigger.readsStore scope store = true)
    (fails : 0 < store.failingReads) :
    Scored iteration scenario batch stamp scope store
      (.notTriggered (.conditionFailed (.readFailed .readFailed))) (store.failingReads - 1)
  | conditionFailed {error : EvaluationError}
    (spared : iteration.trigger.readsStore scope store = false ∨ store.failingReads = 0)
    (gives : iteration.trigger.alone scope store = .error error) :
    Scored iteration scenario batch stamp scope store (.notTriggered (.conditionFailed error))
      store.failingReads
  | conditionFalse
    (spared : iteration.trigger.readsStore scope store = false ∨ store.failingReads = 0)
    (gives : iteration.trigger.alone scope store = .ok false) :
    Scored iteration scenario batch stamp scope store (.notTriggered .conditionFalse)
      store.failingReads
  | triggered
    (spared : iteration.trigger.readsStore scope store = false ∨ store.failingReads = 0)
    (gives : iteration.trigger.alone scope store = .ok true) :
    Scored iteration scenario batch stamp scope store
      (.triggered (iteration.decide scenario scope.payload batch stamp
        (Rule.executionsFailing scope store store.failingReads iteration.orderedRules)))
      (store.failingReads - iteration.orderedRules.countP (Rule.reads scope store))

variable {iteration : Iteration} {scenario : Scenario} {batch : Option Uuid} {stamp : Stamp}

theorem scoreWith_scored (iteration : Iteration) (scenario : Scenario) (batch : Option Uuid)
    (stamp : Stamp) (scope : Scope) (opens : store.failingOpenings = 0) :
    ∃ evaluation after,
      (iteration.scoreWith scenario scope.payload batch stamp scope.accessor).run (.start store) =
        (evaluation, after) ∧ after.store.Ready store.rows ∧
      iteration.Scored scenario batch stamp scope store evaluation after.store.failingReads := by
  have ready : (Session.start store).store.Ready store.rows := ⟨rfl, opens⟩
  rw [scoreWith_run]
  by_cases struck : iteration.trigger.readsStore scope store = true ∧ 0 < store.failingReads
  · rw [Expression.evaluateBool_of_struck opens struck.1 ready struck.2]
    exact ⟨_, _, rfl, Session.ready_touch ready, .struck struck.1 struck.2⟩
  · have spared := Expression.spared_iff.mp struck
    obtain ⟨middle, ends, middleReady, same⟩ :=
      Expression.evaluateBool_of_spared opens ready spared
    change middle.store.failingReads = store.failingReads at same
    rw [ends]
    cases gives : iteration.trigger.alone scope store with
    | error error =>
      refine ⟨_, _, rfl, middleReady, ?_⟩
      rw [same]
      exact .conditionFailed spared gives
    | ok triggers =>
      cases triggers with
      | false =>
        refine ⟨_, _, rfl, middleReady, ?_⟩
        rw [same]
        exact .conditionFalse spared gives
      | true =>
        obtain ⟨after, runs, afterReady, left⟩ :=
          runRules_of_ready scope opens iteration.orderedRules middleReady
        rw [same] at runs left
        dsimp only
        rw [runs]
        refine ⟨_, after, rfl, afterReady, ?_⟩
        rw [left]
        exact .triggered spared gives

theorem release_ready {session : Session} {rows : List StoredRow}
    (ready : session.store.Ready rows) : session.release.Ready rows ∧
      session.release.failingReads = session.store.failingReads := by
  unfold Session.release
  split
  · exact ⟨⟨ready.rows, ready.opens⟩, rfl⟩
  · exact ⟨ready, rfl⟩

/-- How an object of the right table is scored. The rows stay as they are. -/
theorem score_scored (iteration : Iteration) (model : DataModel) {scenario : Scenario}
    {payload : Payload} (batch : Option Uuid) (stamp : Stamp)
    (sameTable : payload.table = scenario.triggerTable) (opens : store.failingOpenings = 0) :
    ∃ evaluation after,
      (iteration.score model scenario payload batch stamp).run store = (.ok evaluation, after) ∧
      after.Ready store.rows ∧
      iteration.Scored scenario batch stamp ⟨scenario.organization, model, payload⟩ store evaluation
        after.failingReads := by
  let scope : Scope := ⟨scenario.organization, model, payload⟩
  obtain ⟨evaluation, session, scores, ready, scored⟩ :=
    iteration.scoreWith_scored scenario batch stamp scope opens
  obtain ⟨released, left⟩ := release_ready ready
  refine ⟨evaluation, session.release, ?_, released, by rw [left]; exact scored⟩
  rw [score_run iteration model batch stamp store sameTable, scores]

end Iteration

/-! ## The orders of a shop -/

namespace Shop

/-- The scenario that orders trigger. -/
def scenario : Scenario := ⟨⟨20⟩, ⟨3⟩, "Orders", "", "orders", none, ⟨0, 0⟩⟩

/-- The customer is verified. -/
def verification : Rule :=
  ⟨⟨31⟩, 1, "Verified", "", .stored .bool ["customer"] "verified", 10, ⟨0, 0⟩⟩

/-- The order is not for a known address, which is not looked up in the store. -/
def strangeness : Rule :=
  ⟨⟨32⟩, 2, "Strange", "", .not (some (.payload .bool "known")), 20, ⟨0, 0⟩⟩

/-- The order is urgent. No order says so. -/
def urgency : Rule := ⟨⟨33⟩, 3, "Urgent", "", .payload .bool "urgent", 30, ⟨0, 0⟩⟩

/-- A rule that always holds. -/
def always (place : UInt32) (modifier : Int64) : Rule :=
  ⟨⟨BitVec.ofNat 128 (40 + place.toNat)⟩, place, "Always", "", .bool true, modifier, ⟨0, 0⟩⟩

/-- What is generated for a decision. -/
def stamp : Stamp := ⟨⟨22⟩, ⟨0, 0⟩, fun _ => ⟨23⟩⟩

/-- An iteration that scores every order by some rules. -/
def scoring (rules : List Rule) : Iteration :=
  ⟨⟨21⟩, ⟨20⟩, 1, .bool true, rules, 1, 2, .draft, ⟨0, 0⟩, ⟨0, 0⟩⟩

end Shop

end RiskScoring
