import RiskScoring.Proofs.Decision.Transactions
import RiskScoring.Proofs.Ingest.Tenants
import RiskScoring.Proofs.Publication.LiveScoring

/-!
# Organizations do not see each other

Two worlds that agree in what they hold of one organization are the same to it: every read,
evaluation and explanation, every payload, every decision and every batch comes to the same, and
what is counted is counted in the same amounts. Whatever else the worlds hold is of no account.

* `World`, `World.AlikeFor`, `World.SameFor`: worlds, worlds that an organization cannot tell apart,
  and computations that come to the same in both.
* `Iteration.score_twins`, `Batch.run_twins`: scoring and batches.
* `Batch.attempts_alike`, `Batch.reportShared_alike`: batches that are shared among workers.
* `World.isolation`: an organization's view of the world.
-/

namespace RiskScoring

open Ingest

variable {organization : Uuid} {origin otherOrigin : Store}

/-! ## Scoring -/

namespace Iteration

theorem showsReadFailure_congr {one other : Except ScoringError Evaluation}
    (same : SameResult one other) : Batch.showsReadFailure one = Batch.showsReadFailure other := by
  have kept (result : Except ScoringError Evaluation) :
      Batch.showsReadFailure (result.map Evaluation.unstamped) = Batch.showsReadFailure result := by
    rcases result with error | _ | decision <;> rfl
  rw [← kept one, same, kept other]

/-- An object of the organization is scored the same on twin stores. -/
theorem score_twins (iteration : Iteration) (model : DataModel) {scenario : Scenario}
    (owned : scenario.organization = organization) (payload : Payload)
    (batch otherBatch : Option Uuid) (stamp otherStamp : Stamp) :
    Agree (Store.Twins organization origin otherOrigin) SameResult
      (iteration.score model scenario payload batch stamp)
      (iteration.score model scenario payload otherBatch otherStamp) := by
  subst owned
  rw [score_eq_scoreIn, score_eq_scoreIn]
  have accessors : (Scope.mk scenario.organization model payload).accessor.Agrees
      (Session.Twins scenario.organization origin otherOrigin) _ :=
    Scope.accessor_twins model payload
  refine scoreIn_agrees accessors ?_ ?_ iteration scenario payload (fun _ => rfl) (fun _ => rfl)
    fun _ => rfl
  · exact fun one other twins => .start twins
  · exact fun one other twins => twins.release

end Iteration

/-! ## Batches -/

namespace Batch

variable {batch : Batch}

/-- A batch of the organization that one worker runs reports the same on twin stores. -/
theorem run_twins (owned : batch.scenario.organization = organization)
    (cancels : ∀ one other, Store.Twins organization origin otherOrigin one other →
      batch.isCancelled one = batch.isCancelled other) (id : Uuid)
    (stamps otherStamps : Nat → Stamp) (payloads : List Payload) :
    Agree (Store.Twins organization origin otherOrigin)
      (fun report other => report.unstamped = other.unstamped)
      (batch.run stamps payloads) (({ batch with id } : Batch).run otherStamps payloads) := by
  intro one other twins
  rw [run_eq_runWith, run_eq_runWith]
  refine runWith_agrees_unstamped batch payloads.length payloads.zipIdx id (fun _ => cancels)
    (fun payload place => ?_) one other twins
  rw [scoreObject_eq_retrying, scoreObject_eq_retrying]
  exact retrying_agrees (Iteration.score_twins batch.iteration batch.model owned payload _ _ _ _)
    (fun _ _ => Iteration.showsReadFailure_congr) batch.retries

end Batch

/-- What the others of two pools do leaves what an organization sees alike, and a batch is found
cancelled in both or in none. -/
structure Pool.AlikeFor (organization : Uuid) (pool otherPool : Pool) : Prop where
  others : pool.others.AlikeFor organization otherPool.others
  isCancelled : ∀ turn store otherStore, Store.AlikeFor organization store otherStore →
    pool.isCancelled turn store = otherPool.isCancelled turn otherStore

namespace Batch

/-- The workers have the same share of a batch, in pools and stores that the organization cannot
tell apart. -/
structure Worker.AlikeFor (organization : Uuid) (worker otherWorker : Worker) : Prop where
  pool : worker.pool.AlikeFor organization otherWorker.pool
  order : worker.order = otherWorker.order
  store : Store.AlikeFor organization worker.store otherWorker.store

/-- Stores that an organization cannot tell apart, after calls that it cannot tell apart. -/
def StateAlike (organization : Uuid) (one other : Store × List Ingest.Call) : Prop :=
  Store.AlikeFor organization one.1 other.1 ∧
    List.Forall₂ (Ingest.Call.AlikeFor organization) one.2 other.2

/-- The same, with the calls of each attempt. -/
def NotedAlike (organization : Uuid)
    (one other : (Store × List Ingest.Call) × List (List Ingest.Call)) : Prop :=
  StateAlike organization one.1 other.1 ∧
    List.Forall₂ (List.Forall₂ (Ingest.Call.AlikeFor organization)) one.2 other.2

/-- An object is scored the same, whatever others do meanwhile to what the organization does not
see. -/
theorem scoreShared_alike {others otherOthers : Others}
    (alike : others.AlikeFor organization otherOthers) (batch : Batch)
    (owned : batch.scenario.organization = organization) (payload : Payload) (id : Uuid)
    (stamp otherStamp : Stamp) : Agree (StateAlike organization) Iteration.SameResult
      (batch.iteration.scoreShared others batch.model batch.scenario payload (some batch.id) stamp)
      (batch.iteration.scoreShared otherOthers batch.model batch.scenario payload (some id)
        otherStamp) := by
  subst owned
  refine Iteration.scoreIn_agrees (Scope.shared_alike alike batch.model payload) ?_ ?_
    batch.iteration batch.scenario payload (fun _ => rfl) (fun _ => rfl) fun _ => rfl
  · rintro one other ⟨isAlike, callsAlike⟩
    exact ⟨.start isAlike, callsAlike⟩
  · rintro one other ⟨isAlike, callsAlike⟩
    exact ⟨isAlike.release, callsAlike⟩

/-- Attempts that are alike are noted alike. -/
theorem noting_alike
    {attempt other : StateM (Store × List Ingest.Call) (Except ScoringError Evaluation)}
    {same : Except ScoringError Evaluation → Except ScoringError Evaluation → Prop}
    (agrees : Agree (StateAlike organization) same attempt other) :
    Agree (NotedAlike organization) same (noting attempt) (noting other) := by
  rintro ⟨state, attempts⟩ ⟨otherState, otherAttempts⟩ ⟨isAlike, attemptsAlike⟩
  obtain ⟨isSame, afterAlike⟩ := agrees state otherState isAlike
  refine ⟨isSame, afterAlike, List.rel_append attemptsAlike (.cons ?_ .nil)⟩
  rw [isAlike.2.length_eq]
  exact List.forall₂_drop otherState.2.length afterAlike.2

section

variable {batch : Batch} {worker otherWorker : Worker} {workers otherWorkers : List Worker}

/-- The worker makes the same calls. -/
theorem attempts_alike (owned : batch.scenario.organization = organization)
    (alike : worker.AlikeFor organization otherWorker) (id : Uuid)
    (stamps otherStamps : Nat → Stamp) (count : Nat) :
    List.Forall₂ (List.Forall₂ (Ingest.Call.AlikeFor organization))
      (worker.attempts batch stamps count)
      (otherWorker.attempts { batch with id } otherStamps count) := by
  have noted : Agree (NotedAlike organization)
      (fun report other => report.unstamped = other.unstamped)
      (batch.runNoted worker.pool stamps count worker.order)
      (({ batch with id } : Batch).runNoted otherWorker.pool otherStamps count worker.order) := by
    refine runWith_agrees_unstamped batch count worker.order id ?_ fun payload place => ?_
    · rintro turn one other ⟨isAlike, -⟩
      exact alike.pool.isCancelled turn one.1.1 other.1.1 isAlike.1
    · exact retrying_agrees (noting_alike (scoreShared_alike alike.pool.others batch owned payload
        id _ _)) (fun _ _ => Iteration.showsReadFailure_congr) batch.retries
  rw [Worker.attempts, Worker.attempts, ← alike.order]
  exact (noted _ _ ⟨⟨alike.store, .nil⟩, .nil⟩).2.2

/-- The worker takes up the same objects, with the same results. -/
theorem takes_alike (owned : batch.scenario.organization = organization)
    (alike : worker.AlikeFor organization otherWorker) (id : Uuid)
    (stamps otherStamps : Nat → Stamp) :
    (worker.takes batch stamps).map (compared (Except.map Evaluation.unstamped)) =
      (otherWorker.takes { batch with id } otherStamps).map
        (compared (Except.map Evaluation.unstamped)) := by
  have asks (turn : Nat) (one other : Store × List Ingest.Call)
      (isAlike : StateAlike organization one other) :
      worker.pool.isCancelled turn one.1 = otherWorker.pool.isCancelled turn other.1 :=
    alike.pool.isCancelled turn one.1 other.1 isAlike.1
  have agrees (payload : Payload) (place : Nat) :
      Agree (StateAlike organization) Iteration.SameResult
        (batch.scorePooled worker.pool.others stamps payload place)
        (({ batch with id } : Batch).scorePooled otherWorker.pool.others otherStamps payload
          place) :=
    retrying_agrees (scoreShared_alike alike.pool.others batch owned payload id _ _)
      (fun _ _ => Iteration.showsReadFailure_congr) batch.retries
  rw [Worker.takes, Worker.takes, ← alike.order]
  exact (takeAll_agrees (Except.map Evaluation.unstamped) asks agrees 0 worker.order
    (worker.store, []) (otherWorker.store, []) ⟨alike.store, .nil⟩).1

/-- A batch that is shared among workers reports the same. -/
theorem reportShared_alike (owned : batch.scenario.organization = organization)
    (alike : List.Forall₂ (Worker.AlikeFor organization) workers otherWorkers) (id : Uuid)
    (stamps otherStamps : Nat → Stamp) (count : Nat) (cancelled : Bool) :
    (batch.reportShared workers stamps count cancelled).unstamped =
      (({ batch with id } : Batch).reportShared otherWorkers otherStamps count
        cancelled).unstamped := by
  have taken : (workers.flatMap fun worker => worker.takes batch stamps).map
      (compared (Except.map Evaluation.unstamped)) =
        (otherWorkers.flatMap fun worker => worker.takes { batch with id } otherStamps).map
          (compared (Except.map Evaluation.unstamped)) := by
    induction alike with
    | nil => rfl
    | cons first _ ih =>
      rw [List.flatMap_cons, List.flatMap_cons, List.map_append, List.map_append, ih,
        takes_alike owned first id stamps otherStamps]
  rw [reportShared, reportShared, report_unstamped, report_unstamped, unstamped,
    ← collect_compared, ← collect_compared, taken]

end

end Batch

/-! ## Worlds -/

/-- The ingested rows and the data models of all organizations. -/
structure World where
  ingested : Store
  models : ModelRegistry

namespace World

/-- An organization cannot tell the worlds apart: it has the same rows, failures to come and data
model in both. -/
structure AlikeFor (organization : Uuid) (one other : World) : Prop where
  ingested : Store.AlikeFor organization one.ingested other.ingested
  model : one.models.models.get? organization = other.models.models.get? organization

/-- The computations come to the same in the two worlds, leave stores that the organization cannot
tell apart, and move the counters by the same amounts. -/
def SameFor {α β : Type} (organization : Uuid) (one other : World) (same : α → β → Prop)
    (computation : StateM Store α) (otherComputation : StateM Store β) : Prop :=
  same (computation.run one.ingested).1 (otherComputation.run other.ingested).1 ∧
    Store.Twins organization one.ingested other.ingested (computation.run one.ingested).2
      (otherComputation.run other.ingested).2

/-- What an organization does comes to the same in the two worlds. -/
structure Isolated (organization : Uuid) (one other : World) : Prop where
  model : one.models.get organization = other.models.get organization
  payload : ∀ table raw,
    one.models.payload organization table raw = other.models.payload organization table raw
  /-- Fields are read, and formulas are evaluated, traced and explained, through one accessor, which
  is released at the end. -/
  uses : ∀ model payload uses,
    let ofUses (store : Store) :=
      ((Scope.mk organization model payload).accessor.useAll uses).run (.start store)
    (ofUses one.ingested).1 = (ofUses other.ingested).1 ∧
      Session.Twins organization one.ingested other.ingested (ofUses one.ingested).2
        (ofUses other.ingested).2 ∧
      Store.Twins organization one.ingested other.ingested (ofUses one.ingested).2.release
        (ofUses other.ingested).2.release
  score : ∀ (iteration : Iteration) model (scenario : Scenario),
    scenario.organization = organization → ∀ payload batch otherBatch stamp otherStamp,
      SameFor organization one other Iteration.SameResult
        (iteration.score model scenario payload batch stamp)
        (iteration.score model scenario payload otherBatch otherStamp)
  scoreRegistered : ∀ (iteration : Iteration) (scenario : Scenario),
    scenario.organization = organization → ∀ payload batch otherBatch stamp otherStamp,
      SameFor organization one other Iteration.SameResult
        (iteration.scoreRegistered one.models scenario payload batch stamp)
        (iteration.scoreRegistered other.models scenario payload otherBatch otherStamp)
  scoreLive : ∀ (scenarios : ScenarioStore) id,
    (∀ scenario, scenarios.scenarios.get? id = some scenario →
      scenario.organization = organization) → ∀ payload stamp otherStamp,
      SameFor organization one other Iteration.SameResult
        (scenarios.scoreLive one.models id payload stamp)
        (scenarios.scoreLive other.models id payload otherStamp)
  run : ∀ (batch : Batch), batch.scenario.organization = organization →
    (∀ store otherStore, Store.Twins organization one.ingested other.ingested store otherStore →
      batch.isCancelled store = batch.isCancelled otherStore) →
    ∀ id stamps otherStamps payloads,
      SameFor organization one other (fun report other => report.unstamped = other.unstamped)
        (batch.run stamps payloads) (({ batch with id } : Batch).run otherStamps payloads)
  /-- A batch is shared among workers, in whatever order they act in each of the worlds, and
  whatever others do there. It reports the same; each worker makes the same calls, which move the
  counters by the same amounts; and the counters of transactions have moved by the same amounts when
  all is done. -/
  shared : ∀ (batch : Batch), batch.scenario.organization = organization →
    ∀ (workers otherWorkers : List Batch.Worker),
      List.Forall₂ (Batch.Worker.AlikeFor organization) workers otherWorkers →
    ∀ id stamps otherStamps count,
      let attempts := workers.map fun worker => worker.attempts batch stamps count
      let otherAttempts := otherWorkers.map fun worker =>
        worker.attempts { batch with id } otherStamps count
      (∀ cancelled, (batch.reportShared workers stamps count cancelled).unstamped =
        (({ batch with id } : Batch).reportShared otherWorkers otherStamps count
          cancelled).unstamped) ∧
      List.Forall₂ (List.Forall₂ (List.Forall₂ (Ingest.Call.AlikeFor organization))) attempts
        otherAttempts ∧
      ∀ after otherAfter,
        Sharing.Ends (attempts.map (List.flatMap Act.ofAccessor)) one.ingested after →
        Sharing.Ends (otherAttempts.map (List.flatMap Act.ofAccessor)) other.ingested otherAfter →
          (after.begun : Int) - one.ingested.begun = otherAfter.begun - other.ingested.begun ∧
            (after.opened : Int) - one.ingested.opened =
              otherAfter.opened - other.ingested.opened

variable {one other : World}

theorem get_eq (alike : one.AlikeFor organization other) :
    one.models.get organization = other.models.get organization := by
  rw [ModelRegistry.get, ModelRegistry.get, alike.model]

theorem payload_eq (alike : one.AlikeFor organization other) (table : String) (raw : Json) :
    one.models.payload organization table raw = other.models.payload organization table raw := by
  rw [ModelRegistry.payload, ModelRegistry.payload, ModelRegistry.table, ModelRegistry.table,
    get_eq alike]

/-- The data model that is registered for the organization is the same. -/
theorem scoreRegistered_same (alike : one.AlikeFor organization other) (iteration : Iteration)
    {scenario : Scenario} (owned : scenario.organization = organization) (payload : Payload)
    (batch otherBatch : Option Uuid) (stamp otherStamp : Stamp) :
    SameFor organization one other Iteration.SameResult
      (iteration.scoreRegistered one.models scenario payload batch stamp)
      (iteration.scoreRegistered other.models scenario payload otherBatch otherStamp) := by
  have twins := Store.Twins.start alike.ingested
  unfold SameFor
  change Iteration.SameResult (iteration.scoreRegistered _ _ _ _ _ one.ingested).1
    (iteration.scoreRegistered _ _ _ _ _ other.ingested).1 ∧ Store.Twins _ _ _
      (iteration.scoreRegistered _ _ _ _ _ one.ingested).2
      (iteration.scoreRegistered _ _ _ _ _ other.ingested).2
  simp only [Iteration.scoreRegistered, owned, get_eq alike]
  cases other.models.get organization with
  | error error => exact ⟨rfl, twins⟩
  | ok model =>
    exact iteration.score_twins model owned payload batch otherBatch stamp otherStamp _ _ twins

/-- A scenario has the same live iteration, whatever is ingested. -/
theorem scoreLive_same (alike : one.AlikeFor organization other) (scenarios : ScenarioStore)
    {id : Uuid} (owned : ∀ scenario, scenarios.scenarios.get? id = some scenario →
      scenario.organization = organization) (payload : Payload) (stamp otherStamp : Stamp) :
    SameFor organization one other Iteration.SameResult
      (scenarios.scoreLive one.models id payload stamp)
      (scenarios.scoreLive other.models id payload otherStamp) := by
  rw [← ScenarioStore.scoreLiveAcross_self]
  cases reads : scenarios.liveIteration id with
  | error error =>
    have fails (registry : ModelRegistry) (stamp : Stamp) :
        scenarios.scoreLiveAcross scenarios registry id payload stamp =
          fun store => (.error error, store) := by
      funext store
      simp only [ScenarioStore.scoreLiveAcross, reads]
    rw [fails, fails]
    exact ⟨rfl, .start alike.ingested⟩
  | ok pair =>
    obtain ⟨scenario, live⟩ := pair
    have isOwned := owned scenario (ScenarioStore.live_of_liveIteration reads).1
    cases found : scenarios.iterations.get? live with
    | none =>
      have fails (registry : ModelRegistry) (stamp : Stamp) :
          scenarios.scoreLiveAcross scenarios registry id payload stamp =
            fun store => (.error (.store (.notFound (.iteration live))), store) := by
        funext store
        simp only [ScenarioStore.scoreLiveAcross, reads, ScenarioStore.getIteration, found]
      rw [fails, fails]
      exact ⟨rfl, .start alike.ingested⟩
    | some iteration =>
      rw [ScenarioStore.scoreLiveAcross_of_reads reads found,
        ScenarioStore.scoreLiveAcross_of_reads reads found]
      exact scoreRegistered_same alike iteration isOwned payload none none stamp otherStamp

/-- Organizations are isolated: if two worlds agree in the rows of an organization, in the failures
to come, and in its data model, then whatever else they hold, its payloads, reads, evaluations,
explanations, decisions and batches are the same in both, but for generated identifiers and times,
and the counters are moved by the same amounts. -/
theorem isolation (alike : one.AlikeFor organization other) : Isolated organization one other where
  model := get_eq alike
  payload := payload_eq alike
  uses model payload uses := by
    obtain ⟨isSame, twins⟩ := (Scope.accessor_twins model payload).useAll uses _ _
      (.start (.start alike.ingested))
    exact ⟨isSame, twins, twins.release⟩
  score iteration model scenario owned payload batch otherBatch stamp otherStamp :=
    iteration.score_twins model owned payload batch otherBatch stamp otherStamp _ _
      (.start alike.ingested)
  scoreRegistered iteration _ owned := scoreRegistered_same alike iteration owned
  scoreLive scenarios _ owned := scoreLive_same alike scenarios owned
  run _ owned cancels id stamps otherStamps payloads :=
    Batch.run_twins owned cancels id stamps otherStamps payloads _ _ (.start alike.ingested)
  shared batch owned workers otherWorkers areAlike id stamps otherStamps count := by
    intro attempts otherAttempts
    have calls : List.Forall₂ (List.Forall₂ (List.Forall₂ (Ingest.Call.AlikeFor organization)))
        attempts otherAttempts := by
      refine List.forall₂_map_left_iff.mpr (List.forall₂_map_right_iff.mpr (areAlike.imp ?_))
      intro worker otherWorker isAlike
      exact Batch.attempts_alike owned isAlike id stamps otherStamps count
    refine ⟨Batch.reportShared_alike owned areAlike id stamps otherStamps count, calls, ?_⟩
    intro after otherAfter ends otherEnds
    obtain ⟨opened, begun⟩ := ends.counters (batch.linked_attempts stamps count workers)
    obtain ⟨otherOpened, otherBegun⟩ := otherEnds.counters
      (({ batch with id } : Batch).linked_attempts otherStamps count otherWorkers)
    have sameCalls : (attempts.flatten.countP fun calls => calls.any Ingest.Call.opens) =
        otherAttempts.flatten.countP fun calls => calls.any Ingest.Call.opens :=
      countP_opens_eq (List.rel_flatten calls)
    rw [opened, otherOpened, begun, otherBegun, sameCalls]
    constructor <;> omega

end World

namespace Shop

/-- The world of the shop alone. -/
def lonely : World := ⟨session.store, registry⟩

/-- Someone else has stored a customer of the same key, who is not verified, before the customer of
the shop, and has a data model without tables. Reads and transactions have been counted. -/
def crowded : World where
  ingested :=
    { ((Store.empty.insertRow ⟨4⟩ "customers"
        (.ofList [("id", .string "c1"), ("verified", .bool false)])).insertRow ⟨3⟩ "customers"
          customer.fields).failReads 1 with reads := 7, begun := 5, asked := 6 }
  models := registry.insert ⟨4⟩ (.ofTables [])

/-- A second worker stores rows of someone else. -/
def busy : Pool where
  others _ store := store.insertRow ⟨4⟩ "customers" customer.fields
  isCancelled _ _ := false

theorem lonely_alike : lonely.AlikeFor ⟨3⟩ crowded where
  ingested := ⟨fun _ => rfl, rfl, rfl⟩
  model := by rfl

/-- A third one also opens transactions for someone else, and releases them. -/
def busier : Pool where
  others count store :=
    { store.insertRow ⟨4⟩ "customers" customer.fields with
      begun := store.begun + 1, opened := count }
  isCancelled _ _ := false

theorem busy_alike : busy.AlikeFor ⟨3⟩ busier where
  others count one other alike := by
    have isOther : (⟨4⟩ : Uuid) ≠ ⟨3⟩ := by decide
    refine ⟨fun table => ?_, alike.failingReads, alike.failingOpenings⟩
    exact ((Store.rowsOf_insertRow isOther one "customers" customer.fields table).trans
      (alike.rows table)).trans
        (Store.rowsOf_insertRow isOther other "customers" customer.fields table).symm
  isCancelled _ _ _ _ := rfl

/-- The order is accepted in both worlds after a failed read, for the customer that the shop knows,
and the reads and transactions of two attempts are added to those that were counted before. It is
accepted whatever other workers do for someone else. -/
theorem isolation_order :
    let ended (world : World) (batch : Batch) :=
      (batch.run (fun _ => stamp) [order]).run world.ingested
    let report (world : World) (pool : Pool) (batch : Batch) :=
      batch.reportShared [⟨pool, [(order, 0)], world.ingested⟩] (fun _ => stamp) 1 false
    (ended crowded { batch with id := ⟨42⟩ }).1.unstamped.decisions.map Decision.outcome =
        [.approve] ∧
      (ended crowded { batch with id := ⟨42⟩ }).2.reads = 9 ∧
      (ended crowded { batch with id := ⟨42⟩ }).2.begun = 7 ∧
      (report crowded busier { batch with id := ⟨42⟩ }).unstamped.decisions.map
        Decision.outcome = [.approve] := by
  intro ended report
  have computed : (ended lonely batch).1.unstamped.decisions.map Decision.outcome = [.approve] ∧
      (ended lonely batch).2.reads = 2 ∧ (ended lonely batch).2.begun = 2 ∧
      (report lonely busy batch).unstamped.decisions.map Decision.outcome = [.approve] := by
    decide +kernel
  have isolated := World.isolation lonely_alike
  have isSame : (ended lonely batch).1.unstamped =
        (ended crowded { batch with id := ⟨42⟩ }).1.unstamped ∧
      Store.Twins ⟨3⟩ lonely.ingested crowded.ingested (ended lonely batch).2
        (ended crowded { batch with id := ⟨42⟩ }).2 :=
    isolated.run batch rfl (fun _ _ _ => rfl) ⟨42⟩ (fun _ => stamp) (fun _ => stamp) [order]
  have isShared : (report lonely busy batch).unstamped =
      (report crowded busier { batch with id := ⟨42⟩ }).unstamped :=
    (isolated.shared batch rfl [⟨busy, [(order, 0)], lonely.ingested⟩]
      [⟨busier, [(order, 0)], crowded.ingested⟩]
      (.cons ⟨busy_alike, rfl, lonely_alike.ingested⟩ .nil) ⟨42⟩ (fun _ => stamp)
      (fun _ => stamp) 1).1 false
  clear_value ended report
  obtain ⟨accepts, isTwo, areTwo, acceptsShared⟩ := computed
  obtain ⟨sameReport, -, growth⟩ := isSame
  have reads := growth.reads
  have begun := growth.begun
  have counted : lonely.ingested.reads = 0 ∧ lonely.ingested.begun = 0 ∧
    crowded.ingested.reads = 7 ∧ crowded.ingested.begun = 5 := ⟨rfl, rfl, rfl, rfl⟩
  refine ⟨sameReport ▸ accepts, ?_, ?_, isShared ▸ acceptsShared⟩
  · omega
  · omega

end Shop

end RiskScoring
