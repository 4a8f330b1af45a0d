import RiskScoring.Proofs.Decision.ObjectByObject
import RiskScoring.Proofs.Evaluation.Workers

/-!
# Transactions of objects and batches

Each attempt to score an object has an accessor of its own, which is given up at the end. So an
attempt opens one transaction at most, and leaves none open; and a batch has begun as many as there
were attempts in which a read obtained one, however many workers share in it.

* `Ingest.Released`, `Iteration.scoreShared_released`: what an attempt does to the transactions.
* `Batch.noting`, `Batch.runNoted`: a batch that notes the calls of each attempt.
* `Batch.runNoted_agrees`, `Batch.runNoted_tally`: noting changes nothing, and what the notes tell.
* `Batch.Worker.attempts`: the calls of a worker, by its attempts.
* `one_transaction`: the transactions of accessors, objects and batches.
-/

namespace RiskScoring

open Ingest

/-! ## Attempts -/

namespace Ingest

/-- What an attempt does to the transactions: its calls follow the calls before and are linked, and
if others count no transactions, it is what a worker does with an accessor. -/
structure Released (others : Others) (before after : Store × List Ingest.Call)
    (calls : List Ingest.Call) : Prop where
  follows : after.2 = before.2 ++ calls
  linked : ∃ held, Linked false calls held
  runs : others.Aside → Sharing.Run ⟨[Act.ofAccessor calls], before.1⟩ ⟨[[]], after.1⟩

/-- One worker that has done what it does with accessors. -/
theorem Sharing.Run.counters {accessors : List (List Ingest.Call)} {store after : Store}
    (run : Sharing.Run ⟨[accessors.flatMap Act.ofAccessor], store⟩ ⟨[[]], after⟩)
    (linked : ∀ calls ∈ accessors, ∃ held, Linked false calls held) :
    after.opened = store.opened ∧ after.begun =
      store.begun + accessors.countP fun calls => calls.any Ingest.Call.opens := by
  have ends : Sharing.Ends ([accessors].map (List.flatMap Act.ofAccessor)) store after :=
    ⟨[[]], fun acts isLast => List.mem_singleton.mp isLast, run⟩
  have counters := ends.counters fun worker isWorker => List.mem_singleton.mp isWorker ▸ linked
  rwa [List.flatten_singleton] at counters

/-- An attempt leaves no transaction open, and has begun one if a call has opened one. -/
theorem Released.counters {others : Others} {before after : Store × List Ingest.Call}
    {calls : List Ingest.Call} (released : Released others before after calls)
    (aside : others.Aside) : after.1.opened = before.1.opened ∧
      after.1.begun = before.1.begun + (calls.any Ingest.Call.opens).toNat := by
  have run : Sharing.Run ⟨[[calls].flatMap Act.ofAccessor], before.1⟩ ⟨[[]], after.1⟩ := by
    rw [List.flatMap_singleton]
    exact released.runs aside
  obtain ⟨opened, begun⟩ := run.counters fun only isOnly =>
    List.mem_singleton.mp isOnly ▸ released.linked
  rw [List.countP_singleton] at begun
  refine ⟨opened, begun.trans ?_⟩
  cases calls.any Ingest.Call.opens <;> rfl

end Ingest

/-- An object is scored, or not, with at most one transaction, which is released. -/
theorem Iteration.scoreShared_released (others : Others) (iteration : Iteration)
    (model : DataModel) (scenario : Scenario) (payload : Payload) (batch : Option Uuid)
    (stamp : Stamp) (state : Store × List Ingest.Call) :
    ∃ calls, Released others state
      ((iteration.scoreShared others model scenario payload batch stamp).run state).2 calls := by
  obtain ⟨store, earlier⟩ := state
  let scope : Scope := ⟨scenario.organization, model, payload⟩
  let ended := (iteration.scoreWith scenario payload batch stamp
    (scope.accessor.shared others)).run (Session.start store, earlier)
  have unfolds : (iteration.scoreShared others model scenario payload batch stamp).run
      (store, earlier) = if payload.table = scenario.triggerTable then
        (.ok ended.1, ended.2.1.release, ended.2.2)
      else (.error (.wrongTable scenario.id scenario.triggerTable payload.table),
        store, earlier) := rfl
  rw [unfolds]
  split
  · have since : Ingest.Since others store earlier ended.2 :=
      (scoreWith_agrees (scope.shared_since others store earlier) iteration scenario payload
        Eq (fun _ => rfl) (fun _ => rfl) _ _ ⟨rfl, .start others store earlier⟩).2.2
    obtain ⟨calls, isCalls, linked, runs⟩ := since.release
    exact ⟨calls, isCalls, ⟨_, linked⟩, runs⟩
  · exact ⟨[], (List.append_nil earlier).symm, ⟨false, .none⟩, fun _ => .refl⟩

namespace Batch

/-! ## Batches -/

/-- Makes an attempt and notes its calls. -/
def noting (attempt : StateM (Store × List Ingest.Call) (Except ScoringError Evaluation)) :
    StateM ((Store × List Ingest.Call) × List (List Ingest.Call))
      (Except ScoringError Evaluation) :=
  fun (state, attempts) =>
    let (result, after) := attempt.run state
    (result, after, attempts ++ [after.2.drop state.2.length])

/-- Runs the batch on a pool and notes the calls of each attempt. -/
def runNoted (batch : Batch) (pool : Pool) (stamps : Nat → Stamp) (count : Nat)
    (order : List (Payload × Nat)) :
    StateM ((Store × List Ingest.Call) × List (List Ingest.Call)) BatchReport :=
  batch.runWith (fun turn state => pool.isCancelled turn state.1.1)
    (fun payload place => retrying (noting (batch.iteration.scoreShared pool.others batch.model
      batch.scenario payload (some batch.id) (stamps place))) batch.retries) count order

variable (batch : Batch) (pool : Pool) (stamps : Nat → Stamp) (count : Nat)
  (order : List (Payload × Nat))

/-- A batch that notes is the batch. -/
theorem runNoted_agrees : Agree (fun noted state => noted.1 = state) Eq
    (batch.runNoted pool stamps count order) (batch.runPool pool stamps count order) := by
  refine runWith_agrees batch count order ?_ fun payload place => ?_
  · rintro turn ⟨state, attempts⟩ _ rfl
    rfl
  · refine retrying_agrees ?_ (fun _ _ isSame => congrArg showsReadFailure isSame) batch.retries
    rintro ⟨state, attempts⟩ _ rfl
    exact ⟨rfl, rfl⟩

/-- What the notes tell of the transactions since a start: the calls of each attempt are linked, and
if others count no transactions, the attempts are what one worker does. -/
structure Tally (others : Others) (start : Store)
    (noted : (Store × List Ingest.Call) × List (List Ingest.Call)) : Prop where
  linked : ∀ calls ∈ noted.2, ∃ held, Linked false calls held
  runs : others.Aside →
    Sharing.Run ⟨[noted.2.flatMap Act.ofAccessor], start⟩ ⟨[[]], noted.1.1⟩

/-- An attempt keeps the tally. -/
theorem Tally.step {others : Others} {start : Store} {before after : Store × List Ingest.Call}
    {attempts : List (List Ingest.Call)} {calls : List Ingest.Call}
    (tally : Tally others start (before, attempts))
    (released : Released others before after calls) :
    Tally others start (after, attempts ++ [after.2.drop before.2.length]) := by
  have isCalls : after.2.drop before.2.length = calls := by
    rw [released.follows, List.drop_left]
  rw [isCalls]
  constructor
  · intro noted listed
    rcases List.mem_append.mp listed with earlier | last
    · exact tally.linked noted earlier
    · rw [List.mem_singleton.mp last]
      exact released.linked
  · intro aside
    rw [List.flatMap_append, List.flatMap_singleton]
    exact (tally.runs aside).append.trans (released.runs aside)

/-- A batch keeps the tally. -/
theorem runNoted_tally (start : Store) (calls : List Ingest.Call) :
    Tally pool.others start
      ((batch.runNoted pool stamps count order).run ((start, calls), [])).2 := by
  have keeps : Agree (fun noted other => noted = other ∧ Tally pool.others start noted) Eq
      (batch.runNoted pool stamps count order) (batch.runNoted pool stamps count order) := by
    refine runWith_agrees batch count order ?_ fun payload place => ?_
    · rintro turn noted _ ⟨rfl, -⟩
      rfl
    · refine retrying_agrees ?_ (fun _ _ isSame => congrArg showsReadFailure isSame) batch.retries
      rintro ⟨state, attempts⟩ _ ⟨rfl, tally⟩
      obtain ⟨calls, released⟩ := batch.iteration.scoreShared_released pool.others batch.model
        batch.scenario payload (some batch.id) (stamps place) state
      exact ⟨rfl, rfl, tally.step released⟩
  refine (keeps _ _ ⟨rfl, ?_⟩).2.2
  exact ⟨fun calls listed => (nomatch listed), fun _ => .refl⟩

/-- The calls of a worker, by its attempts. -/
def Worker.attempts (worker : Worker) (batch : Batch) (stamps : Nat → Stamp) (count : Nat) :
    List (List Ingest.Call) :=
  ((batch.runNoted worker.pool stamps count worker.order).run ((worker.store, []), [])).2.2

theorem linked_attempts (workers : List Worker) :
    ∀ attempts ∈ workers.map fun worker => worker.attempts batch stamps count,
      ∀ calls ∈ attempts, ∃ held, Linked false calls held := by
  intro attempts isAttempts
  obtain ⟨worker, -, rfl⟩ := List.mem_map.mp isAttempts
  exact (batch.runNoted_tally worker.pool stamps count worker.order worker.store []).linked

end Batch

/-! ## What becomes of transactions -/

/-- Others that make reads and openings fail, by the number of calls before. -/
def Others.failing (reads openings : Nat → Nat) : Others :=
  fun count store => (store.failReads (reads count)).failOpenings (openings count)

theorem Others.failing_aside (reads openings : Nat → Nat) : (failing reads openings).Aside :=
  ⟨fun _ _ => rfl, fun _ _ => rfl⟩

/-- Without others, the accessor, the scoring and the batch on a shared store are those of one
worker. -/
structure Unshared : Prop where
  useAll : ∀ (scope : Scope) (uses : List Use) (session : Session) (calls : List Ingest.Call),
    (scope.accessor.useAll uses).run session =
      let (results, after) := ((scope.accessor.shared .idle).useAll uses).run (session, calls)
      (results, after.1)
  score : ∀ (iteration : Iteration) (model : DataModel) (scenario : Scenario) (payload : Payload)
    (batch : Option Uuid) (stamp : Stamp) (store : Store) (calls : List Ingest.Call),
    (iteration.score model scenario payload batch stamp).run store =
      let (result, after) :=
        (iteration.scoreShared .idle model scenario payload batch stamp).run (store, calls)
      (result, after.1)
  run : ∀ (batch : Batch) (stamps : Nat → Stamp) (payloads : List Payload) (store : Store)
    (calls : List Ingest.Call), (batch.run stamps payloads).run store =
      let (report, after) := (batch.runPool batch.alone stamps payloads.length
        payloads.zipIdx).run (store, calls)
      (report, after.1)

theorem unshared : Unshared where
  useAll scope uses session calls := by
    obtain ⟨isSame, isAlike⟩ :=
      (scope.accessor.shared_idle_agrees.useAll uses) (session, calls) session rfl
    exact Prod.ext isSame.symm isAlike.symm
  score iteration model scenario payload batch stamp store calls := by
    obtain ⟨isSame, isAlike⟩ :=
      iteration.scoreShared_idle_agrees model scenario payload batch stamp (store, calls) store rfl
    exact Prod.ext isSame.symm isAlike.symm
  run batch stamps payloads store calls := batch.run_eq_runPool stamps payloads store calls

/-- Transactions are opened once at most per object and always released. Whatever an accessor is
used for, and whatever others do between its calls, above all which reads and which openings they
make fail: it holds a transaction exactly if an opening has succeeded, one does at most and at a
read of the store, a failed opening leaves nothing held and is tried again by the next read, and a
failed read keeps the transaction. If others count no transactions themselves, as many are open
after an object as before, and one more has been begun exactly if a read obtained one; and after a
batch, as many are open as before, and as many more have been begun as there were attempts in which
a read obtained one. The same is true of a batch that is shared among workers, in whatever order
they act on the store. -/
theorem one_transaction :
    (∀ (scope : Scope) (others : Others) (uses : List Use) (store : Store),
      let after := (((scope.accessor.shared others).useAll uses).run (.start store, [])).2
      Transacted after.2 after.1.held ∧
        (others.Aside → after.1.store.begun = store.begun + after.2.countP Ingest.Call.opens ∧
          after.1.release.opened = store.opened)) ∧
    (∀ (others : Others), others.Aside → ∀ (iteration : Iteration) (model : DataModel)
      (scenario : Scenario) (payload : Payload) (batch : Option Uuid) (stamp : Stamp)
      (store : Store) (earlier : List Ingest.Call),
      let after := ((iteration.scoreShared others model scenario payload batch stamp).run
        (store, earlier)).2
      ∃ calls, after.2 = earlier ++ calls ∧ (∃ held, Transacted calls held) ∧
        after.1.opened = store.opened ∧
        after.1.begun = store.begun + (calls.any Ingest.Call.opens).toNat) ∧
    (∀ (batch : Batch) (pool : Pool) (stamps : Nat → Stamp) (count : Nat)
      (order : List (Payload × Nat)) (store : Store) (earlier : List Ingest.Call),
      let noted := (batch.runNoted pool stamps count order).run ((store, earlier), [])
      let attempts := noted.2.2
      (batch.runPool pool stamps count order).run (store, earlier) = (noted.1, noted.2.1) ∧
        (∀ calls ∈ attempts, ∃ held, Transacted calls held) ∧
        (pool.others.Aside →
          Sharing.Ends [attempts.flatMap Act.ofAccessor] store noted.2.1.1 ∧
          noted.2.1.1.opened = store.opened ∧
          noted.2.1.1.begun =
            store.begun + attempts.countP fun calls => calls.any Ingest.Call.opens)) ∧
    (∀ (batch : Batch) (stamps : Nat → Stamp) (count : Nat) (workers : List Batch.Worker)
      (store after : Store),
      let attempts := workers.map fun worker => worker.attempts batch stamps count
      Sharing.Ends (attempts.map (List.flatMap Act.ofAccessor)) store after →
        after.opened = store.opened ∧ after.begun =
          store.begun + attempts.flatten.countP fun calls => calls.any Ingest.Call.opens) ∧
    Unshared := by
  refine ⟨?_, ?_, ?_, ?_, unshared⟩
  · intro scope others uses store after
    have since : Since others store [] after :=
      ((scope.shared_since others store []).useAll uses _ _ ⟨rfl, .start others store []⟩).2.2
    obtain ⟨calls, isCalls, linked, runs⟩ := since.release
    rw [List.nil_append] at isCalls
    rw [← isCalls] at linked runs
    have released : Released others (store, []) (after.1.release, after.2) after.2 :=
      ⟨rfl, ⟨_, linked⟩, runs⟩
    refine ⟨linked.transacted, fun aside => ?_⟩
    obtain ⟨opened, begun⟩ := released.counters aside
    refine ⟨?_, opened⟩
    rw [linked.count_opens, linked.toNat_held, ← begun]
    exact after.1.release_begun.symm
  · intro others aside iteration model scenario payload batch stamp store earlier after
    obtain ⟨calls, released⟩ := iteration.scoreShared_released others model scenario payload batch
      stamp (store, earlier)
    obtain ⟨held, linked⟩ := released.linked
    exact ⟨calls, released.follows, ⟨held, linked.transacted⟩, released.counters aside⟩
  · intro batch pool stamps count order store earlier noted attempts
    obtain ⟨isSame, isAlike⟩ := batch.runNoted_agrees pool stamps count order
      ((store, earlier), []) (store, earlier) rfl
    have tally : Batch.Tally pool.others store noted.2 :=
      batch.runNoted_tally pool stamps count order store earlier
    refine ⟨Prod.ext isSame.symm isAlike.symm, fun calls listed => ?_, fun aside => ?_⟩
    · obtain ⟨held, linked⟩ := tally.linked calls listed
      exact ⟨held, linked.transacted⟩
    · have run := tally.runs aside
      exact ⟨⟨[[]], fun acts isLast => List.mem_singleton.mp isLast, run⟩,
        run.counters tally.linked⟩
  · intro batch stamps count workers store after attempts ends
    exact ends.counters (batch.linked_attempts stamps count workers)

namespace Shop

/-- The first opening fails, and then the first read. -/
def refusing : Others :=
  .failing (fun count => if count = 1 then 1 else 0) fun count => if count = 0 then 1 else 0

/-- The read of the first attempt fails. -/
def failingOnce : Pool := ⟨.failing (fun count => if count = 2 then 1 else 0) fun _ => 0,
  fun _ _ => false⟩

/-- Two workers with an order each. The second begins while the first holds its transaction. -/
def colleagues : List Batch.Worker :=
  let pool : Pool := ⟨.idle, fun _ _ => false⟩
  [⟨pool, [(order, 0)], stocked⟩,
    ⟨pool, [(order, 1)], { stocked with reads := 1, begun := 1, opened := 1, asked := 1 }⟩]

/-- The customer is read three times: the first opening fails, then the first read, and the third
read finds the transaction of the second. An order is scored with a failing read, in two attempts
that open a transaction each. Two workers score an order each, and hold their transactions at the
same time. All transactions are released. -/
theorem one_transaction_order :
    (∃ ended, (((Scope.mk ⟨3⟩ model order).accessor.shared refusing).useAll
        (List.replicate 3 (.storedField ["customer"] "verified"))).run
          (.start session.store, []) = ended ∧
      ended.2.2.map (fun call => (call.asks, call.opens, call.failed)) =
        [(true, false, true), (true, true, true), (false, false, false)] ∧
      ended.2.1.held = true ∧ ended.2.1.store.begun = 1 ∧ ended.2.1.release.opened = 0) ∧
    (∃ noted, (batch.runNoted failingOnce (fun _ => stamp) 1 [(order, 0)]).run
        ((session.store, []), []) = noted ∧
      noted.2.1.1.begun = 2 ∧ noted.2.1.1.opened = 0) ∧
    (∃ after, Sharing.Ends ((colleagues.map fun worker => worker.attempts batch (fun _ => stamp)
        2).map (List.flatMap Act.ofAccessor)) stocked after ∧
      after.begun = 2 ∧ after.opened = 0) ∧
    ∃ calls held, ((iteration.scoreShared .idle model scenario order none stamp).run
        (session.store, [])).2.2 = calls ∧ Transacted calls held := by
  obtain ⟨ofUses, ofScore, ofBatch, ofWorkers, -⟩ := one_transaction
  have unopened : session.store.opened = 0 := rfl
  have unbegun : session.store.begun = 0 := rfl
  refine ⟨?_, ?_, ?_, ?_⟩
  · have computed : ((((Scope.mk ⟨3⟩ model order).accessor.shared refusing).useAll
        (List.replicate 3 (.storedField ["customer"] "verified"))).run
          (.start session.store, [])).2.2.map (fun call => (call.asks, call.opens, call.failed)) =
        [(true, false, true), (true, true, true), (false, false, false)] := by decide +kernel
    obtain ⟨transacted, counted⟩ := ofUses ⟨⟨3⟩, model, order⟩ refusing
      (List.replicate 3 (.storedField ["customer"] "verified")) session.store
    obtain ⟨begun, released⟩ := counted (Others.failing_aside _ _)
    generalize (((Scope.mk ⟨3⟩ model order).accessor.shared refusing).useAll
      (List.replicate 3 (.storedField ["customer"] "verified"))).run
        (.start session.store, []) = ended at computed transacted begun released
    have opens : ∃ call ∈ ended.2.2, call.opens = true := by
      have listed : (true, true, true) ∈
          ended.2.2.map fun call => (call.asks, call.opens, call.failed) := by
        rw [computed]
        decide
      obtain ⟨call, isCall, isTriple⟩ := List.mem_map.mp listed
      exact ⟨call, isCall, (Prod.mk.inj (Prod.mk.inj isTriple).2).1⟩
    have once := Nat.le_antisymm transacted.once (List.countP_pos_iff.mpr opens)
    rw [once, unbegun] at begun
    rw [unopened] at released
    exact ⟨ended, rfl, computed, transacted.held_iff.mpr opens, begun, released⟩
  · have twice : ((batch.runNoted failingOnce (fun _ => stamp) 1 [(order, 0)]).run
        ((session.store, []), [])).2.2.countP (fun calls => calls.any Ingest.Call.opens) = 2 := by
      decide +kernel
    obtain ⟨-, -, counted⟩ := ofBatch batch failingOnce (fun _ => stamp) 1 [(order, 0)]
      session.store []
    obtain ⟨-, opened, begun⟩ := counted (Others.failing_aside _ _)
    generalize (batch.runNoted failingOnce (fun _ => stamp) 1 [(order, 0)]).run
      ((session.store, []), []) = noted at twice opened begun
    rw [twice, unbegun] at begun
    rw [unopened] at opened
    exact ⟨noted, rfl, begun, opened⟩
  · let attempts := colleagues.map fun worker => worker.attempts batch (fun _ => stamp) 2
    have done : (([0, 0, 0, 1, 1, 1, 0, 1].foldlM Sharing.turn
        ⟨attempts.map (List.flatMap Act.ofAccessor), stocked⟩).any fun sharing =>
          sharing.workers.all List.isEmpty) = true := by decide +kernel
    have two : (attempts.flatten.countP fun calls => calls.any Ingest.Call.opens) = 2 := by
      decide +kernel
    obtain ⟨after, ends⟩ := Sharing.ends_of_turns done
    obtain ⟨opened, begun⟩ := ofWorkers batch (fun _ => stamp) 2 colleagues stocked after ends
    exact ⟨after, ends, begun.trans (congrArg (stocked.begun + ·) two), opened⟩
  · obtain ⟨calls, isCalls, ⟨held, transacted⟩, -, -⟩ := ofScore .idle
      ⟨fun _ _ => rfl, fun _ _ => rfl⟩ iteration model scenario order none stamp session.store []
    exact ⟨calls, held, isCalls, transacted⟩

end Shop

end RiskScoring
