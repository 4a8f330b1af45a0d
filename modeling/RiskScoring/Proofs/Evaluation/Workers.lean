import Mathlib.Logic.Relation
import RiskScoring.Proofs.Evaluation.Transactions

/-!
# Workers that share a store

Several workers act on one store: each makes calls through accessors of its own, one accessor after
the other, and gives every accessor up, which releases the transaction that is held. Their acts come
in any order. What one act does to the counters of transactions is said once, for one step, and is
kept by a run of steps; so the counters at the end show how many accessors were given a transaction,
and that all have been released.

* `Ingest.Act`, `Ingest.Act.ofAccessor`: what a worker does to the store.
* `Ingest.Act.Balanced`: acts that release what they open.
* `Ingest.Sharing.Step`, `Ingest.Sharing.Run`, `Ingest.Sharing.Ends`: workers that act by turns.
* `Ingest.Sharing.Counted.step`, `Ingest.Sharing.Ends.counters`: what the counters show.
* `Ingest.Sharing.turn`, `Ingest.Sharing.ends_of_turns`: workers that act by a schedule.
* `Ingest.Since`, `Ingest.Scope.shared_since`: the calls of an accessor are acts of a worker.
-/

namespace RiskScoring

namespace Ingest

/-! ## Acts -/

/-- What a worker does to the store: it makes a call, or releases the transaction that it holds. -/
inductive Act where
  | call (call : Call)
  | release

namespace Act

/-- The act opens a transaction. -/
def opens : Act → Bool
  | .call made => made.opens
  | .release => false

/-- The act leads from a store to another. -/
inductive Leads : Act → Store → Store → Prop
  | call (made : Call) : Leads (.call made) made.before.store made.after.store
  | release (store : Store) : Leads .release store store.closeTransaction

/-- The acts of a worker with one accessor: the calls, and the release of the transaction if one is
held after the last. -/
def ofAccessor (calls : List Call) : List Act :=
  calls.map .call ++ if calls.getLast?.any fun call => call.after.held then [.release] else []

/-- A worker that has the acts before it holds a transaction. -/
def held : List Act → Bool
  | [] => false
  | .call made :: _ => made.before.held
  | .release :: _ => true

/-- Acts that release what they open. Each call is as every call, and leaves the transaction as the
next act finds it; after a release and at the end none is held. -/
inductive Balanced : List Act → Prop
  | done : Balanced []
  | call {made : Call} {rest : List Act} (lawful : made.Lawful)
    (leaves : held rest = made.after.held) (later : Balanced rest) : Balanced (.call made :: rest)
  | release {rest : List Act} (leaves : held rest = false) (later : Balanced rest) :
    Balanced (.release :: rest)

end Act

theorem Call.Lawful.toNat_held {call : Call} (lawful : call.Lawful) :
    call.after.held.toNat = call.before.held.toNat + call.opens.toNat := by
  rw [lawful.held]
  cases opens : call.opens with
  | false => cases call.before.held <;> rfl
  | true =>
    rw [(lawful.isRead_of_asks (lawful.opens opens)).2]
    rfl

namespace Linked

variable {held last : Bool} {calls : List Call} {later : List Act}

theorem toNat_held (linked : Linked false calls held) :
    held.toNat = (calls.any Call.opens).toNat := by
  have isHeld := linked.held_iff
  rw [← List.any_eq_true] at isHeld
  rw [Bool.eq_iff_iff.mpr isHeld]

theorem held_last (linked : Linked false calls held) :
    (calls.getLast?.any fun call => call.after.held) = held := by
  cases linked with
  | none => rfl
  | snoc earlier lawful =>
    rw [List.getLast?_concat]
    rfl

theorem balanced (linked : Linked held calls last) (finds : Act.held later = last)
    (isBalanced : Act.Balanced later) :
    Act.Balanced (calls.map .call ++ later) ∧ Act.held (calls.map .call ++ later) = held := by
  induction linked generalizing later with
  | none => exact ⟨isBalanced, finds⟩
  | @snoc calls call earlier lawful ih =>
    rw [List.map_append, List.append_assoc]
    exact ih rfl (.call lawful finds isBalanced)

/-- The acts with an accessor release what they open. -/
theorem balanced_ofAccessor (linked : Linked false calls held) (finds : Act.held later = false)
    (isBalanced : Act.Balanced later) :
    Act.Balanced (Act.ofAccessor calls ++ later) ∧
      Act.held (Act.ofAccessor calls ++ later) = false := by
  rw [Act.ofAccessor, linked.held_last, List.append_assoc]
  cases held with
  | false => exact linked.balanced finds isBalanced
  | true => exact linked.balanced rfl (.release finds isBalanced)

theorem countP_ofAccessor (linked : Linked false calls held) :
    (Act.ofAccessor calls).countP Act.opens = (calls.any Call.opens).toNat := by
  have noRelease : (if held = true then [Act.release] else []).countP Act.opens = 0 := by
    split <;> rfl
  rw [Act.ofAccessor, linked.held_last, List.countP_append, noRelease, List.countP_map,
    ← linked.toNat_held, ← linked.count_opens]
  rfl

end Linked

namespace Act

variable {accessors : List (List Call)}

/-- The acts with accessors one after the other. -/
theorem balanced_flatMap (linked : ∀ calls ∈ accessors, ∃ held, Linked false calls held) :
    Balanced (accessors.flatMap ofAccessor) ∧ held (accessors.flatMap ofAccessor) = false := by
  induction accessors with
  | nil => exact ⟨.done, rfl⟩
  | cons calls rest ih =>
    obtain ⟨⟨held, isLinked⟩, others⟩ := List.forall_mem_cons.mp linked
    obtain ⟨later, finds⟩ := ih others
    rw [List.flatMap_cons]
    exact isLinked.balanced_ofAccessor finds later

theorem countP_flatMap (linked : ∀ calls ∈ accessors, ∃ held, Linked false calls held) :
    (accessors.flatMap ofAccessor).countP opens =
      accessors.countP fun calls => calls.any Call.opens := by
  induction accessors with
  | nil => rfl
  | cons calls rest ih =>
    obtain ⟨⟨held, isLinked⟩, others⟩ := List.forall_mem_cons.mp linked
    rw [List.flatMap_cons, List.countP_append, isLinked.countP_ofAccessor, ih others,
      List.countP_cons, Nat.add_comm]
    cases calls.any Call.opens <;> rfl

end Act

/-! ## Steps -/

/-- Workers with the acts that they have before them, and the store that they share. -/
structure Sharing where
  workers : List (List Act)
  store : Store

namespace Sharing

/-- What happens next: one of the workers acts, or someone else does who counts no transactions. -/
inductive Step : Sharing → Sharing → Prop
  | act {front back : List (List Act)} {act : Act} {rest : List Act} {store next : Store}
    (leads : act.Leads store next) :
    Step ⟨front ++ (act :: rest) :: back, store⟩ ⟨front ++ rest :: back, next⟩
  | aside {workers : List (List Act)} {store next : Store} (begun : next.begun = store.begun)
    (opened : next.opened = store.opened) : Step ⟨workers, store⟩ ⟨workers, next⟩

/-- What happens in the course of time. -/
abbrev Run : Sharing → Sharing → Prop := Relation.ReflTransGen Step

/-- The workers do all their acts, by turns, and leave the store. -/
def Ends (workers : List (List Act)) (store after : Store) : Prop :=
  ∃ left, (∀ acts ∈ left, acts = []) ∧ Run ⟨workers, store⟩ ⟨left, after⟩

/-- How many of the workers hold a transaction. -/
def held (workers : List (List Act)) : Nat := workers.countP Act.held

/-- How many transactions the workers have yet to open. -/
def unbegun (workers : List (List Act)) : Nat := workers.flatten.countP Act.opens

/-- The workers release what they open, and the counters show what they hold, and what they have
opened. -/
structure Counted (opened begun : Nat) (sharing : Sharing) : Prop where
  balanced : ∀ acts ∈ sharing.workers, Act.Balanced acts
  opened : sharing.store.opened = opened + held sharing.workers
  begun : sharing.store.begun + unbegun sharing.workers = begun

section

variable {opened begun : Nat} {one other : Sharing} {workers front back : List (List Act)}
  {acts : List Act} {store after : Store}

theorem held_append : held (front ++ acts :: back) =
    (Act.held acts).toNat + (held front + held back) := by
  have first : (if Act.held acts = true then 1 else 0) = (Act.held acts).toNat := by
    cases Act.held acts <;> rfl
  rw [held, held, held, List.countP_append, List.countP_cons, first]
  omega

theorem unbegun_append : unbegun (front ++ acts :: back) =
    acts.countP Act.opens + (unbegun front + unbegun back) := by
  rw [unbegun, List.flatten_append, List.flatten_cons, List.countP_append, List.countP_append,
    Nat.add_left_comm]
  rfl

/-- Workers that hold nothing. -/
theorem held_eq_zero (free : ∀ acts ∈ workers, Act.held acts = false) : held workers = 0 :=
  List.countP_eq_zero.mpr fun acts listed => Bool.eq_false_iff.mp (free acts listed)

/-- Workers that have nothing before them. -/
theorem unbegun_eq_zero (done : ∀ acts ∈ workers, acts = []) : unbegun workers = 0 := by
  rw [unbegun, List.flatten_eq_nil_iff.mpr done, List.countP_nil]

/-- A step keeps the count. -/
theorem Counted.step (counted : Counted opened begun one) (step : Step one other) :
    Counted opened begun other := by
  obtain ⟨balanced, isOpened, isBegun⟩ := counted
  cases step with
  | aside sameBegun sameOpened =>
    exact ⟨balanced, sameOpened.trans isOpened, sameBegun ▸ isBegun⟩
  | @act front back act rest store next leads =>
    obtain ⟨ofFront, others⟩ := List.forall_mem_append.mp balanced
    obtain ⟨ofActs, ofBack⟩ := List.forall_mem_cons.mp others
    have balancedAfter (later : Act.Balanced rest) :
        ∀ acts ∈ front ++ rest :: back, Act.Balanced acts :=
      List.forall_mem_append.mpr ⟨ofFront, List.forall_mem_cons.mpr ⟨later, ofBack⟩⟩
    dsimp only at isOpened isBegun
    rw [held_append] at isOpened
    rw [unbegun_append, List.countP_cons] at isBegun
    cases ofActs with
    | @call made rest lawful leaves later =>
      cases leads
      have isHeld := lawful.toNat_held
      have opens : (if Act.opens (.call made) = true then 1 else 0) = made.opens.toNat := by
        rw [Act.opens]
        cases made.opens <;> rfl
      rw [Act.held] at isOpened
      rw [opens] at isBegun
      refine ⟨balancedAfter later, ?_, ?_⟩
      · rw [held_append, leaves, lawful.opened]
        omega
      · rw [unbegun_append, lawful.begun]
        omega
    | release leaves later =>
      cases leads
      have isHeld : (Act.held (.release :: rest)).toNat = 1 := rfl
      refine ⟨balancedAfter later, ?_, isBegun ▸ ?_⟩
      · have released : store.closeTransaction.opened = store.opened - 1 := rfl
        rw [held_append, leaves, released, Bool.toNat_false]
        omega
      · exact congrArg (store.begun + ·) unbegun_append

/-- A run keeps the count. -/
theorem Counted.run (counted : Counted opened begun one) (run : Run one other) :
    Counted opened begun other := by
  induction run with
  | refl => exact counted
  | tail _ step ih => exact ih.step step

/-- Once the workers have done all that they had to do with accessors of their own, as many
transactions are open as before, and one more has been begun for each accessor with a call that
opened one. -/
theorem Ends.counters {accessors : List (List (List Call))}
    (ends : Ends (accessors.map (List.flatMap Act.ofAccessor)) store after)
    (linked : ∀ worker ∈ accessors, ∀ calls ∈ worker, ∃ held, Linked false calls held) :
    after.opened = store.opened ∧ after.begun =
      store.begun + accessors.flatten.countP fun calls => calls.any Call.opens := by
  obtain ⟨left, done, run⟩ := ends
  have free : held (accessors.map (List.flatMap Act.ofAccessor)) = 0 := by
    refine held_eq_zero fun acts listed => ?_
    obtain ⟨worker, isWorker, rfl⟩ := List.mem_map.mp listed
    exact (Act.balanced_flatMap (linked worker isWorker)).2
  have toBegin : unbegun (accessors.map (List.flatMap Act.ofAccessor)) =
      accessors.flatten.countP fun calls => calls.any Call.opens := by
    have all : ∀ calls ∈ accessors.flatten, ∃ held, Linked false calls held := by
      intro calls listed
      obtain ⟨worker, isWorker, isCalls⟩ := List.mem_flatten.mp listed
      exact linked worker isWorker calls isCalls
    rw [unbegun, ← Act.countP_flatMap all, ← List.flatMap_def, ← List.flatMap_id,
      List.flatMap_assoc]
    rfl
  have start : Counted store.opened (store.begun + unbegun
      (accessors.map (List.flatMap Act.ofAccessor)))
      ⟨accessors.map (List.flatMap Act.ofAccessor), store⟩ := by
    refine ⟨fun acts listed => ?_, ?_, rfl⟩
    · obtain ⟨worker, isWorker, rfl⟩ := List.mem_map.mp listed
      exact (Act.balanced_flatMap (linked worker isWorker)).1
    · rw [free]
      rfl
  obtain ⟨-, opened, begun⟩ := start.run run
  have noneHeld : held left = 0 := held_eq_zero fun acts isLeft => done acts isLeft ▸ rfl
  rw [noneHeld] at opened
  rw [unbegun_eq_zero done, toBegin] at begun
  exact ⟨opened, begun⟩

end

/-! ## One worker -/

variable {acts left later : List Act} {store next : Store}

/-- A worker acts. -/
theorem Run.act {act : Act} (leads : act.Leads store next) :
    Run ⟨[act :: later], store⟩ ⟨[later], next⟩ := by
  have step : Step ⟨[] ++ (act :: later) :: [], store⟩ ⟨[] ++ later :: [], next⟩ := .act leads
  exact .single step

/-- What a worker has to do later does not keep it from acting. -/
theorem Run.append (run : Run ⟨[acts], store⟩ ⟨[left], next⟩) :
    Run ⟨[acts ++ later], store⟩ ⟨[left ++ later], next⟩ := by
  let extended (sharing : Sharing) : Sharing :=
    ⟨sharing.workers.map fun acts => acts ++ later, sharing.store⟩
  have steps (one other : Sharing) (step : Step one other) :
      Step (extended one) (extended other) := by
    cases step with
    | aside begun opened => exact .aside begun opened
    | act leads =>
      simp only [extended, List.map_append, List.map_cons, List.cons_append]
      exact .act leads
  exact run.lift extended steps

/-! ## Schedules -/

deriving instance DecidableEq for Store

/-- A worker does its next act, if the store is as the act finds it. -/
def turn (sharing : Sharing) (worker : Nat) : Option Sharing :=
  match sharing.workers[worker]? with
  | some (.call made :: rest) =>
    if made.before.store = sharing.store then
      some ⟨sharing.workers.set worker rest, made.after.store⟩
    else none
  | some (.release :: rest) =>
    some ⟨sharing.workers.set worker rest, sharing.store.closeTransaction⟩
  | _ => none

variable {one other : Sharing}

theorem step_of_getElem? {act : Act} {rest : List Act} {worker : Nat}
    (isNext : one.workers[worker]? = some (act :: rest)) (leads : act.Leads one.store next) :
    Step one ⟨one.workers.set worker rest, next⟩ := by
  obtain ⟨workers, store⟩ := one
  obtain ⟨inside, isActs⟩ := List.getElem?_eq_some_iff.mp isNext
  have whole : workers.take worker ++ (act :: rest) :: workers.drop (worker + 1) = workers := by
    rw [← isActs, List.getElem_cons_drop, List.take_append_drop]
  have step : Step ⟨workers.take worker ++ (act :: rest) :: workers.drop (worker + 1), store⟩
      ⟨workers.take worker ++ rest :: workers.drop (worker + 1), next⟩ := .act leads
  rw [whole] at step
  rw [List.set_eq_take_append_cons_drop, if_pos inside]
  exact step

theorem step_of_turn {worker : Nat} (acts : one.turn worker = some other) : Step one other := by
  unfold turn at acts
  split at acts
  · rename_i made rest isNext
    split at acts
    · rename_i finds
      cases acts
      exact step_of_getElem? isNext (finds ▸ .call made)
    · cases acts
  · rename_i rest isNext
    cases acts
    exact step_of_getElem? isNext (.release _)
  · cases acts

theorem run_of_turns {schedule : List Nat} (acts : schedule.foldlM turn one = some other) :
    Run one other := by
  induction schedule generalizing one with
  | nil =>
    cases acts
    exact .refl
  | cons worker rest ih =>
    rw [List.foldlM_cons] at acts
    obtain ⟨middle, first, later⟩ := Option.bind_eq_some_iff.mp acts
    exact .head (step_of_turn first) (ih later)

/-- Workers that do all their acts by a schedule. -/
theorem ends_of_turns {workers : List (List Act)} {schedule : List Nat}
    (done : ((schedule.foldlM turn ⟨workers, store⟩).any fun sharing =>
      sharing.workers.all List.isEmpty) = true) : ∃ after, Ends workers store after := by
  obtain ⟨ended, acts, isDone⟩ := (Option.any_eq_true _ _).mp done
  refine ⟨ended.store, ended.workers, fun left isLeft => ?_, run_of_turns acts⟩
  exact List.isEmpty_iff.mp (List.all_eq_true.mp isDone left isLeft)

end Sharing

end Ingest

/-- Others count no transactions: they open and release none, whatever else they do. -/
structure Others.Aside (others : Others) : Prop where
  begun : ∀ count store, (others count store).begun = store.begun
  opened : ∀ count store, (others count store).opened = store.opened

namespace Ingest

/-- A session that was started on a store, beside earlier calls: the calls since then are linked,
and if others count no transactions, they are acts of a worker. -/
def Since (others : Others) (store : Store) (earlier : List Call) (state : Session × List Call) :
    Prop :=
  ∃ calls, state.2 = earlier ++ calls ∧ Linked false calls state.1.held ∧
    (others.Aside → Sharing.Run ⟨[calls.map .call], store⟩ ⟨[[]], state.1.store⟩)

variable {others : Others} {store : Store} {earlier : List Call}

theorem Since.start (others : Others) (store : Store) (earlier : List Call) :
    Since others store earlier (.start store, earlier) :=
  ⟨[], (List.append_nil earlier).symm, .none, fun _ => .refl⟩

theorem Since.step {session : Session} {calls : List Call} {call : Call}
    (since : Since others store earlier (session, calls))
    (before : call.before = session.meanwhile (others calls.length)) (lawful : call.Lawful) :
    Since others store earlier (call.after, calls ++ [call]) := by
  obtain ⟨new, isNew, linked, runs⟩ := since
  have sameHeld : call.before.held = session.held := by
    rw [before]
    rfl
  refine ⟨new ++ [call], ?_, .snoc (sameHeld ▸ linked) lawful, fun aside => ?_⟩
  · rw [← List.append_assoc, ← isNew]
  · have asideStep : Sharing.Step ⟨[[.call call]], session.store⟩
        ⟨[[.call call]], call.before.store⟩ := by
      rw [before]
      exact .aside (aside.begun _ _) (aside.opened _ _)
    rw [List.map_append]
    exact ((runs aside).append.tail asideStep).trans (Sharing.Run.act (.call call))

/-- The accessor of a scope keeps what is true since a start. -/
theorem Scope.shared_since (scope : Scope) (others : Others) (store : Store)
    (earlier : List Call) : (scope.accessor.shared others).Agrees
      (fun shared other => shared = other ∧ Since others store earlier shared)
      (scope.accessor.shared others) :=
  scope.shared_keeps others fun _ _ _ since before lawful => since.step before lawful

theorem Session.release_begun (session : Session) :
    session.release.begun = session.store.begun := by
  unfold Session.release
  split <;> rfl

/-- When the accessor is given up, the worker has done what it does with an accessor. -/
theorem Since.release {state : Session × List Call} (since : Since others store earlier state) :
    ∃ calls, state.2 = earlier ++ calls ∧ Linked false calls state.1.held ∧ (others.Aside →
      Sharing.Run ⟨[Act.ofAccessor calls], store⟩ ⟨[[]], state.1.release⟩) := by
  obtain ⟨calls, isCalls, linked, runs⟩ := since
  refine ⟨calls, isCalls, linked, fun aside => ?_⟩
  rw [Act.ofAccessor, linked.held_last, Session.release]
  split
  · exact (runs aside).append.trans (Sharing.Run.act (.release _))
  · rw [List.append_nil]
    exact runs aside

end Ingest

end RiskScoring
