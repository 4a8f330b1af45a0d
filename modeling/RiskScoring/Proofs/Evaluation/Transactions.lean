import RiskScoring.Proofs.Evaluation.Shared

/-!
# The transaction of an accessor

An accessor holds no transaction at first, asks for one at each read of the store until one is
opened, and keeps that for all reads that follow, failed ones included. This is said of one call
first, then of the calls of a run, whatever others do between them: which reads and which openings
fail is up to them.

* `Ingest.Call.isRead`, `Ingest.Call.asks`, `Ingest.Call.opens`: what a call does.
* `Ingest.Call.Lawful`, `Ingest.Scope.read_lawful`: what is true of every call.
* `Ingest.Linked`: calls that find the transaction as the call before has left it.
* `Ingest.Transacted`, `Ingest.Linked.transacted`: what such calls show of the transaction.
* `Ingest.Scope.shared_keeps`: what each call keeps, a run of calls keeps.
-/

namespace RiskScoring

namespace Ingest

/-! ## One call -/

namespace Call

/-- The call is a read of the store. -/
def isRead (call : Call) : Bool :=
  match call.access with
  | .stored .. => true
  | _ => false

/-- The call asked for a transaction. -/
def asks (call : Call) : Bool := decide (call.before.store.asked < call.after.store.asked)

/-- The call opened a transaction. -/
def opens (call : Call) : Bool := decide (call.before.store.begun < call.after.store.begun)

/-- What is true of every call. It asks for a transaction if it reads the store and none is held; it
fails if it gets none; and the transaction that it opens is held and counted. -/
structure Lawful (call : Call) : Prop where
  asks : call.asks = (call.isRead && !call.before.held)
  opens : call.opens = true → call.asks = true
  refused : call.asks = true → call.opens = false → call.failed = true
  held : call.after.held = (call.before.held || call.opens)
  begun : call.after.store.begun = call.before.store.begun + call.opens.toNat
  opened : call.after.store.opened = call.before.store.opened + call.opens.toNat

/-- A call that leaves the session as it is. -/
theorem Lawful.of_still {access : Access} (session : Session) (failed : Bool)
    (noRead : (Call.mk access session session failed).isRead = false) :
    (Call.mk access session session failed).Lawful where
  asks := by simp [Call.asks, noRead]
  opens opened := by simp [Call.opens] at opened
  refused asked := by simp [Call.asks] at asked
  held := by simp [Call.opens]
  begun := by simp [Call.opens]
  opened := by simp [Call.opens]

end Call

namespace Session

/-- A transaction is held already. -/
theorem acquire_of_held {session : Session} (held : session.held = true) :
    session.acquire = (.ok (), session) := by
  rw [acquire, if_pos held]

/-- No transaction is held, and one is opened. -/
theorem acquire_of_opened {session : Session} (free : session.held = false)
    (opens : session.store.failingOpenings = 0) :
    session.acquire = (.ok (), ⟨{ session.store with
      asked := session.store.asked + 1
      begun := session.store.begun + 1
      opened := session.store.opened + 1 }, true⟩) := by
  rw [acquire, if_neg (by rw [free]; exact Bool.false_ne_true), Store.openTransaction]
  simp only [if_pos opens]

/-- No transaction is held, and the opening fails. -/
theorem acquire_of_refused {session : Session} (free : session.held = false)
    (fails : session.store.failingOpenings ≠ 0) :
    session.acquire = (.error .cannotOpen, ⟨{ session.store with
      asked := session.store.asked + 1
      failingOpenings := session.store.failingOpenings - 1 }, false⟩) := by
  rw [acquire, if_neg (by rw [free]; exact Bool.false_ne_true), Store.openTransaction]
  simp only [if_neg fails]

end Session

namespace Scope

variable {session next : Session}

/-- A read inside of a transaction leaves the counters of transactions as they are. -/
theorem read_of_acquired (scope : Scope) (path : List String) (name : String)
    (acquires : session.acquire = (.ok (), next)) :
    ∃ answer store, scope.read path name session = (answer, { next with store }) ∧
      store.begun = next.store.begun ∧ store.opened = next.store.opened ∧
      store.asked = next.store.asked := by
  unfold read
  rw [acquires]
  simp only [Store.readField]
  by_cases fails : next.store.failingReads = 0
  · simp only [if_pos fails]
    cases lookup next.store.rows scope.organization scope.model scope.payload path name with
    | error error => exact ⟨_, _, rfl, rfl, rfl, rfl⟩
    | ok value? => exact ⟨_, _, rfl, rfl, rfl, rfl⟩
  · simp only [if_neg fails]
    exact ⟨_, _, rfl, rfl, rfl, rfl⟩

/-- A read without a transaction fails. -/
theorem read_of_refused (scope : Scope) (path : List String) (name : String) {error : StorageError}
    (refuses : session.acquire = (.error error, next)) :
    scope.read path name session = (.error (.readFailed error), next) := by
  unfold read
  rw [refuses]

/-- What is true of a read: a transaction is held, or one is opened, or the opening fails. -/
theorem read_lawful (scope : Scope) (path : List String) (name : String) (session : Session) :
    (Call.mk (.stored path name) session (scope.read path name session).2
      (!(scope.read path name session).1.isOk)).Lawful := by
  cases held : session.held with
  | true =>
    obtain ⟨answer, store, reads, begun, opened, asked⟩ :=
      scope.read_of_acquired path name (Session.acquire_of_held held)
    rw [reads]
    constructor <;> simp [Call.asks, Call.opens, Call.isRead, begun, opened, asked, held]
  | false =>
    by_cases opens : session.store.failingOpenings = 0
    · obtain ⟨answer, store, reads, begun, opened, asked⟩ :=
        scope.read_of_acquired path name (Session.acquire_of_opened held opens)
      rw [reads]
      constructor <;> simp [Call.asks, Call.opens, Call.isRead, begun, opened, asked, held]
    · rw [scope.read_of_refused path name (Session.acquire_of_refused held opens)]
      constructor <;> simp [Call.asks, Call.opens, Call.isRead, held, Except.isOk, Except.toBool]

end Scope

/-! ## Calls one after the other -/

/-- Calls one after the other, from whether a transaction is held before them to whether one is held
after them. Each is as every call, and finds the transaction as the call before has left it. -/
inductive Linked (held : Bool) : List Call → Bool → Prop
  | none : Linked held [] held
  | snoc {calls : List Call} {call : Call} (earlier : Linked held calls call.before.held)
    (lawful : call.Lawful) : Linked held (calls ++ [call]) call.after.held

namespace Linked

variable {held last : Bool} {calls : List Call} {call : Call} {index : Nat}

/-- A transaction is held exactly if a call has opened one, and that was the only one. -/
theorem count_opens (linked : Linked false calls held) :
    calls.countP Call.opens = held.toNat := by
  induction linked with
  | none => rfl
  | @snoc calls call earlier lawful ih =>
    rw [List.countP_append, ih, lawful.held, List.countP_singleton]
    cases holds : call.before.held with
    | false => cases call.opens <;> rfl
    | true =>
      -- a call that finds a transaction asks for none, so it opens none
      have notAsked : call.asks = false := by
        rw [lawful.asks, holds, Bool.not_true, Bool.and_false]
      have notOpened : call.opens = false := by
        rw [Bool.eq_false_iff]
        intro opens
        rw [lawful.opens opens] at notAsked
        cases notAsked
      rw [notOpened]
      rfl

/-- What a call has found: it is as every call, and the calls before it lead to it. -/
theorem at_call (linked : Linked held calls last) (found : calls[index]? = some call) :
    Linked held (calls.take index) call.before.held ∧ call.Lawful := by
  induction linked with
  | none => cases found
  | @snoc calls lastCall earlier lawful ih =>
    rcases Nat.lt_trichotomy index calls.length with inside | atEnd | outside
    · rw [List.getElem?_append_left inside] at found
      rw [List.take_append_of_le_length (Nat.le_of_lt inside)]
      exact ih found
    · subst atEnd
      rw [List.getElem?_concat_length] at found
      cases found
      rw [List.take_left]
      exact ⟨earlier, lawful⟩
    · rw [List.getElem?_eq_none (by rw [List.length_append]; exact outside)] at found
      cases found

theorem held_iff (linked : Linked false calls held) :
    held = true ↔ ∃ call ∈ calls, call.opens = true := by
  rw [← List.countP_pos_iff, linked.count_opens]
  cases held <;> simp

/-- A call finds a transaction exactly if one before it has opened one. -/
theorem before_held_iff (linked : Linked false calls held) (found : calls[index]? = some call) :
    call.before.held = true ↔ ∃ earlier ∈ calls.take index, earlier.opens = true :=
  (linked.at_call found).1.held_iff

theorem lawful_of_mem (linked : Linked held calls last) (listed : call ∈ calls) : call.Lawful := by
  obtain ⟨index, found⟩ := List.mem_iff_getElem?.mp listed
  exact (linked.at_call found).2

end Linked

theorem Call.Lawful.isRead_of_asks {call : Call} (lawful : call.Lawful)
    (asks : call.asks = true) : call.isRead = true ∧ call.before.held = false := by
  rw [lawful.asks] at asks
  simpa using asks

/-- What the calls through an accessor show of its transaction. -/
structure Transacted (calls : List Call) (held : Bool) : Prop where
  /-- A transaction is held afterwards exactly if some opening has succeeded. -/
  held_iff : held = true ↔ ∃ call ∈ calls, call.opens = true
  /-- An opening succeeds once at most. -/
  once : calls.countP Call.opens ≤ 1
  /-- It does so at a read of the store. -/
  atRead : ∀ call ∈ calls, call.opens = true → call.isRead = true
  /-- A read asks for a transaction exactly if no opening before it has succeeded. -/
  asks_iff : ∀ (index : Nat) (call : Call), calls[index]? = some call → call.isRead = true →
    (call.asks = true ↔ ∀ earlier ∈ calls.take index, earlier.opens = false)
  /-- A failed opening fails the call and leaves nothing held, and the next read asks again. -/
  refused : ∀ (index : Nat) (call : Call), calls[index]? = some call → call.asks = true →
    call.opens = false → call.failed = true ∧ call.after.held = false ∧
      ∀ (next : Nat) (later : Call), calls[next]? = some later → index < next →
        later.isRead = true → (∀ (between : Nat) (other : Call), index < between →
          between < next → calls[between]? = some other → other.isRead = false) →
        later.asks = true
  /-- A read that fails inside of a transaction keeps it for all calls that follow. -/
  kept : ∀ (index : Nat) (call : Call), calls[index]? = some call → call.isRead = true →
    call.failed = true → (call.before.held = true ∨ call.opens = true) →
      call.after.held = true ∧ ∀ (next : Nat) (later : Call), calls[next]? = some later →
        index < next →
          later.before.held = true ∧ later.asks = false ∧ later.after.held = true

namespace Linked

variable {held : Bool} {calls : List Call} {call : Call} {index : Nat}

theorem asks_iff (linked : Linked false calls held) (found : calls[index]? = some call)
    (isRead : call.isRead = true) :
    call.asks = true ↔ ∀ earlier ∈ calls.take index, earlier.opens = false := by
  obtain ⟨before, lawful⟩ := linked.at_call found
  rw [lawful.asks, isRead, Bool.true_and, Bool.not_eq_true', Bool.eq_false_iff, ne_eq,
    before.held_iff]
  simp

/-- A call that comes after one that opened a transaction, or found one, finds it. -/
theorem before_held_of_earlier (linked : Linked false calls held)
    (found : calls[index]? = some call) (holds : call.before.held = true ∨ call.opens = true)
    {next : Nat} {later : Call} (foundLater : calls[next]? = some later) (after : index < next) :
    later.before.held = true := by
  rw [linked.before_held_iff foundLater]
  rcases holds with holds | opens
  · obtain ⟨earlier, listed, opened⟩ := (linked.before_held_iff found).mp holds
    refine ⟨earlier, ?_, opened⟩
    exact List.take_subset_take_left calls (Nat.le_of_lt after) listed
  · refine ⟨call, List.mem_of_getElem? (i := index) ?_, opens⟩
    rw [List.getElem?_take_of_lt after, found]

/-- As long as no read comes between, no opening does. -/
theorem asks_of_refused (linked : Linked false calls held) (found : calls[index]? = some call)
    (asks : call.asks = true) (fails : call.opens = false) {next : Nat} {later : Call}
    (foundLater : calls[next]? = some later) (isRead : later.isRead = true)
    (silent : ∀ (between : Nat) (other : Call), index < between → between < next →
      calls[between]? = some other → other.isRead = false) : later.asks = true := by
  obtain ⟨before, lawful⟩ := linked.at_call found
  rw [linked.asks_iff foundLater isRead]
  intro earlier listed
  obtain ⟨place, foundEarlier⟩ := List.mem_iff_getElem?.mp listed
  have inside : place < next := by
    have bound := (List.getElem?_eq_some_iff.mp foundEarlier).1
    rw [List.length_take] at bound
    exact Nat.lt_of_lt_of_le bound (Nat.min_le_left _ _)
  rw [List.getElem?_take_of_lt inside] at foundEarlier
  rcases Nat.lt_trichotomy place index with first | here | last
  · have isFree := (linked.asks_iff found (lawful.isRead_of_asks asks).1).mp asks
    refine isFree earlier (List.mem_of_getElem? (i := place) ?_)
    rw [List.getElem?_take_of_lt first, foundEarlier]
  · subst here
    rw [found] at foundEarlier
    cases foundEarlier
    exact fails
  · have noRead := silent place earlier last inside foundEarlier
    have lawfulEarlier := (linked.at_call foundEarlier).2
    rw [Bool.eq_false_iff]
    intro opens
    rw [(lawfulEarlier.isRead_of_asks (lawfulEarlier.opens opens)).1] at noRead
    cases noRead

theorem transacted (linked : Linked false calls held) : Transacted calls held where
  held_iff := linked.held_iff
  once := by
    rw [linked.count_opens]
    cases held <;> decide
  atRead call listed opens := by
    have lawful := linked.lawful_of_mem listed
    exact (lawful.isRead_of_asks (lawful.opens opens)).1
  asks_iff _ _ found isRead := linked.asks_iff found isRead
  refused index call found asks fails := by
    have lawful := (linked.at_call found).2
    refine ⟨lawful.refused asks fails, ?_, ?_⟩
    · rw [lawful.held, (lawful.isRead_of_asks asks).2, fails]
      rfl
    · intro next later foundLater _ isRead silent
      exact linked.asks_of_refused found asks fails foundLater isRead silent
  kept index call found _ _ holds := by
    refine ⟨?_, fun next later foundLater after => ?_⟩
    · rw [(linked.at_call found).2.held, Bool.or_eq_true]
      exact holds
    · have holdsLater := linked.before_held_of_earlier found holds foundLater after
      have lawful := (linked.at_call foundLater).2
      refine ⟨holdsLater, ?_, ?_⟩
      · rw [lawful.asks, holdsLater, Bool.not_true, Bool.and_false]
      · rw [lawful.held, holdsLater, Bool.true_or]

end Linked

/-! ## Calls on a shared store -/

namespace Scope

variable {others : Others} {keeps : Session × List Call → Prop}

/-- What each call keeps, the accessor keeps. -/
theorem shared_keeps (scope : Scope) (others : Others)
    (step : ∀ session calls call, keeps (session, calls) →
      call.before = session.meanwhile (others calls.length) → call.Lawful →
      keeps (call.after, calls ++ [call])) :
    (scope.accessor.shared others).Agrees (fun shared other => shared = other ∧ keeps shared)
      (scope.accessor.shared others) where
  payloadField name := by
    rintro ⟨session, calls⟩ _ ⟨rfl, holds⟩
    refine ⟨rfl, rfl, ?_⟩
    exact step session calls _ holds rfl (.of_still _ _ rfl)
  checkStored path name type := by
    rintro ⟨session, calls⟩ _ ⟨rfl, holds⟩
    refine ⟨rfl, rfl, ?_⟩
    let before := session.meanwhile (others calls.length)
    let ended := (scope.accessor.checkStored path name type).run.run before
    have still : ended = (scope.check path name type, before) :=
      scope.run_checkStored path name type before
    have lawful : (Call.mk (.check path name type) before ended.2 (!ended.1.isOk)).Lawful := by
      rw [still]
      exact .of_still _ _ rfl
    exact step session calls _ holds rfl lawful
  storedField path name := by
    rintro ⟨session, calls⟩ _ ⟨rfl, holds⟩
    refine ⟨rfl, rfl, ?_⟩
    exact step session calls _ holds rfl (scope.read_lawful path name _)

end Scope

end Ingest

end RiskScoring
