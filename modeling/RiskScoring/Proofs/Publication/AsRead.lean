import RiskScoring.Proofs.Publication.Answers
import RiskScoring.Proofs.Publication.Linearizability
import RiskScoring.Proofs.Publication.Recorded

/-!
# Going live as read

An attempt to publish reads an iteration, checks that it may be published, and commits. The commit
goes through only if the iteration still has the time of its last change that was read. An edit
gives it a later one, whatever the clock says, but a commit gives it the time that the clock shows.
So the iteration goes live as it was read, unless a commit has turned its time back in between.

* `Iteration.Since`: an iteration is as it was read, or its last change is later.
* `System.Reachable.since_step`, `System.Reachable.since_run`: it stays so, unless a commit turns
  the time back.
* `System.Attempt.goes_live_as_read`: the iteration that an attempt makes live.
* `System.goes_live_edited`: where the clock stands still, an edit goes live that the attempt has
  not read.
-/

namespace RiskScoring

/-! ## Since it was read -/

/-- The iteration is as it was read, or the time of its last change is later. -/
def Iteration.Since (read stored : Iteration) : Prop :=
  stored = read ∨ read.updatedAt.before stored.updatedAt = true

theorem Iteration.Since.eq_of_updatedAt {read stored : Iteration} (since : read.Since stored)
    (unchanged : stored.updatedAt = read.updatedAt) : stored = read := by
  rcases since with same | later
  · exact same
  · rw [unchanged, Instant.before_irrefl] at later
    cases later

/-- An edit makes the time of the last change later, whatever the clock says. -/
theorem Iteration.Since.edit {read stored : Iteration} (since : read.Since stored)
    (edit : IterationEdit) (ids : Nat → Uuid) (now : Instant) :
    read.Since (edit.applyTo stored ids (now.later stored.updatedAt.next)) := by
  have later : stored.updatedAt.before (now.later stored.updatedAt.next) = true :=
    Instant.before_later_next now stored.updatedAt
  rcases since with rfl | changed
  · exact Or.inr later
  · exact Or.inr (Instant.before_trans changed later)

namespace System

variable {system : System} {read stored : Iteration}

/-- A client's commit moves the iteration, and the time that it gets is not later than the one that
was read. -/
structure TurnsBack (system : System) (client : Nat) (given : Stamp) (read : Iteration) : Prop where
  commits : ∃ change, system.Commits client given change ∧
    read.id ∈ change.transitions.map Prod.fst
  notLater : read.updatedAt.before given.now = false

/-- One event leaves the iteration as it was read, or makes its last change later, or is a commit
that turns the time back. -/
theorem Reachable.since_step (reachable : system.Reachable) {event : Event}
    (fresh : event.Fresh system.store)
    (found : system.store.iterations.get? read.id = some stored) (since : read.Since stored) :
    (∃ later, (system.step event).store.iterations.get? read.id = some later ∧ read.Since later) ∨
      ∃ client given, event = .serve client given ∧ system.TurnsBack client given read := by
  cases event with
  | createScenario given draft => exact Or.inl ⟨stored, found, since⟩
  | createIteration given scenario draft =>
    refine Or.inl ⟨stored, ?_, since⟩
    show (system.store.createIteration given scenario draft).2.iterations.get? read.id = some stored
    unfold ScenarioStore.createIteration
    split
    · exact found
    · exact Dict.get?_insert_of_fresh fresh found _
  | updateIteration given edited edit =>
    have step_store : (system.step (.updateIteration given edited edit)).store =
        (system.store.updateIteration given edited edit).2 := rfl
    rcases system.store.updateIteration_cases given edited edit with
      same | ⟨draft, foundDraft, -, applied⟩
    · rw [step_store, same]
      exact Or.inl ⟨stored, found, since⟩
    · rw [step_store, applied]
      by_cases isEdited : edited = read.id
      · subst isEdited
        rw [found] at foundDraft
        cases foundDraft
        exact Or.inl ⟨_, by rw [Dict.get?_insert, if_pos rfl],
          since.edit edit given.parts given.now⟩
      · exact Or.inl ⟨stored, by rw [Dict.get?_insert, if_neg isEdited, found], since⟩
  | injectConflicts count => exact Or.inl ⟨stored, found, since⟩
  | arrive errand => exact Or.inl ⟨stored, found, since⟩
  | serve client given =>
    rcases system.serve_cases client given with ⟨change, commits, applied⟩ | ⟨left, same⟩
    · rw [applied]
      by_cases named : read.id ∈ change.transitions.map Prod.fst
      · by_cases isLater : read.updatedAt.before given.now = true
        · obtain ⟨next, present⟩ := exists_of_asked commits.asks
          obtain ⟨goal, grounds⟩ := reachable.exists_grounds present
          have swap : change.IsSwap := (grounds.allows reachable.sound.consistent).swap
          obtain ⟨⟨id, state⟩, listed, isRead⟩ := List.mem_map.mp named
          rw [show read.id = id from isRead.symm] at found ⊢
          exact Or.inl ⟨_, ScenarioStore.applyCommit_of_mem swap given.now listed found,
            Or.inr isLater⟩
        · exact Or.inr ⟨client, given, rfl, ⟨change, commits, named⟩,
            Bool.eq_false_iff.mpr isLater⟩
      · exact Or.inl ⟨stored, by rw [ScenarioStore.applyCommit_of_not_mem given.now named, found],
          since⟩
    · rw [same]
      exact Or.inl ⟨stored, found, since⟩

/-- The same for all events of a run. -/
theorem Reachable.since_run (reachable : system.Reachable) {events : List Event}
    (admits : system.Admits events) (found : system.store.iterations.get? read.id = some stored)
    (since : read.Since stored) :
    (∃ later, (system.run events).store.iterations.get? read.id = some later ∧ read.Since later) ∨
      ∃ before client given after, events = before ++ .serve client given :: after ∧
        (system.run before).TurnsBack client given read := by
  induction events generalizing system stored with
  | nil => exact Or.inl ⟨stored, found, since⟩
  | cons event events ih =>
    rcases reachable.since_step admits.1 found since with
      ⟨later, foundLater, sinceLater⟩ | ⟨client, given, rfl, turnsBack⟩
    · rcases ih (.step reachable admits.1) admits.2 foundLater sinceLater with
        stays | ⟨before, client, given, after, rfl, turnsBack⟩
      · exact Or.inl stays
      · exact Or.inr ⟨event :: before, client, given, after, rfl, turnsBack⟩
    · exact Or.inr ⟨[], client, given, events, rfl, turnsBack⟩

end System

/-! ## What an attempt commits -/

namespace Publisher

/-- What is left of an attempt to publish after its first answer. -/
def publishRead (read : Iteration) : Publishing (List Publication) := do
  let scenario ← Publishing.getScenario read.scenario
  if scenario.live = some read.id then return []
  else
    liftExcept read.checkPublishable
    liftExcept (read.state.checkMove .live)
    let replaced ← replaceLive scenario.live
    let rank ← Publishing.lastRank scenario.id
    let stamp ← Publishing.stamp
    submit (publishing scenario read replaced rank stamp)

theorem tryPublish_eq (id : Uuid) : tryPublish id = Publishing.getIteration id >>= publishRead :=
  rfl

/-- The commit is made from what was read, and this may be published. -/
structure FromRead (read : Iteration) (change : Commit) : Prop where
  publishable : read.checkPublishable = .ok ()
  made : ∃ scenario replaced rank stamp, change = publishing scenario read replaced rank stamp

theorem FromRead.newLive {read : Iteration} {change : Commit} (fromRead : FromRead read change) :
    change.newLive = some read.id := by
  obtain ⟨scenario, replaced, rank, stamp, rfl⟩ := fromRead.made
  rfl

theorem publishRead_meets (read : Iteration) (store : ScenarioStore) :
    (publishRead read).run.Meets ScenarioStore.Evolves (fun _ => FromRead read) (fun _ _ => True)
      store := by
  refine Publishing.meets_getScenario (fun _ => trivial) ?_
  intro first scenario _ _
  by_cases isLive : scenario.live = some read.id
  · rw [if_pos isLive]
    exact trivial
  · rw [if_neg isLive]
    refine Publishing.meets_liftExcept (fun _ => trivial) ?_
    intro _ publishable
    refine Publishing.meets_liftExcept (fun _ => trivial) ?_
    intro _ _
    refine Publishing.meets_bind (Goal.replaceLive_meets (fun _ _ _ => .trans) scenario.live)
      (fun _ => trivial) ?_
    intro second replaced _
    refine Publishing.meets_lastRank ?_
    intro third _
    refine Publishing.meets_stamp ?_
    intro fourth given _
    refine Publishing.meets_submit ?_ trivial trivial
    intro last _
    exact ⟨publishable, scenario, replaced, _, given, rfl⟩

end Publisher

namespace System

namespace Attempt

/-- As long as an attempt has requests left, its client has committed nothing in it. -/
theorem asked_ne {goal : Goal} (attempt : Attempt goal) (isOpen : attempt.rest.isDone = false)
    {before after : List Event} {given : Stamp}
    (split : attempt.events = before ++ .serve attempt.client given :: after) (change : Commit) :
    (attempt.start.run before).asked attempt.client ≠ some change := by
  intro asks
  rw [rest, split] at isOpen
  have stillOpen : (attempt.start.follow attempt.client goal.attempt.run before).isDone = false :=
    isDone_append_left isOpen
  obtain ⟨next, here⟩ := commit_of_asked (clients_run attempt.begins stillOpen) stillOpen asks
  have submits : (attempt.start.follow attempt.client goal.attempt.run before).Submits :=
    follow_submits goal.attempt_submits before
  rw [here] at submits
  -- The answer to the commit would have been its end.
  rw [follow_append, here, follow, Event.advance, if_pos rfl, Call.answer, submits,
    follow_done] at isOpen
  cases isOpen

variable {id : Uuid}

/-- After these events the attempt to publish has got its first answer. -/
structure HasRead (attempt : Attempt (.publish id)) (events : List Event) (read : Iteration) :
    Prop where
  found : (attempt.start.run events).store.iterations.get? id = some read
  goesOn : (attempt.start.run events).clients[attempt.client]? =
    some ((Publisher.publishRead read).run.bind attempt.next)

/-- An attempt that asks for its commit has got its first answer, and the commit is made from it. -/
theorem exists_read_of_commit (attempt : Attempt (.publish id)) {change : Commit}
    {next : Except StoreError Unit → Call PublicationResult}
    (asks : attempt.rest = .commit change next) :
    ∃ first later read, attempt.events = first ++ later ∧ attempt.HasRead first read ∧
      Publisher.FromRead read change := by
  have begins : attempt.start.clients[attempt.client]? =
      some ((Publishing.getIteration id >>= Publisher.publishRead).run.bind attempt.next) := by
    rw [← Publisher.tryPublish_eq]
    exact attempt.begins
  obtain ⟨first, later, read, split, found, goesOn, follows⟩ :=
    exists_getIteration begins asks (fun isRead => nomatch isRead)
      (fun _ isError => nomatch isError)
  have admits := attempt.admits
  rw [split] at admits
  have reachable : (attempt.start.run first).Reachable := attempt.reachable.run admits.append_left
  have meets := follow_meets covers_evolves reachable goesOn
    (Publisher.publishRead_meets read _) admits.append_right (by rw [follows]; rfl)
  rw [follows] at meets
  have consistent := (reachable.run admits.append_right).sound.consistent
  exact ⟨first, later, read, split, ⟨found, goesOn⟩, (meets _ ⟨.refl _, consistent⟩).1⟩

/-- A commit that is made from what was read makes live what is stored, and this has the time of its
last change that was read. -/
theorem exists_stored_of_commit {goal : Goal} (attempt : Attempt goal) {given : Stamp}
    {change : Commit} {next : Except StoreError Unit → Call PublicationResult}
    (asks : attempt.rest = .commit change next)
    (succeeds : (attempt.system.store.commit given.now change).1 = .ok ()) {read : Iteration}
    (fromRead : Publisher.FromRead read change) :
    ∃ stored, attempt.system.store.iterations.get? read.id = some stored ∧
      stored.updatedAt = read.updatedAt ∧
      (attempt.system.step (.serve attempt.client given)).store.iterations.get? read.id =
        some { stored with state := .live, updatedAt := given.now } := by
  have isOpen : attempt.rest.isDone = false := by rw [asks]; rfl
  have consistent := attempt.reachable_system.sound.consistent
  have swap : change.IsSwap := ((attempt.grounds asks).allows consistent).swap
  have asking : attempt.system.clients[attempt.client]? = some (attempt.rest.bind attempt.next) :=
    clients_run attempt.begins isOpen
  rw [asks] at asking
  obtain ⟨accepts, applied⟩ := applied_of_commit asking succeeds
  obtain ⟨scenario, replaced, rank, stamp, rfl⟩ := fromRead.made
  have named : (read.id, IterationState.live) ∈
      (Publisher.publishing scenario read replaced rank stamp).transitions :=
    List.mem_append_right _ (List.mem_singleton.mpr rfl)
  obtain ⟨stored, found, -⟩ := accepts.transitions _ named
  refine ⟨stored, found, Grounds.unchanged_of_accepts accepts found, ?_⟩
  rw [applied]
  exact ScenarioStore.applyCommit_of_mem swap given.now named found

/-- When the commit of an attempt to publish goes through, then what the attempt has read may be
published, and it goes live as it was read. The one exception is a draft that the commit of another
client has moved since it was read, at a time that is not later than that of its last change. -/
theorem goes_live_as_read (attempt : Attempt (.publish id)) {given : Stamp} {change : Commit}
    {next : Except StoreError Unit → Call PublicationResult}
    (asks : attempt.rest = .commit change next)
    (succeeds : (attempt.system.store.commit given.now change).1 = .ok ()) :
    ∃ first later read, attempt.events = first ++ later ∧ attempt.HasRead first read ∧
      read.checkPublishable = .ok () ∧ change.newLive = some id ∧
      ((attempt.system.step (.serve attempt.client given)).store.iterations.get? id =
          some { read with state := .live, updatedAt := given.now } ∨
        read.state = .draft ∧
          ∃ before other taken after, later = before ++ .serve other taken :: after ∧
            other ≠ attempt.client ∧
            (attempt.start.run (first ++ before)).TurnsBack other taken read) := by
  have isOpen : attempt.rest.isDone = false := by rw [asks]; rfl
  obtain ⟨first, later, read, split, hasRead, fromRead⟩ := attempt.exists_read_of_commit asks
  have admits := attempt.admits
  rw [split] at admits
  have reachable : (attempt.start.run first).Reachable := attempt.reachable.run admits.append_left
  obtain rfl : read.id = id := reachable.sound.consistent.iteration_id hasRead.found
  obtain ⟨stored, found, unchanged, moved⟩ := attempt.exists_stored_of_commit asks succeeds fromRead
  have here : (attempt.start.run first).run later = attempt.system := by
    rw [Attempt.system, split, run_append]
  refine ⟨first, later, read, split, hasRead, fromRead.publishable, fromRead.newLive, ?_⟩
  by_cases isDraft : read.state = .draft
  · rcases reachable.since_run admits.append_right hasRead.found (Or.inl rfl) with
      ⟨last, foundLast, since⟩ | ⟨before, other, taken, after, rfl, turnsBack⟩
    · rw [here, found] at foundLast
      cases foundLast
      rw [since.eq_of_updatedAt unchanged] at moved
      exact Or.inl moved
    · rw [← run_append] at turnsBack
      refine Or.inr ⟨isDraft, before, other, taken, after, rfl, ?_, turnsBack⟩
      rintro rfl
      obtain ⟨published, commits, -⟩ := turnsBack.commits
      have splitAll : attempt.events = (first ++ before) ++ .serve attempt.client taken :: after :=
        split.trans (List.append_assoc ..).symm
      exact attempt.asked_ne isOpen splitAll published commits.asks
  · -- What was published once keeps its content for good.
    obtain ⟨same, foundSame, precedes⟩ :=
      (reachable.evolves_run admits.append_right).precedes.iterations hasRead.found
    rw [here, found] at foundSame
    cases foundSame
    rw [precedes.frozen isDraft] at moved
    exact Or.inl moved

/-- The first publication is an attempt that goes live as read. -/
theorem goes_live_as_read_first :
    ∃ attempt : Attempt (.publish ⟨2⟩), attempt.system = System.start.run firstPublication ∧
      ∃ first later read, attempt.events = first ++ later ∧ attempt.HasRead first read ∧
        read.checkPublishable = .ok () ∧
        (attempt.system.step (.serve attempt.client (.numbered 4))).store.iterations.get? ⟨2⟩ =
          some { read with state := .live, updatedAt := ⟨4, 0⟩ } := by
  have admits : System.start.Admits (firstPublication.take 4 ++ firstPublication.drop 4) :=
    ⟨rfl, rfl, trivial, trivial, trivial, trivial, trivial, trivial, trivial⟩
  have begins : (System.start.run (firstPublication.take 4)).clients[0]? =
      some (Publisher.attempt ⟨1⟩ 1 (Publisher.tryPublish ⟨2⟩) 1).run := by
    with_unfolding_all rfl
  let attempt : Attempt (.publish ⟨2⟩) :=
    ⟨_, 0, _, _, .run .start admits.append_left, begins, admits.append_right⟩
  have isOpen : attempt.rest.isDone = false := by with_unfolding_all rfl
  have succeeds : (attempt.system.store.commit (Stamp.numbered 4).now firstCommit).1 = .ok () := by
    with_unfolding_all rfl
  obtain ⟨next, asks⟩ :=
    commit_of_asked (clients_run attempt.begins isOpen) isOpen asked_firstPublication
  obtain ⟨first, later, read, split, hasRead, publishable, -, asRead | ⟨-, before, other, taken,
      after, rfl, another, -⟩⟩ := attempt.goes_live_as_read asks succeeds
  · exact ⟨attempt, rfl, first, later, read, split, hasRead, publishable, asRead⟩
  · -- No one else is served.
    have listed : Event.serve other taken ∈ firstPublication.drop 4 := by
      have served : Event.serve other taken ∈ first ++ (before ++ .serve other taken :: after) := by
        simp
      rwa [← split] at served
    have isClient : other = 0 := by
      simp only [firstPublication, List.drop_succ_cons, List.drop_zero, List.mem_cons,
        List.not_mem_nil, or_false, or_self, Event.serve.injEq] at listed
      exact listed.1
    exact absurd isClient another

end Attempt

end System

/-! ## Where the clock stands still -/

/-- The time that the clock shows at an event, if the event asks for it. -/
def Event.reading? : Event → Option Instant
  | .createScenario given _ => some given.now
  | .createIteration given _ _ => some given.now
  | .updateIteration given _ _ => some given.now
  | .injectConflicts _ => none
  | .arrive _ => none
  | .serve _ given => some given.now

/-- The clock never runs backwards. It may show the same time twice. -/
def ClockRuns (events : List Event) : Prop :=
  (events.filterMap Event.reading?).Pairwise fun earlier later => later.before earlier = false

instance (events : List Event) : Decidable (ClockRuns events) :=
  inferInstanceAs (Decidable (List.Pairwise _ _))

/-- Stamps with numbers for their identifiers, all at one time. -/
def Stamp.together (n : Nat) : Stamp := { Stamp.numbered n with now := ⟨2, 0⟩ }

namespace System

/-- A draft, and a client that comes to publish it. Its attempt is about to begin. -/
def aboutToRead : List Event :=
  [.createScenario (.numbered 1) ⟨⟨7⟩, "transfers", "", "transactions"⟩,
    .createIteration (.numbered 2) ⟨1⟩ ⟨.bool true, [], 1, 2⟩,
    .arrive (.publish 0 ⟨2⟩), .serve 0 (.together 3)]

/-- The attempt reads the draft. Then the draft is edited, and others publish and unpublish it. Then
the attempt goes on, up to its commit. -/
def editedMeanwhile : List Event :=
  [.serve 0 (.together 4),
    .updateIteration (.together 5) ⟨2⟩ ⟨some (.bool false), none, none, none⟩,
    .arrive (.publish 0 ⟨2⟩),
    .serve 1 (.together 10), .serve 1 (.together 11), .serve 1 (.together 12),
    .serve 1 (.together 13), .serve 1 (.together 14), .serve 1 (.together 15),
    .arrive (.unpublish 0 ⟨1⟩),
    .serve 2 (.together 20), .serve 2 (.together 21), .serve 2 (.together 22),
    .serve 2 (.together 23), .serve 2 (.together 24),
    .serve 0 (.together 30), .serve 0 (.together 31), .serve 0 (.together 32)]

/-- The draft as the attempt reads it. -/
def draftRead : Iteration :=
  ⟨⟨2⟩, ⟨1⟩, 1, .bool true, [], 1, 2, .draft, ⟨2, 0⟩, ⟨2, 0⟩⟩

/-- The commit that the attempt asks for in the end. -/
def commitRead : Commit :=
  Publisher.publishing ⟨⟨1⟩, ⟨7⟩, "transfers", "", "transactions", none, ⟨1, 0⟩⟩ draftRead ⟨[], []⟩
    2 (.together 32)

theorem admits_aboutToRead : start.Admits aboutToRead :=
  ⟨rfl, rfl, trivial, trivial, trivial⟩

theorem admits_editedMeanwhile : (start.run aboutToRead).Admits editedMeanwhile := by
  simp only [editedMeanwhile, Admits, Event.Fresh, and_true]

theorem begins_aboutToRead : (start.run aboutToRead).clients[0]? =
    some (Publisher.attempt ⟨1⟩ 1 (Publisher.tryPublish ⟨2⟩) 1).run := by
  with_unfolding_all rfl

theorem follow_editedMeanwhile :
    ((start.run aboutToRead).follow 0 (Publisher.tryPublish ⟨2⟩).run editedMeanwhile).isDone =
      false := by
  with_unfolding_all rfl

theorem commit_editedMeanwhile :
    (((start.run aboutToRead).run editedMeanwhile).store.commit (Stamp.together 40).now
      commitRead).1 = .ok () := by
  with_unfolding_all rfl

/-- The attempt asks for its commit, and what goes live is the edit. -/
theorem goesOn_editedMeanwhile :
    ((start.run aboutToRead).run editedMeanwhile).asked 0 = some commitRead ∧
    (((start.run aboutToRead).run editedMeanwhile).step
      (.serve 0 (.together 40))).store.iterations.get? ⟨2⟩ =
      some { draftRead with trigger := .bool false, state := .live } := by
  have admits : (start.run aboutToRead).Admits (editedMeanwhile.take 16 ++
      editedMeanwhile.drop 16) := admits_editedMeanwhile
  -- The log has two entries when the attempt asks for it, and `rfl` does not unfold their sorting.
  let before := (start.run aboutToRead).run (editedMeanwhile.take 16)
  have two : (before.store.publicationsOf ⟨1⟩).length = 2 := by with_unfolding_all rfl
  obtain ⟨next, asks, submits, live⟩ : ∃ next,
      before.clients[0]? = some (.listPublications ⟨1⟩ next) ∧
      let told := next (.ok (before.store.publicationsOf ⟨1⟩))
      let last := System.run ⟨before.store, before.clients.set 0 told⟩ (editedMeanwhile.drop 17)
      last.asked 0 = some commitRead ∧
        (last.step (.serve 0 (.together 40))).store.iterations.get? ⟨2⟩ =
          some { draftRead with trigger := .bool false, state := .live } := by
    with_unfolding_all exact ⟨_, rfl, rfl, rfl⟩
  have ran : (start.run aboutToRead).run editedMeanwhile = _ :=
    (Reachable.start.run admits_aboutToRead).run_listing admits.append_left asks
      (by rw [two]; decide) (.together 31) (editedMeanwhile.drop 17)
  rw [ran]
  exact ⟨submits, live⟩

/-- The clock stands still while the draft is edited, published and unpublished. The commit of the
attempt finds the time of the last change that was read, and what goes live is the edit. -/
theorem goes_live_edited :
    ClockRuns (aboutToRead ++ editedMeanwhile ++ [.serve 0 (.together 40)]) ∧
    ∃ attempt : Attempt (.publish ⟨2⟩), attempt.start = start.run aboutToRead ∧
      attempt.client = 0 ∧ attempt.events = editedMeanwhile ∧
      attempt.HasRead (editedMeanwhile.take 1) draftRead ∧
      (∃ next, attempt.rest = .commit commitRead next) ∧
      (attempt.system.store.commit (Stamp.together 40).now commitRead).1 = .ok () ∧
      ∃ live,
        (attempt.system.step (.serve 0 (.together 40))).store.iterations.get? ⟨2⟩ = some live ∧
        live.state = .live ∧ live.trigger = .bool false ∧ draftRead.trigger = .bool true := by
  obtain ⟨attempt, starts, isClient, happens, goesOn⟩ : ∃ attempt : Attempt (.publish ⟨2⟩),
      attempt.start = start.run aboutToRead ∧ attempt.client = 0 ∧
      attempt.events = editedMeanwhile ∧
      ((start.run aboutToRead).run (editedMeanwhile.take 1)).clients[0]? =
        some ((Publisher.publishRead draftRead).run.bind attempt.next) :=
    ⟨⟨_, 0, _, _, .run .start admits_aboutToRead, begins_aboutToRead, admits_editedMeanwhile⟩,
      rfl, rfl, rfl, by with_unfolding_all rfl⟩
  have here : attempt.system = (start.run aboutToRead).run editedMeanwhile := by
    rw [Attempt.system, starts, happens]
  have isOpen : attempt.rest.isDone = false := by
    rw [Attempt.rest, starts, isClient, happens]
    exact follow_editedMeanwhile
  have asks : attempt.system.asked attempt.client = some commitRead := by
    rw [here, isClient]
    exact goesOn_editedMeanwhile.1
  refine ⟨by decide, attempt, starts, isClient, happens, ⟨?_, ?_⟩,
    commit_of_asked (clients_run attempt.begins isOpen) isOpen asks, ?_, ?_⟩
  · rw [starts]
    with_unfolding_all rfl
  · rw [starts, isClient]
    exact goesOn
  · rw [here]
    exact commit_editedMeanwhile
  · rw [here]
    exact ⟨_, goesOn_editedMeanwhile.2, rfl, rfl, rfl⟩

end System

end RiskScoring
