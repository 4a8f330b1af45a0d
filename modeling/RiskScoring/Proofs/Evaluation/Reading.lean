import RiskScoring.Evaluation.Semantics

/-!
# How a reading ends

A computation that reads fields is run from a state of its accessor. It is `Reading.Sound` if from
every state it ends in one of three ways: with a good result, with the error of a fetch that it
made, or with a division by zero.

* `Accessor.Trail`: the states that fetches lead to, one after the other.
* `Reading.Ends`, `Reading.Sound`: the three ways to end.
* `Reading.Sound.pure`, `Reading.Sound.bind`, `Accessor.fetch_sound`: how sound readings are put
  together.
-/

namespace RiskScoring

variable {σ α β : Type}

/-- The result of a reading from a state, and the state after it. -/
def Reading.runFrom (reading : Reading σ α) (state : σ) : Except EvaluationError α × σ :=
  reading.run.run state

/-- A reading after a reading: an error of the first one is the end. -/
theorem Reading.runFrom_bind (reading : Reading σ α) (next : α → Reading σ β) (state : σ) :
    Reading.runFrom (reading >>= next) state =
      match reading.runFrom state with
      | (.ok value, middle) => (next value).runFrom middle
      | (.error error, middle) => (.error error, middle) := by
  show (let ending := reading.runFrom state
    (ExceptT.bindCont next ending.1).run ending.2) = _
  rcases reading.runFrom state with ⟨result, middle⟩
  cases result <;> rfl

theorem Reading.runFrom_bind_ok {reading : Reading σ α} {state middle : σ} {value : α}
    (ends : reading.runFrom state = (.ok value, middle)) (next : α → Reading σ β) :
    Reading.runFrom (reading >>= next) state = (next value).runFrom middle := by
  rw [runFrom_bind, ends]

theorem Reading.runFrom_bind_error {reading : Reading σ α} {state middle : σ}
    {error : EvaluationError} (ends : reading.runFrom state = (.error error, middle))
    (next : α → Reading σ β) :
    Reading.runFrom (reading >>= next) state = (.error error, middle) := by
  rw [runFrom_bind, ends]

theorem Reading.runFrom_liftExcept (check : Except EvaluationError α) (state : σ) :
    Reading.runFrom (liftExcept check) state = (check, state) := by
  cases check <;> rfl

/-- Two readings are the same if they end alike from every state. -/
theorem Reading.ext {reading other : Reading σ α}
    (alike : ∀ state, reading.runFrom state = other.runFrom state) : reading = other :=
  funext alike

/-- The second state comes from the first by fetches of some reads that all succeeded. -/
inductive Accessor.Trail (accessor : Accessor σ) (reads : List FieldRead) : σ → σ → Prop
  | stay (state : σ) : Trail accessor reads state state
  | step {state next last : σ} {read : FieldRead} {trace : Trace} (occurs : read ∈ reads)
    (fetches : (accessor.fetch read).runFrom state = (.ok trace, next))
    (goesOn : Trail accessor reads next last) : Trail accessor reads state last

namespace Accessor.Trail

variable {accessor : Accessor σ} {reads others : List FieldRead} {x y z : σ}

theorem trans (first : Trail accessor reads x y) (second : Trail accessor reads y z) :
    Trail accessor reads x z := by
  induction first with
  | stay state => exact second
  | step occurs fetches _ ih => exact .step occurs fetches (ih second)

theorem mono (included : reads ⊆ others) (trail : Trail accessor reads x y) :
    Trail accessor others x y := by
  induction trail with
  | stay state => exact .stay state
  | step occurs fetches _ ih => exact .step (included occurs) fetches ih

end Accessor.Trail

namespace Reading

/-- How a reading may end that started in a state. -/
inductive Ends (accessor : Accessor σ) (reads : List FieldRead) (good : α → Prop) (state : σ) :
    Except EvaluationError α × σ → Prop
  | value {value : α} {last : σ} (trail : accessor.Trail reads state last) (isGood : good value) :
    Ends accessor reads good state (.ok value, last)
  | failed {read : FieldRead} {error : EvaluationError} {before last : σ}
    (trail : accessor.Trail reads state before) (occurs : read ∈ reads)
    (fails : (accessor.fetch read).runFrom before = (.error error, last)) :
    Ends accessor reads good state (.error error, last)
  | divided {last : σ} (trail : accessor.Trail reads state last) :
    Ends accessor reads good state (.error (.divisionByZero BinaryOp.divide.name), last)

/-- A reading that ends well from every state, if it does not end with the error of a fetch or with
a division by zero. -/
def Sound (accessor : Accessor σ) (reads : List FieldRead) (good : α → Prop)
    (reading : Reading σ α) : Prop :=
  ∀ state, Ends accessor reads good state (reading.runFrom state)

variable {accessor : Accessor σ} {reads others : List FieldRead} {good : α → Prop}
  {last : β → Prop}

theorem Ends.mono {better : α → Prop} {state : σ} {ending : Except EvaluationError α × σ}
    (included : reads ⊆ others) (implies : ∀ value, good value → better value)
    (ends : Ends accessor reads good state ending) :
    Ends accessor others better state ending := by
  cases ends with
  | value trail isGood => exact .value (trail.mono included) (implies _ isGood)
  | failed trail occurs fails => exact .failed (trail.mono included) (included occurs) fails
  | divided trail => exact .divided (trail.mono included)

theorem Ends.after {first second : σ} {ending : Except EvaluationError α × σ}
    (trail : accessor.Trail reads first second) (ends : Ends accessor reads good second ending) :
    Ends accessor reads good first ending := by
  cases ends with
  | value later isGood => exact .value (trail.trans later) isGood
  | failed later occurs fails => exact .failed (trail.trans later) occurs fails
  | divided later => exact .divided (trail.trans later)

theorem Sound.mono (included : reads ⊆ others) {reading : Reading σ α}
    (sound : reading.Sound accessor reads good) : reading.Sound accessor others good :=
  fun state => (sound state).mono included fun _ isGood => isGood

theorem Sound.pure {value : α} (isGood : good value) :
    Sound accessor reads good (Pure.pure value : Reading σ α) :=
  fun state => .value (.stay state) isGood

/-- A reading after a sound reading. -/
theorem Sound.bind {reading : Reading σ α} {next : α → Reading σ β}
    (sound : reading.Sound accessor reads good)
    (goesOn : ∀ value, good value → (next value).Sound accessor reads last) :
    Sound accessor reads last (reading >>= next) := by
  intro state
  rw [runFrom_bind]
  cases ended : reading.runFrom state with
  | mk result middle =>
    have ends := sound state
    rw [ended] at ends
    cases ends with
    | value trail isGood => exact (goesOn _ isGood middle).after trail
    | failed trail occurs fails => exact .failed trail occurs fails
    | divided trail => exact .divided trail

/-- What goes on alike after every good value goes on alike after a sound reading. -/
theorem Sound.bind_congr {reading : Reading σ α} {next other : α → Reading σ β}
    (sound : reading.Sound accessor reads good)
    (alike : ∀ value, good value → next value = other value) :
    (reading >>= next) = (reading >>= other) := by
  refine Reading.ext fun state => ?_
  rw [runFrom_bind, runFrom_bind]
  have ends := sound state
  rcases ended : reading.runFrom state with ⟨result, middle⟩
  rw [ended] at ends
  cases ends with
  | value trail isGood => simp only [alike _ isGood]
  | failed trail occurs fails => rfl
  | divided trail => rfl

/-- A reading after a check that passes. -/
theorem Sound.bind_ok {check : Except EvaluationError α} {value : α} {next : α → Reading σ β}
    (passes : check = .ok value) (goesOn : (next value).Sound accessor reads last) :
    Sound accessor reads last ((liftExcept check : Reading σ α) >>= next) := by
  rw [passes]
  exact goesOn

/-- A check that passes, or finds a division by zero. -/
theorem Sound.liftExcept {check : Except EvaluationError α}
    (passes : (∃ value, check = .ok value ∧ good value) ∨
      check = .error (.divisionByZero BinaryOp.divide.name)) :
    Sound accessor reads good (liftExcept check : Reading σ α) := by
  intro state
  rcases passes with ⟨value, rfl, isGood⟩ | rfl
  · exact .value (.stay state) isGood
  · exact .divided (.stay state)

end Reading

end RiskScoring
