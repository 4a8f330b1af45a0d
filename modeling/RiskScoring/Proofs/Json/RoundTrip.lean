import RiskScoring.Proofs.Json.Tokens

/-!
# Reading printed JSON

Whatever the budget of levels, the reader finds in the compact text of a value the value itself, cut
where the budget ends. The text of a number is assumed to be read back; strings need no assumption.

* `Source.within`: a value that is cut at a level.
* `JsonNumber.ReadsBack`: the text of the number is read as the number.
* `Json.readValue_chars`: the reader in front of a printed value.
* `Document.read_compact`: the reader on the text of a value.
* `Source.toJson?_within`: the value is there again if the budget allows its depth.
-/

namespace RiskScoring

/-! ## Cut values -/

namespace Source

mutual

/-- What is read of a value when no more than a number of levels may be opened, `none` for any
number. -/
def within (budget : Option Nat) : Json → Source
  | .null => null
  | .bool value => bool value
  | .number value => number (some value)
  | .string value => string (some value)
  | .array items =>
    if budget = some 0 then tooDeep true
    else array (withinItems (budget.map (· - 1)) items) true
  | .object members =>
    if budget = some 0 then tooDeep true
    else object (withinMembers (budget.map (· - 1)) members) true

/-- `within` on items. -/
def withinItems (budget : Option Nat) : List Json → List Source
  | [] => []
  | item :: rest => within budget item :: withinItems budget rest

/-- `within` on the values of members. -/
def withinMembers (budget : Option Nat) : List (String × Json) → List (Option String × Source)
  | [] => []
  | (key, value) :: rest => (some key, within budget value) :: withinMembers budget rest

end

mutual

theorem wellFormed_within : ∀ (budget : Option Nat) (value : Json),
    (within budget value).wellFormed = true
  | _, .null | _, .bool _ | _, .number _ | _, .string _ => rfl
  | budget, .array items => by
    rw [within]
    split
    · rfl
    · simp [wellFormed, wellFormedItems_within]
  | budget, .object members => by
    rw [within]
    split
    · rfl
    · simp [wellFormed, wellFormedMembers_within]

theorem wellFormedItems_within : ∀ (budget : Option Nat) (items : List Json),
    wellFormedItems (withinItems budget items) = true
  | _, [] => rfl
  | budget, item :: rest => by
    simp [withinItems, wellFormedItems, wellFormed_within, wellFormedItems_within]

theorem wellFormedMembers_within : ∀ (budget : Option Nat) (members : List (String × Json)),
    wellFormedMembers (withinMembers budget members) = true
  | _, [] => rfl
  | budget, (_, value) :: rest => by
    simp [withinMembers, wellFormedMembers, wellFormed_within, wellFormedMembers_within]

end

mutual

/-- Without a budget nothing of a value is cut. -/
theorem within_none : ∀ value : Json, within none value = ofJson value
  | .null | .bool _ | .number _ | .string _ => rfl
  | .array items => by
    rw [within, if_neg nofun, Option.map_none, withinItems_none, ofJson]
  | .object members => by
    rw [within, if_neg nofun, Option.map_none, withinMembers_none, ofJson]

theorem withinItems_none : ∀ items : List Json, withinItems none items = ofJsonItems items
  | [] => rfl
  | item :: rest => by
    rw [withinItems, within_none item, withinItems_none rest, ofJsonItems]

theorem withinMembers_none : ∀ members : List (String × Json),
    withinMembers none members = ofJsonMembers members
  | [] => rfl
  | (key, value) :: rest => by
    rw [withinMembers, within_none value, withinMembers_none rest, ofJsonMembers]

end

theorem within_object_ne_null {budget : Option Nat} {members : List (String × Json)} :
    within budget (.object members) ≠ .null := by
  rw [within]
  split <;> simp

theorem withinMembers_append (budget : Option Nat) (left right : List (String × Json)) :
    withinMembers budget (left ++ right) =
      withinMembers budget left ++ withinMembers budget right := by
  induction left with
  | nil => rfl
  | cons member left ih => rw [List.cons_append, withinMembers, ih, withinMembers, List.cons_append]

end Source

/-! ## Numbers -/

/-- The text of the number is read as the number. -/
def JsonNumber.ReadsBack (number : JsonNumber) : Prop :=
  Json.ofText? (Json.number number).compact = some (.number number)

section

variable {fuel : Nat} {budget : Option Nat} {text rest : List Char} {number : JsonNumber}

/-- Where a number can be read, it is read. -/
theorem readValue_of_readNumber {parts : NumberText}
    (reads : readNumber (skipBlanks text) = some (parts, rest)) :
    readValue (fuel + 1) budget text = (.number parts.value, some rest) := by
  unfold readValue
  split
  all_goals first
    | rename_i starts
      rw [starts] at reads
      cases reads
    | simp only [reads]

/-- Only a source that is a number has a number for its value. -/
theorem Source.eq_number_of_toJson? {source : Source}
    (isNumber : source.toJson? = some (.number number)) : source = .number (some number) := by
  cases source with
  | number value =>
    obtain ⟨found, rfl, same⟩ := Option.map_eq_some_iff.mp isNumber
    cases same
    rfl
  | string value =>
    obtain ⟨_, -, other⟩ := Option.map_eq_some_iff.mp isNumber
    cases other
  | array items closed =>
    cases closed with
    | false => cases isNumber
    | true =>
      obtain ⟨_, -, other⟩ := Option.map_eq_some_iff.mp isNumber
      cases other
  | object members closed =>
    cases closed with
    | false => cases isNumber
    | true =>
      obtain ⟨_, -, other⟩ := Option.map_eq_some_iff.mp isNumber
      cases other
  | _ => cases isNumber

/-- What is read as a number is one. -/
theorem readNumber_of_readValue
    (reads : readValue fuel budget text = (.number (some number), some rest)) :
    ∃ parts, readNumber (skipBlanks text) = some (parts, rest) ∧ parts.value = some number := by
  cases fuel with
  | zero => cases reads
  | succ fuel =>
    unfold readValue at reads
    split at reads
    case h_7 =>
      split at reads
      · rename_i parts after found
        simp only [Prod.mk.injEq, Source.number.injEq, Option.some.injEq] at reads
        obtain ⟨isNumber, rfl⟩ := reads
        exact ⟨parts, found, isNumber⟩
      · cases reads
    -- Whatever starts in another way is read as something else.
    all_goals
      repeat' split at reads
      all_goals cases reads

theorem JsonNumber.ReadsBack.readNumber (readsBack : number.ReadsBack) :
    ∃ parts blanks, RiskScoring.readNumber (skipBlanks number.text) = some (parts, blanks) ∧
      parts.value = some number ∧ skipBlanks blanks = [] := by
  rcases found : RiskScoring.readValue (2 * number.text.length + 2) (some Document.nestingLimit)
    number.text with ⟨source, _ | blanks⟩
  all_goals
    have reads : (Document.read (some Document.nestingLimit)
        (String.ofList number.text)).toJson? = some (.number number) := readsBack
    simp only [Document.read, Document.toJson?, String.toList_ofList, found] at reads
  · cases reads
  · split at reads
    · rename_i isBlank
      rw [Source.eq_number_of_toJson? reads] at found
      obtain ⟨parts, isRead, isNumber⟩ := readNumber_of_readValue found
      exact ⟨parts, blanks, isRead, isNumber, List.isEmpty_iff.mp isBlank⟩
    · cases reads

/-- A number that is read back is read in front of any text that does not go on with it. -/
theorem JsonNumber.ReadsBack.readValue (readsBack : number.ReadsBack) (stops : Stops rest) :
    ∃ after, RiskScoring.readValue (fuel + 1) budget (number.text ++ rest) =
      (.number (some number), some after) ∧ skipBlanks after = skipBlanks rest := by
  obtain ⟨parts, blanks, reads, isNumber, isBlank⟩ := readsBack.readNumber
  have occurs : skipBlanks number.text ≠ [] := by
    intro isEmpty
    rw [isEmpty] at reads
    cases reads
  refine ⟨blanks ++ rest, ?_, ?_⟩
  · rw [readValue_of_readNumber, isNumber]
    rw [skipBlanks_append occurs, readNumber_append stops reads]
  · have noBlanks : (List.dropWhile isJsonBlank blanks).isEmpty = true := by
      rw [List.isEmpty_iff]
      exact isBlank
    rw [skipBlanks, List.dropWhile_append, if_pos noBlanks]
    rfl

end

namespace Json

mutual

/-- The numbers in a value, in the order of the text. -/
def numbers : Json → List JsonNumber
  | number value => [value]
  | array items => numbersItems items
  | object members => numbersMembers members
  | _ => []

/-- The numbers in items. -/
def numbersItems : List Json → List JsonNumber
  | [] => []
  | item :: rest => numbers item ++ numbersItems rest

/-- The numbers in the values of members. -/
def numbersMembers : List (String × Json) → List JsonNumber
  | [] => []
  | (_, value) :: rest => numbers value ++ numbersMembers rest

end

theorem numbersMembers_append (left right : List (String × Json)) :
    numbersMembers (left ++ right) = numbersMembers left ++ numbersMembers right := by
  induction left with
  | nil => rfl
  | cons member left ih =>
    rw [List.cons_append, numbersMembers, ih, numbersMembers, List.append_assoc]

theorem forall_numbersMembers {P : JsonNumber → Prop} {members : List (String × Json)} :
    (∀ number ∈ numbersMembers members, P number) ↔
      ∀ member ∈ members, ∀ number ∈ member.2.numbers, P number := by
  induction members with
  | nil => simp [numbersMembers]
  | cons member rest ih => rw [numbersMembers, List.forall_mem_append, ih, List.forall_mem_cons]

end Json

/-! ## Arrays and objects -/

section

variable {fuel : Nat} {budget : Option Nat} {text rest : List Char}

theorem readValue_array {items : List Json}
    (reads : ∀ budget, readItems fuel budget text =
      (Source.withinItems budget items, true, some rest)) :
    readValue (fuel + 1) budget ('[' :: text) =
      (Source.within budget (.array items), some rest) := by
  show (if budget = some 0 then _ else _ : Source × Option (List Char)) = _
  rw [Source.within]
  split
  · rw [reads]
    simp [Source.wellFormed, Source.wellFormedItems_within]
  · rw [reads]

theorem readValue_object {members : List (String × Json)}
    (reads : ∀ budget, readMembers fuel budget text =
      (Source.withinMembers budget members, true, some rest)) :
    readValue (fuel + 1) budget ('\x7b' :: text) =
      (Source.within budget (.object members), some rest) := by
  show (if budget = some 0 then _ else _ : Source × Option (List Char)) = _
  rw [Source.within]
  split
  · rw [reads]
    simp [Source.wellFormed, Source.wellFormedMembers_within]
  · rw [reads]

/-- The bracket that ends an array starts no value. -/
theorem readValue_of_bracket (starts : skipBlanks text = ']' :: rest) :
    readValue fuel budget text = (.broken, none) := by
  cases fuel with
  | zero => rfl
  | succ fuel =>
    rw [readValue, starts]
    rfl

theorem readItems_of_readMoreItems {items : List Source} {after : Option (List Char)}
    (reads : readMoreItems fuel budget text = (items, true, after)) :
    readItems (fuel + 1) budget text = (items, true, after) := by
  unfold readItems
  split
  · rename_i starts
    cases fuel with
    | zero => cases reads
    | succ fuel =>
      rw [readMoreItems, readValue_of_bracket starts] at reads
      cases reads
  · exact reads

theorem readMembers_of_readMoreMembers {members : List (Option String × Source)}
    {after : Option (List Char)}
    (reads : readMoreMembers fuel budget text = (members, true, after)) :
    readMembers (fuel + 1) budget text = (members, true, after) := by
  unfold readMembers
  split
  · rename_i starts
    cases fuel with
    | zero => cases reads
    | succ fuel =>
      rw [readMoreMembers, starts] at reads
      cases reads
  · exact reads

end

/-! ## Printed values -/

namespace Json

theorem skipBlanks_quote (text : List Char) : skipBlanks ('"' :: text) = '"' :: text := rfl

theorem skipBlanks_colon (text : List Char) : skipBlanks (':' :: text) = ':' :: text := rfl

theorem skipBlanks_comma (text : List Char) : skipBlanks (',' :: text) = ',' :: text := rfl

theorem charsItems_length_pos (items : List Json) : 0 < (charsItems items).length := by
  cases items <;> simp [charsItems]

theorem charsMembers_length_pos (members : List (String × Json)) :
    0 < (charsMembers members).length := by
  cases members <;> simp [charsMembers]

/-- What follows an item is no part of it. -/
theorem stops_charsItems (items : List Json) (rest : List Char) :
    Stops (charsItems items ++ rest) := by
  cases items <;> exact Stops.cons (by decide)

theorem stops_charsMembers (members : List (String × Json)) (rest : List Char) :
    Stops (charsMembers members ++ rest) := by
  cases members <;> exact Stops.cons (by decide)

/-- A quoted string is read as the string. -/
theorem readString_quote (value : String) (rest : List Char) :
    readString .start (value.toList.flatMap escapeChar ++ '"' :: rest) =
      some (some value, rest) := by
  rw [StringSoFar.start, readString_quoted]
  simp

/-- A quoted string is read as the string. -/
theorem readValue_quote (fuel : Nat) (budget : Option Nat) (value : String) (rest : List Char) :
    readValue (fuel + 1) budget (quote value ++ rest) = (.string (some value), some rest) := by
  have text : quote value ++ rest = '"' :: (value.toList.flatMap escapeChar ++ '"' :: rest) := by
    simp [quote]
  rw [text, readValue]
  simp only [skipBlanks_quote, readString_quote]

-- The induction is on the value. A row of items is read from the text after its bracket or comma,
-- so it is stated for the tail of `charsItems`; two steps of fuel for each character are enough,
-- because each item pays with its comma or bracket for the step that reads it.

mutual

/-- In front of a printed value, the reader finds the value. -/
theorem readValue_chars : ∀ (value : Json) {fuel : Nat} (budget : Option Nat) {rest : List Char},
    (∀ number ∈ value.numbers, number.ReadsBack) → 2 * value.chars.length ≤ fuel + 1 →
    Stops rest → ∃ after, readValue (fuel + 1) budget (value.chars ++ rest) =
      (Source.within budget value, some after) ∧ skipBlanks after = skipBlanks rest
  | .null, _, _, rest, _, _, _ => ⟨rest, rfl, rfl⟩
  | .bool true, _, _, rest, _, _, _ => ⟨rest, rfl, rfl⟩
  | .bool false, _, _, rest, _, _, _ => ⟨rest, rfl, rfl⟩
  | .number value, _, _, _, readsBack, _, stops =>
    (readsBack value List.mem_cons_self).readValue stops
  | .string value, fuel, budget, rest, _, _, _ =>
    ⟨rest, readValue_quote fuel budget value rest, rfl⟩
  | .array [], fuel, budget, rest, _, enough, _ => by
    obtain ⟨fuel, rfl⟩ : ∃ k, fuel = k + 1 := ⟨fuel - 1, by simp [chars] at enough; omega⟩
    exact ⟨rest, readValue_array fun _ => rfl, rfl⟩
  | .array (item :: items), fuel, budget, rest, readsBack, enough, _ => by
    have positive := charsItems_length_pos items
    simp only [chars, List.length_cons, List.length_append] at enough
    obtain ⟨fuel, rfl⟩ : ∃ k, fuel = k + 2 := ⟨fuel - 2, by omega⟩
    refine ⟨rest, readValue_array fun budget => readItems_of_readMoreItems ?_, rfl⟩
    refine readMoreItems_chars (item :: items) budget rest (by simp) readsBack ?_
    simp only [charsItems, List.length_cons, List.length_append]
    omega
  | .object [], fuel, budget, rest, _, enough, _ => by
    obtain ⟨fuel, rfl⟩ : ∃ k, fuel = k + 1 := ⟨fuel - 1, by simp [chars] at enough; omega⟩
    exact ⟨rest, readValue_object fun _ => rfl, rfl⟩
  | .object ((key, value) :: members), fuel, budget, rest, readsBack, enough, _ => by
    have positive := charsMembers_length_pos members
    simp only [chars, List.length_cons, List.length_append] at enough
    obtain ⟨fuel, rfl⟩ : ∃ k, fuel = k + 2 := ⟨fuel - 2, by omega⟩
    refine ⟨rest, readValue_object fun budget => readMembers_of_readMoreMembers ?_, rfl⟩
    refine readMoreMembers_chars ((key, value) :: members) budget rest (by simp) readsBack ?_
    simp only [charsMembers, List.length_cons, List.length_append]
    omega

theorem readMoreItems_chars : ∀ (items : List Json) {fuel : Nat} (budget : Option Nat)
    (rest : List Char), items ≠ [] → (∀ number ∈ numbersItems items, number.ReadsBack) →
    2 * (charsItems items).length ≤ fuel + 3 →
    readMoreItems (fuel + 1) budget ((charsItems items).tail ++ rest) =
      (Source.withinItems budget items, true, some rest)
  | [], _, _, _, occurs, _, _ => absurd rfl occurs
  | item :: items, fuel, budget, rest, _, readsBack, enough => by
    have positive := charsItems_length_pos items
    simp only [charsItems, List.length_cons, List.length_append] at enough
    obtain ⟨fuel, rfl⟩ : ∃ k, fuel = k + 1 := ⟨fuel - 1, by omega⟩
    obtain ⟨first, others⟩ := List.forall_mem_append.mp readsBack
    have enoughFirst : 2 * item.chars.length ≤ fuel + 1 := by omega
    have enoughOthers : 2 * (charsItems items).length ≤ fuel + 3 := by omega
    obtain ⟨after, reads, same⟩ :=
      readValue_chars item budget first enoughFirst (stops_charsItems items rest)
    have readsOthers := fun occurs =>
      readMoreItems_chars items budget rest occurs others enoughOthers
    simp only [charsItems, List.tail_cons, List.append_assoc]
    rw [readMoreItems, reads]
    -- Blanks may be left of a number, but the reader skips them before it looks for a comma.
    simp only [same]
    cases items with
    | nil => rfl
    | cons next items =>
      have reads := readsOthers (by simp)
      simp only [charsItems, List.tail_cons] at reads
      simp only [charsItems, List.cons_append, skipBlanks_comma, reads]
      rfl

theorem readMoreMembers_chars : ∀ (members : List (String × Json)) {fuel : Nat}
    (budget : Option Nat) (rest : List Char), members ≠ [] →
    (∀ number ∈ numbersMembers members, number.ReadsBack) →
    2 * (charsMembers members).length ≤ fuel + 3 →
    readMoreMembers (fuel + 1) budget ((charsMembers members).tail ++ rest) =
      (Source.withinMembers budget members, true, some rest)
  | [], _, _, _, occurs, _, _ => absurd rfl occurs
  | (key, value) :: members, fuel, budget, rest, _, readsBack, enough => by
    have positive := charsMembers_length_pos members
    simp only [charsMembers, List.length_cons, List.length_append] at enough
    obtain ⟨fuel, rfl⟩ : ∃ k, fuel = k + 1 := ⟨fuel - 1, by omega⟩
    obtain ⟨first, others⟩ := List.forall_mem_append.mp readsBack
    have enoughFirst : 2 * value.chars.length ≤ fuel + 1 := by omega
    have enoughOthers : 2 * (charsMembers members).length ≤ fuel + 3 := by omega
    obtain ⟨after, reads, same⟩ :=
      readValue_chars value budget first enoughFirst (stops_charsMembers members rest)
    have readsOthers := fun occurs =>
      readMoreMembers_chars members budget rest occurs others enoughOthers
    have text : (charsMembers ((key, value) :: members)).tail ++ rest =
        '"' :: (key.toList.flatMap escapeChar ++ '"' :: ':' ::
          (value.chars ++ (charsMembers members ++ rest))) := by
      simp [charsMembers, quote]
    rw [text, readMoreMembers]
    simp only [skipBlanks_quote, readString_quote, skipBlanks_colon, reads, same]
    cases members with
    | nil => rfl
    | cons next members =>
      have reads := readsOthers (by simp)
      simp only [charsMembers, List.tail_cons] at reads
      simp only [charsMembers, List.cons_append, skipBlanks_comma, reads]
      rfl

end

end Json

/-- On the compact text of a value, the reader finds the value and nothing after it. -/
theorem Document.read_compact (limit : Option Nat) {value : Json}
    (readsBack : ∀ number ∈ value.numbers, number.ReadsBack) :
    Document.read limit value.compact = ⟨Source.within limit value, true⟩ := by
  have enough : 2 * value.chars.length ≤ 2 * value.chars.length + 1 + 1 := by omega
  obtain ⟨after, reads, ended⟩ := Json.readValue_chars value limit readsBack enough Stops.nil
  rw [List.append_nil] at reads
  have isBlank : (skipBlanks after).isEmpty = true := by
    rw [ended]
    rfl
  simp only [Document.read, Json.compact, String.toList_ofList, reads, isBlank]

/-! ## Depth -/

namespace Json

theorem depthMembers_append (left right : List (String × Json)) :
    depthMembers (left ++ right) = max (depthMembers left) (depthMembers right) := by
  induction left with
  | nil => simp [depthMembers]
  | cons member left ih =>
    rw [List.cons_append, depthMembers, ih, depthMembers, Nat.max_assoc]

mutual

/-- No object in the value has a key twice. -/
def KeysDistinct : Json → Prop
  | array items => KeysDistinctItems items
  | object members => (members.map Prod.fst).Nodup ∧ KeysDistinctMembers members
  | _ => True

/-- `KeysDistinct` for items. -/
def KeysDistinctItems : List Json → Prop
  | [] => True
  | item :: rest => KeysDistinct item ∧ KeysDistinctItems rest

/-- `KeysDistinct` for the values of members. -/
def KeysDistinctMembers : List (String × Json) → Prop
  | [] => True
  | (_, value) :: rest => KeysDistinct value ∧ KeysDistinctMembers rest

end

end Json

namespace Source

/-- A budget of levels is enough for a depth. -/
def Allows (budget : Option Nat) (depth : Nat) : Prop := ∀ levels ∈ budget, depth ≤ levels

instance (budget : Option Nat) (depth : Nat) : Decidable (Allows budget depth) :=
  inferInstanceAs (Decidable (∀ levels ∈ budget, depth ≤ levels))

section

variable {budget : Option Nat} {depth other : Nat}

@[simp]
theorem allows_some {levels : Nat} : Allows (some levels) depth ↔ depth ≤ levels := by
  simp [Allows]

@[simp]
theorem allows_zero : Allows budget 0 := fun _ _ => Nat.zero_le _

@[simp]
theorem allows_max :
    Allows budget (max depth other) ↔ Allows budget depth ∧ Allows budget other := by
  simp only [Allows, Nat.max_le]
  exact forall₂_and

/-- To open a level costs one of the budget. -/
theorem allows_succ : Allows budget (depth + 1) ↔
    budget ≠ some 0 ∧ Allows (budget.map (· - 1)) depth := by
  cases budget with
  | none => simp [Allows]
  | some levels =>
    simp [Allows]
    omega

end

mutual

/-- A value of distinct keys is there again, if the budget is enough for its depth. -/
theorem toJson?_within : ∀ (value : Json) (budget : Option Nat), value.KeysDistinct →
    (within budget value).toJson? = if Allows budget value.depth then some value else none
  | .null, _, _ | .bool _, _, _ | .number _, _, _ | .string _, _, _ => by
    simp [within, toJson?, Json.depth]
  | .array items, budget, distinct => by
    by_cases spent : budget = some 0
    · simp [within, spent, toJson?, Json.depth, allows_succ]
    · rw [within, if_neg spent, toJson?, toJsonItems?_within items _ distinct]
      simp only [Json.depth, allows_succ, ne_eq, spent, not_false_eq_true, true_and]
      split <;> rfl
  | .object members, budget, distinct => by
    by_cases spent : budget = some 0
    · simp [within, spent, toJson?, Json.depth, allows_succ]
    · rw [within, if_neg spent, toJson?, toJsonMembers?_within members _ [] distinct.1 distinct.2]
      simp only [Json.depth, allows_succ, ne_eq, spent, not_false_eq_true, true_and]
      split <;> rfl

theorem toJsonItems?_within : ∀ (items : List Json) (budget : Option Nat),
    Json.KeysDistinctItems items → toJsonItems? (withinItems budget items) =
      if Allows budget (Json.depthItems items) then some items else none
  | [], _, _ => by simp [withinItems, toJsonItems?, Json.depthItems]
  | item :: rest, budget, ⟨first, others⟩ => by
    rw [withinItems, toJsonItems?, toJson?_within item budget first,
      toJsonItems?_within rest budget others]
    simp only [Json.depthItems, allows_max]
    by_cases fits : Allows budget item.depth <;>
      by_cases fit : Allows budget (Json.depthItems rest) <;> simp [fits, fit]

theorem toJsonMembers?_within : ∀ (members : List (String × Json)) (budget : Option Nat)
    (found : List (String × Json)), ((found ++ members).map Prod.fst).Nodup →
    Json.KeysDistinctMembers members → toJsonMembers? (withinMembers budget members) found =
      if Allows budget (Json.depthMembers members) then some (found ++ members) else none
  | [], _, _, _, _ => by simp [withinMembers, toJsonMembers?, Json.depthMembers]
  | (key, value) :: rest, budget, found, distinct, ⟨first, others⟩ => by
    have fresh : key ∉ found.map Prod.fst := by
      rw [List.map_append, List.nodup_append] at distinct
      exact fun listed => distinct.2.2 key listed key (by simp) rfl
    have goesOn : found ++ (key, value) :: rest = found ++ [(key, value)] ++ rest := by simp
    rw [goesOn] at distinct ⊢
    rw [withinMembers, toJsonMembers?, toJson?_within value budget first, Json.depthMembers]
    simp only [allows_max]
    by_cases fits : Allows budget value.depth
    · have added := toJsonMembers?_within rest budget (found ++ [(key, value)]) distinct others
      simp only [fits, if_true, true_and, ← added]
      rw [← Dict.insertEntry_of_fresh fresh value]
      rfl
    · simp [fits]

end

end Source

end RiskScoring
