import RiskScoring.Proofs.Formula.TextRoundTrip
import RiskScoring.Proofs.Json.Identifiers
import RiskScoring.Proofs.Model.Decoding
import RiskScoring.Proofs.Scenario.Validation

/-!
# Scenarios are read back

Scenarios, iterations, and what iterations are made and changed from are read back from their JSON,
member by member: formulas of any depth with their empty slots, rules in their order, words of any
size, and what is absent. Only literal doubles that are not finite are lost, since JSON has no word
for them.

* `Decoder.ofOption_reads`: what may be absent is written as `null` and read back.
* `Expression.decoder_reads`, `Rule.decoder_reads`: a formula is read back if its literal doubles
  are finite, and a rule with it.
* `Iteration.reads`, `IterationDraft.reads`, `IterationEdit.reads`: the records that hold formulas.
* `stored_records_read_back`: the statement for all of them, and for data models.
-/

namespace RiskScoring

open Record.Holds (cons one member)

/-- What may be absent is read back, if it is not written as `null` when it is there. -/
theorem Decoder.ofOption_reads {α : Type} {decoder : Decoder α} {encode : α → Json}
    {value : Option α} (reads : ∀ present ∈ value, decoder.Reads (encode present) present)
    (notNull : ∀ present ∈ value, encode present ≠ .null) :
    decoder.option.Reads (Json.ofOption encode value) value := by
  cases value with
  | none => exact fun _ _ => rfl
  | some present => exact option_reads (reads present rfl) (notNull present rfl)

/-! ## Formulas -/

/-- All literal doubles of the formula are finite. -/
def Expression.IsFinite (formula : Expression) : Prop :=
  ∀ value ∈ formula.floats, value.isFinite = true

instance (formula : Expression) : Decidable formula.IsFinite :=
  inferInstanceAs (Decidable (∀ value ∈ formula.floats, value.isFinite = true))

theorem Expression.decoder_reads {formula : Expression} (finite : formula.IsFinite) :
    decoder.Reads formula.toJson formula := by
  intro budget fits
  have record : OperatorRecord.decoder (Source.within budget formula.toJson) =
      .ok formula.toRecord := (formula.toRecord_reads budget).trans (if_pos fits)
  have again : ofRecord formula.toRecord = .ok formula :=
    formula.ofRecord_toRecord.trans (if_pos finite)
  simp only [decoder, record, bind, Except.bind, again]
  rfl

theorem Expression.toJson_ne_null (formula : Expression) : formula.toJson ≠ .null := by
  rw [toJson]
  cases formula.toRecord with
  | node type data children =>
    rw [OperatorRecord.toJson]
    intro same
    cases same

/-! ## Scenarios -/

/-- The text of the time is read as the time. -/
def Instant.ReadsBack (instant : Instant) : Prop := ofText? instant.text = some instant

theorem Scenario.reads {scenario : Scenario} (created : scenario.createdAt.ReadsBack) :
    decoder.Reads scenario.toJson scenario := by
  have live : Uuid.decoder.option.Reads (Json.ofOption Uuid.toJson scenario.live) scenario.live :=
    Decoder.ofOption_reads (fun id _ => id.reads) (fun _ _ => nofun)
  have members : record.Holds _ scenario :=
    .map (cons scenario.id.reads (by decide)
      (cons scenario.organization.reads (by decide)
        (cons (Decoder.string_reads scenario.name) (by decide)
          (cons (Decoder.string_reads scenario.description) (by decide)
            (cons (Decoder.string_reads scenario.triggerTable) (by decide)
              (cons live (by decide)
                (member (Instant.reads created)))))))) _
  exact members.reads

/-! ## Iterations -/

theorem IterationState.reads (state : IterationState) : decoder.Reads state.toJson state :=
  Decoder.name_reads (by cases state <;> decide)

theorem Rule.decoder_reads {rule : Rule} (created : rule.createdAt.ReadsBack)
    (finite : rule.formula.IsFinite) : decoder.Reads rule.toJson rule := by
  have members : record.Holds _ rule :=
    .map (cons rule.id.reads (by decide)
      (cons (Decoder.uint32_reads rule.displayOrder) (by decide)
        (cons (Decoder.string_reads rule.name) (by decide)
          (cons (Decoder.string_reads rule.description) (by decide)
            (cons (Expression.decoder_reads finite) (by decide)
              (cons (Decoder.int64_reads rule.scoreModifier) (by decide)
                (member (Instant.reads created)))))))) _
  exact members.reads

theorem Iteration.reads {iteration : Iteration} (created : iteration.createdAt.ReadsBack)
    (updated : iteration.updatedAt.ReadsBack)
    (ruleTimes : ∀ rule ∈ iteration.rules, rule.createdAt.ReadsBack)
    (finite : ∀ formula, iteration.HasFormula formula → formula.IsFinite) :
    decoder.Reads iteration.toJson iteration := by
  have trigger : iteration.trigger.IsFinite := finite _ (.inl rfl)
  have rules : (Decoder.list Rule.decoder).Reads (.array (iteration.rules.map Rule.toJson))
      iteration.rules := Decoder.list_reads fun rule listed =>
    Rule.decoder_reads (ruleTimes rule listed) (finite _ (.inr ⟨rule, listed, rfl⟩))
  have members : record.Holds _ iteration :=
    .map (cons iteration.id.reads (by decide)
      (cons iteration.scenario.reads (by decide)
        (cons (Decoder.uint32_reads iteration.version) (by decide)
          (cons (Expression.decoder_reads trigger) (by decide)
            (cons rules (by decide)
              (cons (Decoder.int64_reads iteration.reviewThreshold) (by decide)
                (cons (Decoder.int64_reads iteration.rejectThreshold) (by decide)
                  (cons iteration.state.reads (by decide)
                    (cons (Instant.reads created) (by decide)
                      (member (Instant.reads updated))))))))))) _
  exact members.reads

/-! ## Drafts and edits -/

theorem RuleDraft.reads {draft : RuleDraft} (finite : draft.formula.IsFinite) :
    decoder.Reads draft.toJson draft := by
  have members : record.Holds _ draft :=
    .map (cons (Decoder.uint32_reads draft.displayOrder) (by decide)
      (cons (Decoder.string_reads draft.name) (by decide)
        (cons (Decoder.string_reads draft.description) (by decide)
          (cons (Expression.decoder_reads finite) (by decide)
            (member (Decoder.int64_reads draft.scoreModifier)))))) _
  exact members.reads

/-- Rules that are to be made are read back in their order. -/
theorem RuleDraft.list_reads {drafts : List RuleDraft}
    (finite : ∀ draft ∈ drafts, draft.formula.IsFinite) :
    (Decoder.list decoder).Reads (.array (drafts.map toJson)) drafts :=
  Decoder.list_reads fun draft listed => reads (finite draft listed)

theorem IterationDraft.reads {draft : IterationDraft} (trigger : draft.trigger.IsFinite)
    (rules : ∀ rule ∈ draft.rules, rule.formula.IsFinite) :
    decoder.Reads draft.toJson draft := by
  have members : record.Holds _ draft :=
    .map (cons (Expression.decoder_reads trigger) (by decide)
      (cons (RuleDraft.list_reads rules) (by decide)
        (cons (Decoder.int64_reads draft.reviewThreshold) (by decide)
          (member (Decoder.int64_reads draft.rejectThreshold))))) _
  exact members.reads

/-- An edit is read back: what it leaves as it is, is absent again. -/
theorem IterationEdit.reads {edit : IterationEdit}
    (trigger : ∀ formula ∈ edit.trigger, formula.IsFinite)
    (rules : ∀ drafts ∈ edit.rules, ∀ draft ∈ drafts, draft.formula.IsFinite) :
    decoder.Reads edit.toJson edit := by
  have readsTrigger : Expression.decoder.option.Reads
      (Json.ofOption Expression.toJson edit.trigger) edit.trigger :=
    Decoder.ofOption_reads
      (fun formula present => Expression.decoder_reads (trigger formula present))
      (fun formula _ => formula.toJson_ne_null)
  have readsRules : (Decoder.list RuleDraft.decoder).option.Reads
      (Json.ofOption (fun drafts => .array (drafts.map RuleDraft.toJson)) edit.rules) edit.rules :=
    Decoder.ofOption_reads (fun drafts present => RuleDraft.list_reads (rules drafts present))
      (fun _ _ => nofun)
  have threshold (value : Option Int64) :
      Decoder.int64.option.Reads (Json.ofOption Json.ofInt64 value) value :=
    Decoder.ofOption_reads (fun word _ => Decoder.int64_reads word) (fun _ _ => nofun)
  have members : record.Holds _ edit :=
    .map (cons readsTrigger (by decide)
      (cons readsRules (by decide)
        (cons (threshold edit.reviewThreshold) (by decide)
          (one (threshold edit.rejectThreshold))))) _
  exact members.reads

/-! ## All records -/

/-- What is stored survives JSON: every data model, scenario and iteration, and every draft and edit
of an iteration is decoded from its own JSON as it was. Data models may have any names, and tables
may be stored under any keys. Formulas may be of any depth, with empty slots; only their literal
doubles have to be finite. Of times it is assumed that their texts are read back. -/
theorem stored_records_read_back :
    (∀ model : DataModel, DataModel.decoder (.ofJson model.toJson) = .ok model) ∧
    (∀ scenario : Scenario, scenario.createdAt.ReadsBack →
      Scenario.decoder (.ofJson scenario.toJson) = .ok scenario) ∧
    (∀ iteration : Iteration, iteration.createdAt.ReadsBack → iteration.updatedAt.ReadsBack →
      (∀ rule ∈ iteration.rules, rule.createdAt.ReadsBack) →
      (∀ formula, iteration.HasFormula formula → formula.IsFinite) →
        Iteration.decoder (.ofJson iteration.toJson) = .ok iteration) ∧
    (∀ draft : IterationDraft, draft.trigger.IsFinite →
      (∀ rule ∈ draft.rules, rule.formula.IsFinite) →
        IterationDraft.decoder (.ofJson draft.toJson) = .ok draft) ∧
    (∀ edit : IterationEdit, (∀ formula ∈ edit.trigger, formula.IsFinite) →
      (∀ drafts ∈ edit.rules, ∀ draft ∈ drafts, draft.formula.IsFinite) →
        IterationEdit.decoder (.ofJson edit.toJson) = .ok edit) := by
  refine ⟨?_, ?_, ?_, ?_, ?_⟩
  · intro model
    exact model.reads.ofJson
  · intro scenario created
    exact (Scenario.reads created).ofJson
  · intro iteration created updated ruleTimes finite
    exact (Iteration.reads created updated ruleTimes finite).ofJson
  · intro draft trigger rules
    exact (IterationDraft.reads trigger rules).ofJson
  · intro edit trigger rules
    exact (IterationEdit.reads trigger rules).ofJson

/-- A scenario without a live iteration, and without a name. -/
def Scenario.unnamed : Scenario where
  id := ⟨1⟩
  organization := ⟨2⟩
  name := ""
  description := "\"a\n"
  triggerTable := ""
  live := none
  createdAt := ⟨1700000000, 0⟩

/-- An iteration with words at the ends of their ranges, whose rules are stored against their
display order. The formula of a rule nests deeper than any text that is read may. -/
def Iteration.extreme : Iteration where
  id := ⟨3⟩
  scenario := ⟨1⟩
  version := 4294967295
  trigger := .mixed
  rules := [
    ⟨⟨4⟩, 4294967295, "", "\"a\n", Expression.mixed.negated 200, -9223372036854775808,
      ⟨1700000000, 0⟩⟩,
    ⟨⟨5⟩, 0, "last", "", .not none, 9223372036854775807, ⟨1700000000, 123000000⟩⟩]
  reviewThreshold := 9223372036854775807
  rejectThreshold := -9223372036854775808
  state := .unpublished
  createdAt := ⟨1700000000, 0⟩
  updatedAt := ⟨1700000000, 123000000⟩

/-- The tables are stored under other keys than their names, and one links to what is not there. -/
def DataModel.unusual : DataModel :=
  ⟨⟨[("", ⟨"orders", ⟨[("\n", ⟨.timestamp, true⟩), ("id", ⟨.int, false⟩)], by decide⟩,
      ⟨[("", ⟨"nowhere", "", "\n"⟩)], by decide⟩⟩),
    ("orders", .named "")], by decide⟩⟩

def IterationDraft.deep : IterationDraft where
  trigger := Expression.mixed.negated 200
  rules := [⟨4294967295, "", "", .mixed, -1⟩, ⟨0, "", "", .bool true, 1⟩]
  reviewThreshold := 0
  rejectThreshold := -1

/-- An edit that leaves the trigger condition and a threshold as they are. -/
def IterationEdit.sparse : IterationEdit where
  trigger := none
  rules := some IterationDraft.deep.rules
  reviewThreshold := some (-9223372036854775808)
  rejectThreshold := none

/-- The unusual records are read back. -/
theorem stored_records_read_back_extreme :
    DataModel.decoder (.ofJson DataModel.unusual.toJson) = .ok .unusual ∧
    Scenario.decoder (.ofJson Scenario.unnamed.toJson) = .ok .unnamed ∧
    Iteration.decoder (.ofJson Iteration.extreme.toJson) = .ok .extreme ∧
    IterationDraft.decoder (.ofJson IterationDraft.deep.toJson) = .ok .deep ∧
    IterationEdit.decoder (.ofJson IterationEdit.sparse.toJson) = .ok .sparse := by
  obtain ⟨models, scenarios, iterations, drafts, edits⟩ := stored_records_read_back
  have whole : Instant.ReadsBack ⟨1700000000, 0⟩ := by with_unfolding_all rfl
  have fraction : Instant.ReadsBack ⟨1700000000, 123000000⟩ := by with_unfolding_all rfl
  have mixed : Expression.mixed.IsFinite := by decide
  have deep : (Expression.mixed.negated 200).IsFinite := by
    rw [Expression.IsFinite, Expression.floats_negated]
    exact mixed
  have rules : ∀ rule ∈ IterationDraft.deep.rules, rule.formula.IsFinite :=
    List.forall_mem_cons.mpr ⟨mixed, List.forall_mem_singleton.mpr (by decide)⟩
  refine ⟨models _, scenarios _ whole, iterations _ whole fraction ?_ ?_, drafts _ deep rules,
    edits _ nofun ?_⟩
  · exact List.forall_mem_cons.mpr ⟨whole, List.forall_mem_singleton.mpr fraction⟩
  · rintro formula (rfl | ⟨rule, listed, rfl⟩)
    · exact mixed
    · revert rule
      exact List.forall_mem_cons.mpr ⟨deep, List.forall_mem_singleton.mpr (by decide)⟩
  · rintro _ ⟨⟩
    exact rules

end RiskScoring
