import AccessPolicy.Proofs.Condition.Entry
import AccessPolicy.Proofs.Context
import AccessPolicy.Proofs.Result

/-!
Entries of conditions, said of one value of their key at a time.

A key with several values is settled by the plain operator on each value alone: one has to hold or
all have to. What remains is the key without values, where set operator and ending decide.
-/

namespace AccessPolicy

/-- The context in which one name has one value and no other name has any. -/
def Context.single (name value : String) : Context :=
  -- The name may be spelled in any letter case.
  .ofEntries [(name, [value])]

/-- The name of such a context has its one value. -/
theorem Context.values?_single (name value : String) :
    ((single name value).values? name).getD [] = [value] := by
  rw [single, values?_ofEntries, collected_cons, if_pos rfl]
  rfl

namespace Condition

/-- A result is an answer, which is yes exactly where a statement holds. -/
def Decides (result : Except Fault Bool) (statement : Prop) : Prop :=
  -- A refusal is no answer.
  ∃ answer, result = .ok answer ∧ (answer = true ↔ statement)

variable {result : Except Fault Bool} {statement other : Prop}

/-- What decides a statement decides whatever is true together with it. -/
theorem Decides.congr (decides : Decides result statement) (same : statement ↔ other) :
    Decides result other := by
  obtain ⟨answer, answered, truth⟩ := decides
  exact ⟨answer, answered, truth.trans same⟩

/-- What decides a statement answers with yes exactly where it holds. -/
theorem Decides.eq_true_iff (decides : Decides result statement) :
    result = .ok true ↔ statement := by
  obtain ⟨answer, answered, truth⟩ := decides
  rw [answered, Except.ok.injEq, truth]

/-- The key of an operator by itself, without a set operator and without an ending. -/
def OperatorKey.plain (base : Operator) : OperatorKey :=
  -- Such a key is written as the name of its operator.
  ⟨base.name, base, false, none⟩

/-- A key differs from another in its ending alone, which only the first one has. -/
structure OperatorKey.AddsEnding (key bare : OperatorKey) : Prop where
  base : key.base = bare.base
  quantifier : key.quantifier = bare.quantifier
  ending : key.ifExists = true
  bare : bare.ifExists = false

namespace Entry

variable {entry : Entry} {context : Context}

/-- The entry that asks the same by its plain operator. -/
def plain (entry : Entry) : Entry :=
  -- Key and expected values stay.
  { entry with operator := .plain entry.operator.base }

/-- An entry asks all values to hold if its set operator or, without one, its negation does. -/
theorem asksAll_eq_true_iff :
    entry.asksAll = true ↔ entry.operator.quantifier = some .forAllValues ∨
      entry.operator.quantifier = none ∧ entry.operator.base.negated = true := by
  rcases quantified : entry.operator.quantifier with _ | _ | _ <;> simp [asksAll, quantified]

/-- An entry asks one value to hold if its set operator or, without one, its operator does. -/
theorem asksAll_eq_false_iff :
    entry.asksAll = false ↔ entry.operator.quantifier = some .forAnyValue ∨
      entry.operator.quantifier = none ∧ entry.operator.base.negated = false := by
  rcases quantified : entry.operator.quantifier with _ | _ | _ <;> simp [asksAll, quantified]

/-- The plain operator answers about a value that is alone in its context. -/
theorem evaluate_plain_single (typed : entry.operator.base ≠ .null) (value : String) :
    entry.plain.evaluate (.single entry.key value) =
      .ok (entry.operator.base.holds value entry.values) := by
  have settled : entry.plain.operator.isUnsettled = false := rfl
  have evaluated := evaluate_of_typed settled typed (.single entry.key value)
  rw [show entry.plain.key = entry.key from rfl, Context.values?_single] at evaluated
  -- Over a single value, asking one and asking all are the same.
  simpa [plain, OperatorKey.plain] using evaluated

/-- A key with values is settled by the plain operator on each of them alone. -/
theorem evaluate_of_values (typed : entry.operator.base ≠ .null)
    (settled : entry.operator.isUnsettled = false)
    (filled : (context.values? entry.key).getD [] ≠ []) :
    Decides (entry.evaluate context)
      (if entry.asksAll then ∀ value ∈ (context.values? entry.key).getD [],
        entry.plain.evaluate (.single entry.key value) = .ok true
      else ∃ value ∈ (context.values? entry.key).getD [],
        entry.plain.evaluate (.single entry.key value) = .ok true) := by
  refine ⟨_, evaluate_of_typed settled typed context, ?_⟩
  simp only [List.isEmpty_iff, if_neg filled, evaluate_plain_single typed, Except.ok.injEq]
  cases entry.asksAll with
  | true => exact List.all_eq_true
  | false => exact List.any_eq_true

/-- A key without values is settled by the ending and the set operator. -/
theorem evaluate_of_no_values (typed : entry.operator.base ≠ .null)
    (settled : entry.operator.isUnsettled = false)
    (absent : (context.values? entry.key).getD [] = []) :
    Decides (entry.evaluate context)
      (entry.operator.ifExists = true ∨ entry.operator.quantifier = some .forAllValues) := by
  refine ⟨_, evaluate_of_typed settled typed context, ?_⟩
  simp [absent]

/-- With the ending an entry holds where its key has no values, and else where it held before. -/
theorem evaluate_of_addsEnding (typed : entry.operator.base ≠ .null)
    (settled : entry.operator.isUnsettled = false) {bare : OperatorKey}
    (adds : entry.operator.AddsEnding bare) :
    Decides (entry.evaluate context)
      ((context.values? entry.key).getD [] = [] ∨
        { entry with operator := bare }.evaluate context = .ok true) := by
  by_cases absent : (context.values? entry.key).getD [] = []
  · exact (evaluate_of_no_values typed settled absent).congr (by simp [adds.ending, absent])
  · -- The ending plays no part where there are values.
    have same : entry.evaluate context = { entry with operator := bare }.evaluate context := by
      have settledToo : bare.isUnsettled = false := by
        rwa [OperatorKey.isUnsettled, ← adds.quantifier, ← adds.base]
      have typedToo : bare.base ≠ .null := adds.base ▸ typed
      have asks : entry.asksAll = asksAll { entry with operator := bare } := by
        rw [asksAll, asksAll, adds.base, adds.quantifier]
      rw [evaluate_of_typed settled typed, evaluate_of_typed settledToo typedToo]
      simp only [List.isEmpty_iff, if_neg absent, asks, adds.base]
    obtain ⟨answer, answered, -⟩ := evaluate_of_values typed settled absent
    exact ⟨answer, answered, by simp [absent, ← same, answered]⟩

/-- A test for presence asks by its first value whether the key has no values. -/
theorem evaluate_of_truth (presence : entry.operator.base = .null) {written : String}
    {later : List String} (values : entry.values = written :: later) {truth : Bool}
    (read : Value.readTruth? written = some truth) :
    Decides (entry.evaluate context)
      (truth = true ↔ (context.values? entry.key).getD [] = []) := by
  have settled : entry.operator.isUnsettled = false := by
    simp [OperatorKey.isUnsettled, presence, Operator.negated]
  refine ⟨_, by rw [evaluate_of_presence settled presence, presenceHolds, values]; rfl, ?_⟩
  rw [read, beq_iff_eq, Option.some.injEq, Bool.eq_iff_iff, List.isEmpty_iff]

/-- An entry answers if it has a settled meaning and, as a test for presence, a value. -/
theorem exists_evaluate (settled : entry.operator.isUnsettled = false)
    (valued : entry.operator.base = .null → entry.values ≠ []) (context : Context) :
    ∃ answer, entry.evaluate context = .ok answer := by
  by_cases presence : entry.operator.base = .null
  · obtain ⟨written, later, values⟩ := List.exists_cons_of_ne_nil (valued presence)
    exact ⟨_, by rw [evaluate_of_presence settled presence, presenceHolds, values]; rfl⟩
  · exact ⟨_, evaluate_of_typed settled presence context⟩

end Entry

/--
Entries of conditions decompose into single values.

An entry with a settled meaning whose key has values holds where the plain operator holds of one of
them alone, or of each of them alone. Without values, only the set operator for all values lets it
hold. The ending adds the case without values, which is the one that a test for presence asks about.
A block asks for all of its entries, in whatever order they stand.
-/
theorem evaluate_decomposes :
    (∀ (entry : Entry) (context : Context), entry.operator.base ≠ .null →
      entry.operator.isUnsettled = false →
        let values := (context.values? entry.key).getD []
        let alone (value : String) : Prop :=
          entry.plain.evaluate (.single entry.key value) = .ok true
        let quantifier := entry.operator.quantifier
        let negated := entry.operator.base.negated
        (values ≠ [] → quantifier = some .forAnyValue ∨ quantifier = none ∧ negated = false →
          Decides (entry.evaluate context) (∃ value ∈ values, alone value)) ∧
        (values ≠ [] → quantifier = some .forAllValues ∨ quantifier = none ∧ negated = true →
          Decides (entry.evaluate context) (∀ value ∈ values, alone value)) ∧
        (values = [] → entry.operator.ifExists = false →
          Decides (entry.evaluate context) (quantifier = some .forAllValues)) ∧
        ∀ bare, entry.operator.AddsEnding bare → Decides (entry.evaluate context)
          (values = [] ∨ { entry with operator := bare }.evaluate context = .ok true)) ∧
    (∀ (entry : Entry) (context : Context) (written : String) (later : List String),
      entry.operator.base = .null → entry.values = written :: later →
        let values := (context.values? entry.key).getD []
        (Value.readTruth? written = some true → Decides (entry.evaluate context) (values = [])) ∧
        (Value.readTruth? written = some false →
          Decides (entry.evaluate context) (values ≠ []))) ∧
    ∀ (entries order : List Entry) (context : Context), order.Perm entries →
      (∀ entry ∈ entries, entry.operator.isUnsettled = false) →
        (evaluateBlock order context = .ok true ↔
          ∀ entry ∈ entries, entry.evaluate context = .ok true) ∧
        ((∀ entry ∈ entries, entry.operator.base = .null → entry.values ≠ []) →
          ∃ answer, evaluateBlock order context = .ok answer) := by
  refine ⟨fun entry context typed settled => ⟨fun filled asks => ?_, fun filled asks => ?_,
    fun absent bare => ?_, fun bare adds => Entry.evaluate_of_addsEnding typed settled adds⟩,
    fun entry context written later presence values => ⟨fun read => ?_, fun read => ?_⟩,
    fun entries order context moved settled => ⟨?_, fun valued => ?_⟩⟩
  · simpa [Entry.asksAll_eq_false_iff.mpr asks] using
      Entry.evaluate_of_values typed settled filled
  · simpa [Entry.asksAll_eq_true_iff.mpr asks] using
      Entry.evaluate_of_values typed settled filled
  · simpa [bare] using Entry.evaluate_of_no_values typed settled absent
  · simpa using Entry.evaluate_of_truth presence values read
  · simpa using Entry.evaluate_of_truth presence values read
  · -- The conjunction of all entries does not depend on their order.
    rw [evaluateBlock_eq_true_iff]
    exact forall_congr' fun entry => imp_congr_left moved.mem_iff
  · refine exists_evaluateBlock fun entry member => ?_
    have listed := moved.mem_iff.mp member
    exact Entry.exists_evaluate (settled entry listed) (valued entry listed) context

/-- An entry that asks one value of several to be a small number. -/
def smallQuota : Entry :=
  -- Values that are no numbers satisfy nothing.
  ⟨⟨"ForAnyValue:NumericLessThan", .numericLessThan, false, some .forAnyValue⟩, "Quota", ["5"]⟩

/-- An entry that asks all values, if there are any, to differ from a team. -/
def otherTeams : Entry :=
  -- A negated operator asks all values to hold by itself.
  ⟨⟨"StringNotEqualsIfExists", .stringNotEquals, true, none⟩, "team", ["ops"]⟩

/-- An entry that asks for the absence of a key. -/
def withoutDevice : Entry :=
  -- Truth values are read in any letter case.
  ⟨⟨"Null", .null, false, none⟩, "device", ["True"]⟩

/-- A context with three quotas, of which one is no number, and a key without values. -/
def quotaContext : Context :=
  -- The name is spelled in capitals here.
  .ofEntries [("QUOTA", ["9", "many", "3"]), ("device", [])]

/-- One quota is small enough, and the other two entries hold for want of values. -/
theorem evaluate_quotas :
    Decides (smallQuota.evaluate quotaContext) (∃ value ∈ ["9", "many", "3"],
      smallQuota.plain.evaluate (.single "Quota" value) = .ok true) ∧
    Decides (otherTeams.evaluate quotaContext) ([] = ([] : List String) ∨
      { otherTeams with operator := .plain .stringNotEquals }.evaluate quotaContext = .ok true) ∧
    Decides (withoutDevice.evaluate quotaContext) ([] = ([] : List String)) ∧
    evaluateBlock [withoutDevice, otherTeams, smallQuota] quotaContext = .ok true := by
  obtain ⟨typed, presence, blocks⟩ := evaluate_decomposes
  have quotas : (quotaContext.values? smallQuota.key).getD [] = ["9", "many", "3"] := by
    decide +kernel
  have teams : (quotaContext.values? otherTeams.key).getD [] = [] := by decide +kernel
  have devices : (quotaContext.values? withoutDevice.key).getD [] = [] := by decide +kernel
  obtain ⟨one, -, -, -⟩ := typed smallQuota quotaContext (by decide) (by decide)
  obtain ⟨-, -, -, ending⟩ := typed otherTeams quotaContext (by decide) (by decide)
  obtain ⟨absent, -⟩ := presence withoutDevice quotaContext "True" [] rfl rfl
  have small := one (by simp [quotas]) (.inl rfl)
  have other := ending (.plain .stringNotEquals) ⟨rfl, rfl, rfl, rfl⟩
  have without := absent (by decide +kernel)
  rw [quotas] at small
  rw [teams] at other
  rw [devices] at without
  refine ⟨small, other, without, ?_⟩
  obtain ⟨together, -⟩ := blocks [smallQuota, otherTeams, withoutDevice]
    [withoutDevice, otherTeams, smallQuota] quotaContext (by decide) (by decide)
  refine together.mpr (List.forall_mem_cons.mpr ⟨?_, List.forall_mem_cons.mpr ⟨?_, ?_⟩⟩)
  · exact small.eq_true_iff.mpr ⟨"3", by simp, eq_ok_of_toOption (by decide +kernel)⟩
  · exact other.eq_true_iff.mpr (.inl rfl)
  · exact List.forall_mem_singleton.mpr (without.eq_true_iff.mpr rfl)

end Condition

end AccessPolicy
