/-
# What is reported under a code

Every check reports under codes of its own, so what one check has found on an element can be told
from the rest by the code alone. Here this is said once for each check: of its findings, those with
a given code are all or none. What a theorem says of one check can then be said of everything that
an element is reported for.

The question about a tag is looked at from outside, by what it appends to the audit of a run.
-/

import MarkupAudit.Proofs.Rules.Causes

namespace MarkupAudit

/-! ## Violations with a code -/

namespace Violation

@[simp]
theorem code_found (context : Context) (code : Code) (params : List String) :
    (found context code params).code = code :=
  (tells_found context code params).code_eq

@[simp]
theorem code_asWarning (violation : Violation) : violation.asWarning.code = violation.code := rfl

@[simp]
theorem code_documentedAt (violation : Violation) (url : Option String) :
    (violation.documentedAt url).code = violation.code := by
  cases url <;> rfl

@[simp]
theorem code_categorized (violation : Violation) :
    violation.categorized.code = violation.code := rfl

/-- Those of some violations that have a given code, in order. -/
def withCode (code : Code) (violations : List Violation) : List Violation :=
  violations.filter (·.code == code)

@[simp]
theorem mem_withCode {code : Code} {violations : List Violation} {violation : Violation} :
    violation ∈ withCode code violations ↔ violation ∈ violations ∧ violation.code = code := by
  rw [withCode, List.mem_filter, beq_iff_eq]

@[simp]
theorem withCode_append (code : Code) (first second : List Violation) :
    withCode code (first ++ second) = withCode code first ++ withCode code second :=
  List.filter_append first second

@[simp]
theorem withCode_flatMap {α : Type} (code : Code) (report : α → List Violation) (items : List α) :
    withCode code (items.flatMap report) = items.flatMap fun item => withCode code (report item) :=
  List.filter_flatMap

/-- What leaves every code as it is can be done before or after. -/
theorem withCode_map {change : Violation → Violation}
    (keeps : ∀ violation, (change violation).code = violation.code) (code : Code)
    (violations : List Violation) :
    withCode code (violations.map change) = (withCode code violations).map change := by
  simp only [withCode, List.filter_map, Function.comp_def, keeps]

/-- Of violations with one code, all have a given code or none. -/
theorem withCode_of_forall {own : Code} {violations : List Violation}
    (all : ∀ violation ∈ violations, violation.code = own) (code : Code) :
    withCode code violations = if own = code then violations else [] := by
  by_cases same : own = code
  · rw [if_pos same]
    exact List.filter_eq_self.mpr fun violation listed =>
      beq_iff_eq.mpr ((all violation listed).trans same)
  · rw [if_neg same]
    refine List.filter_eq_nil_iff.mpr fun violation listed has => ?_
    exact same ((all violation listed).symm.trans (beq_iff_eq.mp has))

/-- What holds of the one code of some violations holds of all their codes. -/
theorem forall_mem_map_code {own : Code} {violations : List Violation}
    (all : ∀ violation ∈ violations, violation.code = own) {property : Code → Prop}
    (holds : property own) : ∀ code ∈ violations.map (·.code), property code :=
  List.forall_mem_map.mpr fun violation listed => (all violation listed).symm ▸ holds

/-- Violations of which none has a given code. -/
theorem withCode_eq_nil {code : Code} {violations : List Violation}
    (none : ∀ violation ∈ violations, violation.code ≠ code) : withCode code violations = [] :=
  List.filter_eq_nil_iff.mpr fun violation listed has =>
    none violation listed (beq_iff_eq.mp has)

/-- The codes with which attributes are reported one by one. -/
def attributeCodes : List Code :=
  [.invalidAttrValue, .deprecatedAttr, .disallowedAttr]

end Violation

/-! ## The codes of the checks -/

namespace TagRule

open Violation (attributeCodes withCode)

variable (rules : RuleSet) (rule : TagRule) (context : Context) (tag : String)
  (attributes : AttributeSet) (occurrences : Nat)

theorem code_of_mem_deprecationFindings :
    ∀ violation ∈ rule.deprecationFindings context tag, violation.code = .deprecatedTag := by
  unfold deprecationFindings
  split <;> simp

theorem code_of_mem_uniquenessFindings :
    ∀ violation ∈ rule.uniquenessFindings context tag occurrences,
      violation.code = .duplicateUniqueTag := by
  unfold uniquenessFindings
  split <;> simp

theorem code_of_mem_parentFindings :
    ∀ violation ∈ rule.parentFindings context tag, violation.code = .wrongParentTag := by
  unfold parentFindings
  split
  · simp
  · dsimp only
    split <;> simp

theorem code_of_mem_attributeFindings (name value : String) :
    ∀ violation ∈ attributeFindings rules rule context tag name value,
      violation.code ∈ attributeCodes := by
  unfold attributeFindings
  split
  · unfold knownAttributeFindings
    rw [List.forall_mem_append]
    constructor
    · split <;> simp [attributeCodes]
    · split <;> simp [attributeCodes]
  · split <;> simp [attributeCodes]

theorem code_of_mem_missingFindings :
    ∀ violation ∈ rule.missingFindings context tag attributes,
      violation.code = .mandatoryAttrMissing :=
  List.forall_mem_map.mpr fun _ _ => Violation.code_found _ _ _

theorem code_of_mem_oneOfFindings :
    ∀ violation ∈ rule.oneOfFindings context tag attributes,
      violation.code = .mandatoryOneofAttrMissing := by
  unfold oneOfFindings
  dsimp only
  split <;> simp

theorem code_of_mem_exclusiveFindings :
    ∀ violation ∈ rule.exclusiveFindings context tag attributes,
      violation.code = .mutuallyExclusiveAttrs := by
  unfold exclusiveFindings
  dsimp only
  split <;> simp

/-- What is found on an element under one code is what its check has found. -/
theorem withCode_findings (code : Code) :
    withCode code (rule.findings rules context tag attributes occurrences) =
      ((if .deprecatedTag = code then rule.deprecationFindings context tag else []) ++
        (if .duplicateUniqueTag = code then
          rule.uniquenessFindings context tag occurrences else []) ++
        (if .wrongParentTag = code then rule.parentFindings context tag else []) ++
        withCode code (attributes.entries.flatMap fun entry =>
          attributeFindings rules rule context tag entry.1 entry.2) ++
        (if .mandatoryAttrMissing = code then
          rule.missingFindings context tag attributes else []) ++
        (if .mandatoryOneofAttrMissing = code then
          rule.oneOfFindings context tag attributes else []) ++
        (if .mutuallyExclusiveAttrs = code then
          rule.exclusiveFindings context tag attributes else [])).map
        (·.documentedAt rule.definition.specUrl) := by
  rw [findings, Violation.withCode_map fun _ => Violation.code_documentedAt _ _]
  simp only [Violation.withCode_append,
    Violation.withCode_of_forall (rule.code_of_mem_deprecationFindings context tag),
    Violation.withCode_of_forall (rule.code_of_mem_uniquenessFindings context tag occurrences),
    Violation.withCode_of_forall (rule.code_of_mem_parentFindings context tag),
    Violation.withCode_of_forall (rule.code_of_mem_missingFindings context tag attributes),
    Violation.withCode_of_forall (rule.code_of_mem_oneOfFindings context tag attributes),
    Violation.withCode_of_forall (rule.code_of_mem_exclusiveFindings context tag attributes)]

/-- The attributes one by one are reported under no other codes than theirs. -/
theorem withCode_attributeFindings {code : Code} (other : code ∉ attributeCodes) :
    withCode code (attributes.entries.flatMap fun entry =>
      attributeFindings rules rule context tag entry.1 entry.2) = [] := by
  refine Violation.withCode_eq_nil fun violation listed same => other ?_
  obtain ⟨entry, _, found⟩ := List.mem_flatMap.mp listed
  exact same ▸ code_of_mem_attributeFindings rules rule context tag entry.1 entry.2 violation found

end TagRule

/-! ## Questions about tags -/

/-- What the question about a tag appends to the audit of a run. -/
def Run.appended {σ : Type} (inspector : Inspector σ) (run : Run σ) (tag : String)
    (attributes : AttributeSet) : List Violation :=
  (run.askTag inspector tag attributes).1.audit.violations.toList.drop run.audit.violations.size

/-- Something is reported under a code when a question about a tag is put. -/
def Run.Reports {σ : Type} (inspector : Inspector σ) (run : Run σ) (tag : String)
    (attributes : AttributeSet) (code : Code) : Prop :=
  ∃ violation ∈ run.appended inspector tag attributes, violation.code = code

instance {σ : Type} (inspector : Inspector σ) (run : Run σ) (tag : String)
    (attributes : AttributeSet) (code : Code) :
    Decidable (run.Reports inspector tag attributes code) := by
  unfold Run.Reports
  infer_instance

/-- Something with given parameters is reported under a code when a question about a tag is put. -/
def Run.Tells {σ : Type} (inspector : Inspector σ) (run : Run σ) (tag : String)
    (attributes : AttributeSet) (code : Code) (params : List String) : Prop :=
  ∃ violation ∈ run.appended inspector tag attributes, violation.Tells code params

/-- A run that has turned to its first element, and has found nothing yet. -/
def Run.freshlyTurned : Run Tally :=
  ⟨{ Context.start with phase := .local, tagsProcessed := 1 }, .empty, .empty⟩

namespace RuleSet

variable (rules : RuleSet) {run : Run Tally}

/-- In the local phase the question about a tag does not fail as long as the audit is open. -/
theorem askTag_of_local (isLocal : run.context.phase = .local)
    (isOpen : run.audit.isClosed = false) (tag : String) (attributes : AttributeSet) :
    run.askTag rules.inspector tag attributes =
      (⟨run.context,
        run.audit.extend
          (rules.tagFindings run.context tag attributes (run.state.count tag + 1)),
        run.state.record tag⟩, none) := by
  rw [Run.askTag, Run.take_of_isOpen isOpen, inspectTag_of_local rules isLocal]
  dsimp only
  rw [Tally.count_record, if_pos rfl]

theorem appended_of_local (isLocal : run.context.phase = .local)
    (isOpen : run.audit.isClosed = false) (tag : String) (attributes : AttributeSet) :
    run.appended rules.inspector tag attributes =
      rules.tagFindings run.context tag attributes (run.state.count tag + 1) := by
  rw [Run.appended, rules.askTag_of_local isLocal isOpen, Audit.toList_violations_extend,
    ← Array.length_toList, List.drop_left]

/-- For a tag that has a rule, what the rule finds is appended. -/
theorem appended_of_defined {tag : String} {rule : TagRule} (defined : rules.tag? tag = some rule)
    (isLocal : run.context.phase = .local) (isOpen : run.audit.isClosed = false)
    (attributes : AttributeSet) :
    run.appended rules.inspector tag attributes =
      rule.findings rules run.context tag attributes (run.state.count tag + 1) := by
  rw [rules.appended_of_local isLocal isOpen, tagFindings, defined]

/-- Out of the local phase or with a closed audit, nothing is appended. -/
theorem appended_of_not_local (notOpen : ¬(run.context.phase = .local ∧ run.audit.isClosed = false))
    (tag : String) (attributes : AttributeSet) :
    run.appended rules.inspector tag attributes = [] := by
  rw [Run.appended, Run.askTag, Run.take_eq]
  dsimp only
  rw [Audit.toList_violations_extend, ← Array.length_toList, List.drop_left, Audit.taken]
  cases state : run.audit.isClosed with
  | true => rw [if_pos rfl]
  | false =>
      have notLocal : ¬run.context.phase = .local := fun isLocal => notOpen ⟨isLocal, state⟩
      simp only [inspector, if_neg notLocal, ite_self]

end RuleSet

end MarkupAudit
