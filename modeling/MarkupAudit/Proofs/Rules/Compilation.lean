/-
# Rule sets and their tables

What the rules of a set have to do with the definitions of the table that it is made from. There
is one rule for each definition, in the same order, and it says what its definition says, with the
name of the tag in lower case. So a table with other definitions can be compiled if rules for these
are at hand, and whatever looks at the definitions alone can be said of the table.
-/

import Mathlib.Data.List.Forall2
import MarkupAudit.Rules.Inspection

namespace MarkupAudit

theorem bind_eq_ok_iff {ε α β : Type} {first : Except ε α} {rest : α → Except ε β}
    {result : β} :
    (first >>= rest) = .ok result ↔ ∃ value, first = .ok value ∧ rest value = .ok result := by
  cases first <;> simp [bind, Except.bind]

/-- A step is taken for each item of a list with success exactly if there is a result for each. -/
theorem mapM_eq_ok_iff {ε α β : Type} {step : α → Except ε β} {items : List α}
    {results : List β} :
    items.mapM step = .ok results ↔
      List.Forall₂ (fun item result => step item = .ok result) items results := by
  induction items generalizing results with
  | nil =>
      rw [List.forall₂_nil_left_iff]
      exact ⟨fun made => (Except.ok.inj made).symm, fun none => none ▸ rfl⟩
  | cons item rest ih =>
      rw [List.mapM_cons, bind_eq_ok_iff]
      constructor
      · rintro ⟨result, first, made⟩
        obtain ⟨others, later, same⟩ := bind_eq_ok_iff.mp made
        cases same
        exact .cons first (ih.mp later)
      · rintro (_ | ⟨first, later⟩)
        exact ⟨_, first, bind_eq_ok_iff.mpr ⟨_, ih.mpr later, rfl⟩⟩

/-- If each step can be taken with success, all of them can. -/
theorem exists_mapM {ε α β : Type} {step : α → Except ε β} {items : List α}
    (each : ∀ item ∈ items, ∃ result, step item = .ok result) :
    ∃ results, items.mapM step = .ok results := by
  simp only [mapM_eq_ok_iff]
  induction items with
  | nil => exact ⟨[], .nil⟩
  | cons item rest ih =>
      obtain ⟨result, first⟩ := each item List.mem_cons_self
      obtain ⟨results, others⟩ :=
        ih fun other listed => each other (List.mem_cons_of_mem item listed)
      exact ⟨result :: results, .cons first others⟩

/-- Lists whose items correspond have the same keys, if items that correspond have the same key. -/
theorem map_eq_map_of_forall₂ {α β κ : Type} {corresponds : α → β → Prop} {key : α → κ}
    {other : β → κ} (sameKey : ∀ item result, corresponds item result → other result = key item)
    {items : List α} {results : List β} (each : List.Forall₂ corresponds items results) :
    results.map other = items.map key := by
  rw [← List.forall₂_eq_eq_eq, List.forall₂_map_left_iff, List.forall₂_map_right_iff]
  exact each.flip.imp fun result item => sameKey item result

/-- The name of the tag that is defined, as documents have it. -/
def TagDefinition.tag (definition : TagDefinition) : String :=
  Text.lowercase definition.name

/-- The rule of a tag has its definition, with the name in lower case, and the rules for its
attributes. -/
theorem TagRule.compile_eq_ok_iff {definition : TagDefinition} {rule : TagRule} :
    compile definition = .ok rule ↔
      rule.definition = { definition with name := definition.tag } ∧
        definition.attributes.mapM (AttributeRule.compile definition.tag) =
          .ok rule.attributes := by
  rw [compile, bind_eq_ok_iff]
  constructor
  · rintro ⟨attributes, made, same⟩
    cases same
    exact ⟨rfl, made⟩
  · rintro ⟨same, made⟩
    refine ⟨rule.attributes, made, ?_⟩
    exact congrArg (fun lowered => Except.ok (TagRule.mk lowered rule.attributes)) same.symm

/-- What is found on account of a definition if its tag is mandatory and missing. -/
def TagDefinition.missingReport (context : Context) (definition : TagDefinition) : Violation :=
  (Violation.found context .mandatoryTagMissing [definition.tag]).documentedAt definition.specUrl

namespace RuleSet

variable {table : RuleTable} {rules : RuleSet}

/-- A rule set has the global attributes of its table, and a rule for each definition. -/
theorem compile_eq_ok_iff :
    compile table = .ok rules ↔
      rules.name = table.name ∧ rules.version = table.version ∧
        rules.globalAttributes = table.globalAttributes ∧
        List.Forall₂ (fun definition rule => TagRule.compile definition = .ok rule)
          table.tags rules.tags := by
  rw [compile, bind_eq_ok_iff, ← mapM_eq_ok_iff]
  constructor
  · rintro ⟨tags, made, same⟩
    cases same
    exact ⟨rfl, rfl, rfl, made⟩
  · obtain ⟨name, version, globalAttributes, tags⟩ := rules
    rintro ⟨rfl, rfl, rfl, made⟩
    exact ⟨tags, made, rfl⟩

/-- Other rules, made from other definitions, take the place of those of a table. -/
theorem compile_with_tags (compiled : compile table = .ok rules) {definitions : List TagDefinition}
    {tags : List TagRule}
    (made : List.Forall₂ (fun definition rule => TagRule.compile definition = .ok rule)
      definitions tags) :
    compile { table with tags := definitions } = .ok { rules with tags := tags } := by
  obtain ⟨name, version, globalAttributes, _⟩ := compile_eq_ok_iff.mp compiled
  exact compile_eq_ok_iff.mpr ⟨name, version, globalAttributes, made⟩

/-- The names of rules are the tags that are defined. -/
theorem map_name_of_compile (compiled : compile table = .ok rules) :
    rules.tags.map (·.definition.name) = table.tags.map TagDefinition.tag := by
  obtain ⟨_, _, _, made⟩ := compile_eq_ok_iff.mp compiled
  refine map_eq_map_of_forall₂ ?_ made
  intro definition rule madeRule
  rw [(TagRule.compile_eq_ok_iff.mp madeRule).1]

/-- Which mandatory tags are missing can be read off the table. -/
theorem missingTagFindings_of_compile (compiled : compile table = .ok rules) (context : Context)
    (tally : Tally) :
    rules.missingTagFindings context tally =
      (table.tags.filter fun definition =>
        definition.mandatory && tally.count definition.tag == 0).map
          (TagDefinition.missingReport context) := by
  obtain ⟨_, _, _, made⟩ := compile_eq_ok_iff.mp compiled
  unfold missingTagFindings
  generalize table.tags = definitions, rules.tags = tags at made
  induction made with
  | nil => rfl
  | cons first _ ih =>
      have same := (TagRule.compile_eq_ok_iff.mp first).1
      simp only [List.filter_cons, same]
      split
      · rw [List.map_cons, List.map_cons, ih, same]
        rfl
      · exact ih

end RuleSet

end MarkupAudit
