/-
# Overridden definitions

What becomes of the definitions of a tag that a later definition of the same tag overrides. An
element is held to the last definition alone, and so are the tags that it requires. But whether a
mandatory tag is missing is asked for every definition in turn, so a mandatory definition is heard
although it is overridden, and two of them are heard twice.

A table without its overridden definitions therefore finds the same, less these reports. It finds
exactly the same in the documents that have every tag of which a mandatory definition is
overridden.
-/

import MarkupAudit.Proofs.Rules.Abridgement
import MarkupAudit.Proofs.Rules.Compilation
import MarkupAudit.Rules.Builtin

namespace MarkupAudit

/-! ## The last of each key -/

section Last

variable {α β : Type} (key : α → String)

/-- The items of a list that no later item with the same key follows. -/
def lastOfEach : List α → List α
  | [] => []
  | item :: rest =>
      if key item ∈ rest.map key then lastOfEach rest else item :: lastOfEach rest

/-- An item stands in a list before another one with the same key. -/
def Overridden (items : List α) (item : α) : Prop :=
  ∃ before after, items = before ++ item :: after ∧ key item ∈ after.map key

theorem overridden_cons_iff (first : α) (rest : List α) (item : α) :
    Overridden key (first :: rest) item ↔
      (first = item ∧ key first ∈ rest.map key) ∨ Overridden key rest item := by
  constructor
  · rintro ⟨_ | ⟨other, before⟩, after, same, later⟩
    · cases same
      exact .inl ⟨rfl, later⟩
    · cases same
      exact .inr ⟨before, after, rfl, later⟩
  · rintro (⟨rfl, later⟩ | ⟨before, after, rfl, later⟩)
    · exact ⟨[], rest, rfl, later⟩
    · exact ⟨first :: before, after, rfl, later⟩

/-- The last item with a key is found among the last items of all keys. -/
theorem find?_reverse_lastOfEach (name : String) (items : List α) :
    (lastOfEach key items).reverse.find? (fun item => key item == name) =
      items.reverse.find? (fun item => key item == name) := by
  induction items with
  | nil => rfl
  | cons item rest ih =>
      rw [lastOfEach, List.reverse_cons, List.find?_append]
      split
      · rename_i later
        rw [ih]
        cases found : rest.reverse.find? (fun item => key item == name) with
        | some other => rfl
        | none =>
            have absent : (key item == name) = false := by
              obtain ⟨other, listed, same⟩ := List.mem_map.mp later
              have missing := List.find?_eq_none.mp found other (List.mem_reverse.mpr listed)
              rwa [same, Bool.not_eq_true] at missing
            simp only [List.find?_cons, absent, List.find?_nil, Option.or_none]
      · rw [List.reverse_cons, List.find?_append, ih]

/-- Corresponding lists have corresponding last items. -/
theorem forall₂_lastOfEach {corresponds : α → β → Prop} {other : β → String}
    (sameKey : ∀ item result, corresponds item result → other result = key item)
    {items : List α} {results : List β} (each : List.Forall₂ corresponds items results) :
    List.Forall₂ corresponds (lastOfEach key items) (lastOfEach other results) := by
  induction each with
  | nil => exact .nil
  | @cons item result rest others first later ih =>
      rw [lastOfEach, lastOfEach, map_eq_map_of_forall₂ sameKey later, sameKey item result first]
      split
      · exact ih
      · exact .cons first ih

/-- Of the items that are chosen, only overridden ones are left out. -/
theorem abridges_filter_lastOfEach (chosen : α → Bool) (items : List α) :
    Abridges (∀ item, Overridden key items item → ¬chosen item = true)
      ((lastOfEach key items).filter chosen) (items.filter chosen) := by
  induction items with
  | nil =>
      apply Abridges.unchanged
      rintro item ⟨before, after, same, _⟩
      cases before <;> cases same
  | cons item rest ih =>
      simp only [overridden_cons_iff]
      rw [lastOfEach]
      by_cases later : key item ∈ rest.map key
      · rw [if_pos later]
        by_cases isChosen : chosen item = true
        · rw [List.filter_cons_of_pos isChosen]
          refine (Abridges.skip ih.sublist item).congr (iff_of_false not_false ?_)
          intro refused
          exact refused item (.inl ⟨rfl, later⟩) isChosen
        · rw [List.filter_cons_of_neg isChosen]
          refine ih.congr ⟨?_, fun refused other overridden => refused other (.inr overridden)⟩
          rintro refused other (⟨rfl, _⟩ | overridden)
          · exact isChosen
          · exact refused other overridden
      · have same : (∀ other, (item = other ∧ key item ∈ rest.map key) ∨
            Overridden key rest other → ¬chosen other = true) ↔
              ∀ other, Overridden key rest other → ¬chosen other = true := by
          simp only [later, and_false, false_or]
        rw [if_neg later]
        by_cases isChosen : chosen item = true
        · rw [List.filter_cons_of_pos isChosen, List.filter_cons_of_pos isChosen]
          exact (ih.cons item).congr same.symm
        · rw [List.filter_cons_of_neg isChosen, List.filter_cons_of_neg isChosen]
          exact ih.congr same.symm

end Last

/-! ## Tables without their overridden definitions -/

namespace RuleTable

open TagDefinition (plain)

/-- The table without the definitions that are overridden. -/
def lastDefinitions (table : RuleTable) : RuleTable :=
  { table with tags := lastOfEach TagDefinition.tag table.tags }

/-- What the definitions of mandatory tags report of a document, one after the other. -/
def missingReports (table : RuleTable) (document : Document) : List Violation :=
  (table.tags.filter fun definition =>
    definition.mandatory && !document.hasTag definition.tag).map fun definition =>
      (definition.missingReport Context.start).categorized

/-- A table that defines a mandatory tag once more, and not as mandatory. -/
def overriding : RuleTable where
  name := "overriding"
  version := none
  globalAttributes := ["lang"]
  tags := [plain "html", plain "p", { plain "main" with mandatory := true }, plain "Main"]

end RuleTable

namespace RuleSet

open RuleTable (overriding)
open TagDefinition (plain)

/-- The rules without those that are overridden. -/
def lastRules (rules : RuleSet) : RuleSet :=
  { rules with tags := lastOfEach (·.definition.name) rules.tags }

/-- Rules for paragraphs, a language and some more. -/
def paragraphsAnd (more : List TagRule) : RuleSet :=
  ⟨"overriding", none, ["lang"], ⟨plain "html", []⟩ :: ⟨plain "p", []⟩ :: more⟩

variable {table : RuleTable} {rules : RuleSet}

/-- The rules that are not overridden are made from the definitions that are not. -/
theorem compile_lastDefinitions (compiled : compile table = .ok rules) :
    compile table.lastDefinitions = .ok rules.lastRules := by
  obtain ⟨_, _, _, made⟩ := compile_eq_ok_iff.mp compiled
  refine compile_with_tags compiled (forall₂_lastOfEach _ ?_ made)
  intro definition rule madeRule
  rw [(TagRule.compile_eq_ok_iff.mp madeRule).1]

/-- The rule for a tag is never an overridden one. -/
theorem tag?_lastRules (rules : RuleSet) : rules.lastRules.tag? = rules.tag? := by
  funext name
  exact find?_reverse_lastOfEach (·.definition.name) name rules.tags

/-- Elements are not held to overridden rules. -/
theorem elementFindings_lastRules (rules : RuleSet) (document : Document) (element : Element)
    (occurrences : Nat) :
    rules.lastRules.elementFindings document element occurrences =
      rules.elementFindings document element occurrences := by
  have globals : rules.lastRules.globalAttributes = rules.globalAttributes := rfl
  rw [elementFindings, elementFindings, tagFindings, tagFindings, tag?_lastRules]
  split
  · rfl
  · rw [TagRule.findings_congr globals]

theorem visitFindings_lastRules (rules : RuleSet) (document : Document) (before : List String)
    (elements : List Element) :
    rules.lastRules.visitFindings document before elements =
      rules.visitFindings document before elements := by
  induction elements generalizing before with
  | nil => rfl
  | cons element rest ih => rw [visitFindings, visitFindings, elementFindings_lastRules, ih]

/-- No tag is required by an overridden rule. -/
theorem requirementFindings_lastRules (rules : RuleSet) (context : Context) (tally : Tally) :
    rules.lastRules.requirementFindings context tally =
      rules.requirementFindings context tally := by
  rw [requirementFindings, requirementFindings, tag?_lastRules]

/-- What is found on account of mandatory tags are the reports of the table. -/
theorem map_categorized_missingTagFindings (compiled : compile table = .ok rules)
    {document : Document} (wellFormed : document.WellFormed) :
    (rules.missingTagFindings Context.start
        (Tally.ofNames (document.walk.map (·.name)))).map Violation.categorized =
      table.missingReports document := by
  rw [missingTagFindings_of_compile compiled, RuleTable.missingReports, List.map_map]
  simp only [Tally.count_walk_eq_zero wellFormed]
  rfl

/-- What a validation finds, with the reports of missing tags in the terms of the table. -/
theorem map_categorized_allFindings (compiled : compile table = .ok rules) {document : Document}
    (wellFormed : document.WellFormed) :
    (rules.allFindings document).map Violation.categorized =
      (rules.visitFindings document [] document.walk).map Violation.categorized ++
        table.missingReports document ++
        (rules.requirementFindings Context.start
          (Tally.ofNames (document.walk.map (·.name)))).map Violation.categorized := by
  rw [allFindings, documentFindings, List.map_append, List.map_append,
    map_categorized_missingTagFindings compiled wellFormed, List.append_assoc]

/-- A validation by a table without its overridden definitions finds the same, less what these
report as missing. So it finds exactly the same if the document has the tags of all of them that
are mandatory, and not otherwise. -/
theorem validate_lastDefinitions (compiled : compile table = .ok rules) {document : Document}
    (reachable : document.Reachable) :
    ∃ latest audit other own required,
      compile table.lastDefinitions = .ok latest ∧
      rules.validate document = .ok audit ∧ latest.validate document = .ok other ∧
      audit.violations.toList = own ++ table.missingReports document ++ required ∧
      other.violations.toList =
        own ++ table.lastDefinitions.missingReports document ++ required ∧
      (audit.violations = other.violations ↔
        ∀ definition, Overridden TagDefinition.tag table.tags definition →
          definition.mandatory = true → document.hasTag definition.tag = true) := by
  have wellFormed := reachable.wellFormed
  have compiledLatest := compile_lastDefinitions compiled
  obtain ⟨audit, validated, found, _⟩ := rules.validate_eq_ok document
  obtain ⟨other, validatedLatest, foundLatest, _⟩ := rules.lastRules.validate_eq_ok document
  rw [map_categorized_allFindings compiled wellFormed] at found
  rw [map_categorized_allFindings compiledLatest wellFormed, visitFindings_lastRules,
    requirementFindings_lastRules] at foundLatest
  have reports := (abridges_filter_lastOfEach TagDefinition.tag
    (fun definition => definition.mandatory && !document.hasTag definition.tag)
    table.tags).map fun definition => (definition.missingReport Context.start).categorized
  have fewer : Abridges (∀ definition, Overridden TagDefinition.tag table.tags definition →
      ¬(definition.mandatory && !document.hasTag definition.tag) = true)
      other.violations.toList audit.violations.toList := by
    rw [found, foundLatest]
    exact (((Abridges.refl _).append reports).append (.refl _)).congr (by simp)
  refine ⟨rules.lastRules, audit, other, _, _, compiledLatest, validated, validatedLatest, found,
    foundLatest, ?_⟩
  rw [← Array.toList_inj, eq_comm, fewer.eq_iff]
  refine forall₂_congr fun definition _ => ?_
  rw [Bool.and_eq_true, Bool.not_eq_true', not_and, Bool.not_eq_false]

/-- On a page without the tag that is defined twice, the overridden definition makes the
difference. -/
theorem validate_lastDefinitions_page :
    ∃ rules, compile overriding = .ok rules ∧ Document.page.Reachable ∧
      ∃ latest audit other own required,
        compile overriding.lastDefinitions = .ok latest ∧
        rules.validate .page = .ok audit ∧ latest.validate .page = .ok other ∧
        audit.violations.toList = own ++ overriding.missingReports .page ++ required ∧
        other.violations.toList =
          own ++ overriding.lastDefinitions.missingReports .page ++ required ∧
        (audit.violations = other.violations ↔
          ∀ definition, Overridden TagDefinition.tag overriding.tags definition →
            definition.mandatory = true → Document.page.hasTag definition.tag = true) :=
  ⟨_, rfl, Document.reachable_page, validate_lastDefinitions rfl Document.reachable_page⟩

/-- A table does not in general find what its last definitions find: a page passes them that fails
the table, because a mandatory definition is not silenced by the one that overrides it. -/
theorem overridden_definition_reported :
    ¬∀ (table : RuleTable) (rules latest : RuleSet) (document : Document) (audit other : Audit),
      compile table = .ok rules → compile table.lastDefinitions = .ok latest →
        document.Reachable → rules.validate document = .ok audit →
          latest.validate document = .ok other → audit.violations = other.violations := by
  intro same
  let lost : TagRule := ⟨{ plain "main" with mandatory := true }, []⟩
  let main : TagRule := ⟨plain "main", []⟩
  let missing := (Violation.ofDocument .mandatoryTagMissing ["main"]).categorized
  have fails : (paragraphsAnd [lost, main]).validate .page = .ok ⟨.fail, #[missing], 3, false⟩ := by
    decide +kernel
  have passes : (paragraphsAnd [main]).validate .page = .ok ⟨.pass, #[], 3, false⟩ := by
    decide +kernel
  have equal : #[missing] = #[] :=
    same overriding _ _ .page _ _ rfl rfl Document.reachable_page fails passes
  exact Nat.one_ne_zero (congrArg Array.size equal)

end RuleSet

end MarkupAudit
