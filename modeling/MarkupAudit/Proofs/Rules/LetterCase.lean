/-
# Capitals in a rule table

What becomes of a validation when all tag names in the rule table are put into lower case. For the
names of the tags that are defined this is done anyway, when the rules are made. But the parent
that a tag must have and the tags that it requires are kept as they are written, and they are
compared with the names of elements, which are in lower case. So a rule that writes them with
capitals can not be kept.

The table in lower case therefore finds the same, less what is reported of a parent or a required
tag that the document does have, but for the capitals. Where there is none of these, it reports
the same codes of the same elements, and the same status.
-/

import Mathlib.Data.List.Find
import MarkupAudit.Proofs.Rules.Abridgement
import MarkupAudit.Proofs.Rules.Compilation
import MarkupAudit.Proofs.Rules.Conformance
import MarkupAudit.Proofs.Text.Idempotence

namespace MarkupAudit

open Text (lowercase lowercase_lowercase)

/-! ## Names in lower case -/

/-- The definition with all its tag names in lower case. -/
def TagDefinition.lowercased (definition : TagDefinition) : TagDefinition :=
  { definition with
    name := lowercase definition.name
    mandatoryParent := definition.mandatoryParent.map lowercase
    requires := definition.requires.map lowercase }

/-- The tag that is defined stays the same. -/
theorem TagDefinition.tag_lowercased (definition : TagDefinition) :
    definition.lowercased.tag = definition.tag :=
  lowercase_lowercase definition.name

/-- The table with all tag names in lower case. -/
def RuleTable.lowercased (table : RuleTable) : RuleTable :=
  { table with tags := table.tags.map TagDefinition.lowercased }

/-- The rule with all its tag names in lower case. -/
def TagRule.lowercased (rule : TagRule) : TagRule :=
  { rule with definition := rule.definition.lowercased }

/-- The rules with all tag names in lower case. -/
def RuleSet.lowercased (rules : RuleSet) : RuleSet :=
  { rules with tags := rules.tags.map TagRule.lowercased }

/-- A table that writes one tag with capitals wherever it names it. -/
def RuleTable.capitals : RuleTable where
  name := "capitals"
  version := none
  globalAttributes := ["lang"]
  tags := [
    .plain "HTML",
    { TagDefinition.plain "p" with mandatoryParent := some "HTML", requires := ["HTML"] }]

/-- What the rules ask of a document, and the document has but for capitals, is asked for in lower
case. -/
structure RuleSet.AsksInLowercase (rules : RuleSet) (document : Document) : Prop where
  /-- An element is below the parent that its tag must have. -/
  parent : ∀ element ∈ document.elements, ∀ rule ∈ rules.tag? element.name,
    ∀ expected ∈ rule.definition.mandatoryParent,
      document.parentName element = lowercase expected → expected = lowercase expected
  /-- A tag occurs that the tag of an element requires. -/
  required : ∀ element ∈ document.elements, ∀ rule ∈ rules.tag? element.name,
    ∀ wanted ∈ rule.definition.requires,
      document.hasTag (lowercase wanted) = true → wanted = lowercase wanted

/-- The code of a violation, with the element that it is about. -/
def Violation.mark (violation : Violation) : Code × Option ElementId :=
  (violation.code, violation.element)

/-- The codes that an audit reports, each with the element that it is about. -/
def Audit.reported (audit : Audit) : List (Code × Option ElementId) :=
  audit.violations.toList.map Violation.mark

namespace Document.WellFormed

variable {document : Document}

/-- The names of elements are in lower case. -/
theorem lowercase_name (wellFormed : document.WellFormed) {id : ElementId} {element : Element}
    (found : document.get? id = some element) : lowercase element.name = element.name := by
  obtain ⟨text, _, name⟩ := wellFormed.name_eq found
  rw [name, lowercase_lowercase]

/-- So are the names of parents, and what is said where there is none. -/
theorem lowercase_parentName (wellFormed : document.WellFormed) (element : Element) :
    lowercase (document.parentName element) = document.parentName element := by
  have none : lowercase noParent = noParent := by decide +kernel
  unfold parentName
  cases element.parent with
  | none => exact none
  | some id =>
      rw [Option.bind_some]
      cases found : document.get? id with
      | none => exact none
      | some parent => exact wellFormed.lowercase_name found

/-- A tag that occurs is in lower case. -/
theorem lowercase_of_hasTag (wellFormed : document.WellFormed) {tag : String}
    (occurs : document.hasTag tag = true) : lowercase tag = tag := by
  obtain ⟨element, listed, name⟩ := Array.any_eq_true'.mp occurs
  rw [← Array.mem_toList_iff, wellFormed.mem_elements_iff] at listed
  rw [← beq_iff_eq.mp name, wellFormed.lowercase_name listed]

end Document.WellFormed

/-! ## Findings without their parameters -/

namespace Violation

/-- The violation without the parameters of its message. -/
def bare (violation : Violation) : Violation :=
  { violation with params := [] }

theorem bare_documentedAt (violation : Violation) (url : Option String) :
    (violation.documentedAt url).bare = violation.bare.documentedAt url := by
  cases url <;> rfl

/-- A bare violation does not tell which parameters it had. -/
theorem bare_found (context : Context) (code : Code) (params : List String) :
    (found context code params).bare = found context code [] := by
  unfold found
  cases context.phase <;> rfl

/-- It still tells its severity. -/
theorem allWarnings_map_bare (violations : List Violation) :
    AllWarnings (violations.map bare) ↔ AllWarnings violations := by
  have keeps (violation : Violation) : violation.bare.severity = violation.severity := rfl
  exact allWarnings_map keeps violations

end Violation

open Violation (bare found mark)

/-- What an audit reports can be told from bare violations. -/
theorem Audit.reported_of_categorized {audit : Audit} {violations : List Violation}
    (annotated : audit.violations.toList = violations.map Violation.categorized) :
    audit.reported = (violations.map bare).map mark := by
  rw [reported, annotated, List.map_map, List.map_map]
  rfl

namespace TagRule

/-- In lower case, a parent is found to be the wrong one unless it was wrong for its capitals. -/
theorem abridges_parentFindings (rule : TagRule) (context : Context) (tag : String)
    (small : lowercase (context.parent.getD noParent) = context.parent.getD noParent) :
    Abridges (∀ expected ∈ rule.definition.mandatoryParent,
        context.parent.getD noParent = lowercase expected → expected = lowercase expected)
      ((rule.lowercased.parentFindings context tag).map bare)
      ((rule.parentFindings context tag).map bare) := by
  unfold parentFindings lowercased TagDefinition.lowercased
  cases rule.definition.mandatoryParent with
  | none => exact Abridges.unchanged _ (by simp)
  | some expected =>
      simp only [Option.map_some, Option.mem_some_iff, forall_eq']
      by_cases same : context.parent.getD noParent = expected
      · -- The parent is in lower case, so the name that it equals is as well.
        have smallExpected : lowercase expected = expected := by rw [← same, small]
        rw [if_pos same, smallExpected, if_pos same]
        exact Abridges.unchanged _ (by simp)
      · rw [if_neg same]
        by_cases alike : context.parent.getD noParent = lowercase expected
        · have capital : ¬expected = lowercase expected := fun already =>
            same (alike.trans already.symm)
          rw [if_pos alike]
          exact (Abridges.skip (List.Sublist.refl []) _).congr (by simp [alike, capital])
        · rw [if_neg alike, List.map_singleton, List.map_singleton, Violation.bare_found,
            Violation.bare_found]
          exact Abridges.unchanged _ (by simp [alike])

/-- An element is held to a rule in lower case as to the rule, but for the parent. -/
theorem abridges_findings (rules : RuleSet) (rule : TagRule) (context : Context) (tag : String)
    (attributes : AttributeSet) (occurrences : Nat)
    (small : lowercase (context.parent.getD noParent) = context.parent.getD noParent) :
    Abridges (∀ expected ∈ rule.definition.mandatoryParent,
        context.parent.getD noParent = lowercase expected → expected = lowercase expected)
      ((rule.lowercased.findings rules context tag attributes occurrences).map bare)
      ((rule.findings rules context tag attributes occurrences).map bare) := by
  have documented (violations : List Violation) :
      (violations.map (·.documentedAt rule.definition.specUrl)).map bare =
        (violations.map bare).map (·.documentedAt rule.definition.specUrl) := by
    simp only [List.map_map, Function.comp_def, Violation.bare_documentedAt]
  have url : rule.lowercased.definition.specUrl = rule.definition.specUrl := rfl
  rw [findings, findings, url, documented, documented]
  refine Abridges.map ?_ _
  simp only [List.map_append]
  have placed := abridges_parentFindings rule context tag small
  have before := ((Abridges.refl ((rule.deprecationFindings context tag).map bare)).append
    (.refl ((rule.uniquenessFindings context tag occurrences).map bare))).append placed
  exact ((((before.append (.refl _)).append (.refl _)).append (.refl _)).append (.refl _)).congr
    (by simp)

end TagRule

namespace RuleSet

open RuleTable (capitals)

variable {table : RuleTable} {rules : RuleSet} {document : Document}

/-! ## Rules in lower case -/

/-- The rules in lower case are made from the definitions in lower case. -/
theorem compile_lowercased (compiled : compile table = .ok rules) :
    compile table.lowercased = .ok rules.lowercased := by
  obtain ⟨_, _, _, made⟩ := compile_eq_ok_iff.mp compiled
  refine compile_with_tags compiled ?_
  rw [List.forall₂_map_left_iff, List.forall₂_map_right_iff]
  refine made.imp fun definition rule madeRule => ?_
  obtain ⟨same, attributes⟩ := TagRule.compile_eq_ok_iff.mp madeRule
  have tag := definition.tag_lowercased
  refine TagRule.compile_eq_ok_iff.mpr ⟨?_, ?_⟩
  · rw [TagRule.lowercased, same, tag]
    exact congrArg (fun name => { definition.lowercased with name }) tag
  · rwa [tag]

/-- The rules of a table have tags in lower case. -/
theorem lowercase_name_of_compile (compiled : compile table = .ok rules) :
    ∀ rule ∈ rules.tags, lowercase rule.definition.name = rule.definition.name := by
  intro rule listed
  have named : rule.definition.name ∈ rules.tags.map (·.definition.name) :=
    List.mem_map_of_mem listed
  rw [map_name_of_compile compiled] at named
  obtain ⟨definition, _, tag⟩ := List.mem_map.mp named
  rw [← tag, TagDefinition.tag, lowercase_lowercase]

/-- The rule in lower case is found where the rule is. -/
theorem tag?_lowercased (compiled : compile table = .ok rules) (name : String) :
    rules.lowercased.tag? name = (rules.tag? name).map TagRule.lowercased := by
  rw [tag?, lowercased, ← List.map_reverse, List.find?_map]
  refine congrArg _ (List.find?_congr fun rule listed => ?_)
  have small := lowercase_name_of_compile compiled rule (List.mem_reverse.mp listed)
  exact congrArg (· == name) small

/-! ## Findings of rules in lower case -/

theorem abridges_elementFindings (compiled : compile table = .ok rules)
    (wellFormed : document.WellFormed) (element : Element) (occurrences : Nat) :
    Abridges (∀ rule ∈ rules.tag? element.name, ∀ expected ∈ rule.definition.mandatoryParent,
        document.parentName element = lowercase expected → expected = lowercase expected)
      ((rules.lowercased.elementFindings document element occurrences).map bare)
      ((rules.elementFindings document element occurrences).map bare) := by
  have globals : rules.lowercased.globalAttributes = rules.globalAttributes := rfl
  rw [elementFindings, elementFindings, tagFindings, tagFindings, tag?_lowercased compiled]
  cases rules.tag? element.name with
  | none => exact Abridges.unchanged _ (by simp)
  | some rule =>
      simp only [Option.map_some, Option.mem_some_iff, forall_eq']
      have placed : (Context.start.visit document element).parent.getD noParent =
          document.parentName element := rfl
      rw [TagRule.findings_congr globals, ← placed]
      apply TagRule.abridges_findings
      rw [placed, wellFormed.lowercase_parentName]

/-- Mandatory tags are missing by their names, which are in lower case anyway. -/
theorem missingTagFindings_lowercased (compiled : compile table = .ok rules) (context : Context)
    (tally : Tally) :
    rules.lowercased.missingTagFindings context tally = rules.missingTagFindings context tally := by
  rw [missingTagFindings_of_compile compiled,
    missingTagFindings_of_compile (compile_lowercased compiled), RuleTable.lowercased,
    List.filter_map, List.map_map]
  simp only [Function.comp_def, TagDefinition.missingReport, TagDefinition.tag_lowercased]
  rfl

/-- Fewer names are absent in lower case, if those that are not absent are in lower case. -/
theorem abridges_filter_lowercase {absent : String → Bool}
    (small : ∀ name, ¬absent name = true → lowercase name = name) (names : List String) :
    Abridges (∀ name ∈ names, ¬absent (lowercase name) = true → name = lowercase name)
      (names.filter (absent ∘ lowercase)) (names.filter absent) := by
  refine (Abridges.filter ?_).congr (forall₂_congr fun name _ => ?_)
  · intro name _ missing
    by_contra occurs
    rw [Function.comp_apply, small name occurs] at missing
    exact occurs missing
  · rw [Function.comp_apply]
    constructor
    · intro alike occurs
      by_contra capital
      have here : ¬absent name = true := fun missing => occurs (alike missing)
      exact capital (small name here).symm
    · intro spelled missing
      by_contra occurs
      rw [← spelled occurs] at occurs
      exact occurs missing

/-- A required tag is found to be missing unless it was missing for its capitals. -/
theorem abridges_requirementFindings (compiled : compile table = .ok rules) (context : Context)
    {tally : Tally} (small : ∀ tag, tally.count tag ≠ 0 → lowercase tag = tag) :
    Abridges (∀ tag ∈ tally.tags, ∀ rule ∈ rules.tag? tag, ∀ wanted ∈ rule.definition.requires,
        tally.count (lowercase wanted) ≠ 0 → wanted = lowercase wanted)
      ((rules.lowercased.requirementFindings context tally).map bare)
      ((rules.requirementFindings context tally).map bare) := by
  rw [requirementFindings, requirementFindings, List.map_flatMap, List.map_flatMap]
  refine Abridges.flatMap fun tag _ => ?_
  rw [tag?_lowercased compiled]
  cases rules.tag? tag with
  | none => exact Abridges.unchanged _ (by simp)
  | some rule =>
      simp only [Option.map_some, Option.mem_some_iff, forall_eq']
      let report : Violation := (found context .tagRequiredByMissing []).documentedAt
        rule.definition.specUrl
      have bareReports (names : List String) :
          (names.map fun missing => (found context .tagRequiredByMissing [missing, tag]).documentedAt
            rule.definition.specUrl).map bare = names.map fun _ => report := by
        simp only [List.map_map, Function.comp_def, Violation.bare_documentedAt,
          Violation.bare_found, report]
      have requires : rule.lowercased.definition.requires =
          rule.definition.requires.map lowercase := rfl
      have url : rule.lowercased.definition.specUrl = rule.definition.specUrl := rfl
      have smallName (name : String) (occurs : ¬(tally.count name == 0) = true) :
          lowercase name = name := small name (by simpa using occurs)
      have fewer := abridges_filter_lowercase smallName rule.definition.requires
      rw [requires, url, bareReports, bareReports, List.filter_map, List.map_map]
      exact (fewer.map fun _ => report).congr (by simp)

/-- On a document, the rules in lower case find the same as the rules exactly if these ask for
what the document has in lower case, and otherwise they find less. -/
theorem abridges_allFindings (compiled : compile table = .ok rules)
    (wellFormed : document.WellFormed) :
    Abridges (rules.AsksInLowercase document)
      ((rules.lowercased.allFindings document).map bare)
      ((rules.allFindings document).map bare) := by
  have counted (tag : String) :
      (Tally.ofNames (document.walk.map (·.name))).count tag ≠ 0 ↔ document.hasTag tag = true := by
    have zero := Tally.count_walk_eq_zero wellFormed tag
    rw [Ne, ← beq_iff_eq, zero, Bool.not_eq_true', Bool.not_eq_false]
  have visited := abridges_visitFindings (fun element (_ : element ∈ document.walk) occurrences =>
    abridges_elementFindings compiled wellFormed element occurrences) []
  have required := abridges_requirementFindings compiled Context.start
    fun tag occurs => wellFormed.lowercase_of_hasTag ((counted tag).mp occurs)
  simp only [allFindings, documentFindings, missingTagFindings_lowercased compiled, List.map_append]
  refine (visited.append ((Abridges.refl _).append required)).congr ?_
  simp only [counted, wellFormed.mem_walk_iff, Tally.mem_tags_ofNames,
    wellFormed.mem_names_walk_iff]
  constructor
  · rintro ⟨parent, _, required⟩
    exact ⟨parent, fun element listed => required element.name ⟨element, listed, rfl⟩⟩
  · intro asks
    refine ⟨asks.parent, trivial, ?_⟩
    rintro _ ⟨element, listed, rfl⟩
    exact asks.required element listed

/-- A table in lower case reports some of what the table reports, the same codes of the same
elements in the same order. It reports all of it, and gives the same status, exactly if the table
asks in lower case for whatever the document has. -/
theorem validate_lowercased (compiled : compile table = .ok rules)
    (reachable : document.Reachable) :
    ∃ lowered audit other,
      compile table.lowercased = .ok lowered ∧
      rules.validate document = .ok audit ∧ lowered.validate document = .ok other ∧
      other.reported.Sublist audit.reported ∧
      (audit.reported = other.reported ∧ audit.status = other.status ↔
        rules.AsksInLowercase document) := by
  have wellFormed := reachable.wellFormed
  have fewer := abridges_allFindings compiled wellFormed
  obtain ⟨audit, validated, found, status, _⟩ := rules.validate_eq_ok document
  obtain ⟨other, validatedLowered, foundLowered, statusLowered, _⟩ :=
    rules.lowercased.validate_eq_ok document
  have reports := fewer.map mark
  rw [← Audit.reported_of_categorized found,
    ← Audit.reported_of_categorized foundLowered] at reports
  refine ⟨rules.lowercased, audit, other, compile_lowercased compiled, validated,
    validatedLowered, reports.sublist, ?_⟩
  constructor
  · rintro ⟨same, _⟩
    exact reports.eq_iff.mp same.symm
  · intro asks
    have warnings : Violation.AllWarnings (rules.lowercased.allFindings document) ↔
        Violation.AllWarnings (rules.allFindings document) := by
      rw [← Violation.allWarnings_map_bare, fewer.eq_iff.mpr asks, Violation.allWarnings_map_bare]
    refine ⟨(reports.eq_iff.mpr asks).symm, ?_⟩
    simp only [status, statusLowered, warnings]

/-- On a page with paragraphs below the tag in capitals, these make the difference. -/
theorem validate_lowercased_page :
    ∃ rules, compile capitals = .ok rules ∧ Document.page.Reachable ∧
      ∃ lowered audit other,
        compile capitals.lowercased = .ok lowered ∧
        rules.validate .page = .ok audit ∧ lowered.validate .page = .ok other ∧
        other.reported.Sublist audit.reported ∧
        (audit.reported = other.reported ∧ audit.status = other.status ↔
          rules.AsksInLowercase .page) :=
  ⟨_, rfl, Document.reachable_page, validate_lowercased rfl Document.reachable_page⟩

/-- A table does not in general give the status that it gives in lower case: a page that passes
the latter fails the table, because it has neither the parent nor the required tag in capitals. -/
theorem capitals_not_met :
    ¬∀ (table : RuleTable) (rules lowered : RuleSet) (document : Document) (audit other : Audit),
      compile table = .ok rules → compile table.lowercased = .ok lowered →
        document.Reachable → rules.validate document = .ok audit →
          lowered.validate document = .ok other →
            audit.reported = other.reported ∧ audit.status = other.status := by
  intro same
  let html : TagRule := ⟨.plain "html", []⟩
  let p (name : String) : TagRule :=
    ⟨{ TagDefinition.plain "p" with mandatoryParent := some name, requires := [name] }, []⟩
  let rules (name : String) : RuleSet := ⟨"capitals", none, ["lang"], [html, p name]⟩
  let misplaced (id : ElementId) : Violation := Violation.categorized
    { Violation.ofDocument .wrongParentTag ["p", "html", "HTML"] with
      phase := .local, element := some id, line := 2, heading := "p" }
  let missing := (Violation.ofDocument .tagRequiredByMissing ["HTML", "p"]).categorized
  let violations := #[misplaced ⟨1⟩, misplaced ⟨2⟩, missing]
  have fails : (rules "HTML").validate .page = .ok ⟨.fail, violations, 3, false⟩ := by
    decide +kernel
  have passes : (rules "html").validate .page = .ok ⟨.pass, #[], 3, false⟩ := by
    decide +kernel
  obtain ⟨_, status⟩ :=
    same capitals _ _ .page _ _ rfl rfl Document.reachable_page fails passes
  contradiction

end RuleSet

end MarkupAudit
