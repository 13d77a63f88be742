/-
# Repeated tags

A tag whose rule says that it is unique may occur once. Every element that has such a tag, and has
it after another element in document order, is reported once; the first one is not, and neither is
any element whose tag is not unique.

The inspector decides this by a counter, which it raises at every visit before it looks at it. What
the counter stands for is which names have been visited before, and that is all that is carried
along the walk here.
-/

import MarkupAudit.Proofs.Rules.Codes
import MarkupAudit.Proofs.Rules.Placement

namespace MarkupAudit

open Violation (withCode)

namespace RuleSet

variable (rules : RuleSet) (document : Document)

/-- By its rule, a tag may occur only once. -/
def IsUnique (tag : String) : Prop :=
  ∃ rule ∈ rules.tag? tag, rule.definition.unique = true

instance (tag : String) : Decidable (rules.IsUnique tag) :=
  decidable_of_iff ((rules.tag? tag).any (·.definition.unique) = true) <| by
    simp only [Option.any_eq_true, IsUnique, Option.mem_def]

/-- The report that the tag of an element occurs once more. -/
def repetition (element : Element) : Violation :=
  { Violation.ofDocument .duplicateUniqueTag [element.name] with
    phase := .local
    element := some element.id
    line := element.line
    heading := element.name
    category := some (Category.of .duplicateUniqueTag [element.name])
    specUrl := (rules.tag? element.name).bind (·.definition.specUrl) }

/-- The reports of this kind on elements in a row, which come after others with given names. -/
def repetitions : List String → List Element → List Violation
  | _, [] => []
  | before, element :: rest =>
      (if rules.IsUnique element.name ∧ element.name ∈ before then [rules.repetition element]
        else []) ++ repetitions (before ++ [element.name]) rest

/-! ## What the visits report -/

/-- An element is reported if its tag is unique and it is not the first that has it. -/
theorem withCode_elementFindings (element : Element) (occurrences : Nat) :
    withCode .duplicateUniqueTag
        ((rules.elementFindings document element occurrences).map Violation.categorized) =
      if rules.IsUnique element.name ∧ 1 < occurrences then [rules.repetition element] else [] := by
  rw [Violation.withCode_map Violation.code_categorized, elementFindings, tagFindings]
  cases defined : rules.tag? element.name with
  | none => simp [withCode, IsUnique, defined]
  | some rule =>
      have noAttribute : Code.duplicateUniqueTag ∉ Violation.attributeCodes := by decide
      dsimp only
      rw [TagRule.withCode_findings, TagRule.withCode_attributeFindings _ _ _ _ _ noAttribute]
      simp only [reduceCtorEq, if_true, if_false, List.append_nil, List.nil_append,
        TagRule.uniquenessFindings, IsUnique, defined, Option.mem_some_iff, exists_eq_left']
      split
      · rw [repetition, defined]
        cases url : rule.definition.specUrl <;> simp [Violation.documentedAt, url] <;> rfl
      · rfl

/-- Along the walk, the names that have been visited decide. -/
theorem withCode_visitFindings (before : List String) (elements : List Element) :
    withCode .duplicateUniqueTag
        ((rules.visitFindings document before elements).map Violation.categorized) =
      rules.repetitions before elements := by
  induction elements generalizing before with
  | nil => rfl
  | cons element rest ih =>
      have again : 1 < before.count element.name + 1 ↔ element.name ∈ before := by
        rw [← List.count_pos_iff]
        omega
      rw [visitFindings, List.map_append, Violation.withCode_append, ih,
        withCode_elementFindings, repetitions]
      simp only [again]

theorem repetitions_append (before : List String) (earlier later : List Element) :
    rules.repetitions before (earlier ++ later) =
      rules.repetitions before earlier ++
        rules.repetitions (before ++ earlier.map (·.name)) later := by
  induction earlier generalizing before with
  | nil => simp [repetitions]
  | cons element rest ih => simp [repetitions, ih]

theorem exists_of_mem_repetitions {before : List String} {elements : List Element}
    {violation : Violation} (listed : violation ∈ rules.repetitions before elements) :
    ∃ element ∈ elements, violation = rules.repetition element := by
  induction elements generalizing before with
  | nil => cases listed
  | cons element rest ih =>
      rcases List.mem_append.mp listed with here | later
      · split at here
        · exact ⟨element, List.mem_cons_self, List.mem_singleton.mp here⟩
        · cases here
      · obtain ⟨other, isRest, same⟩ := ih later
        exact ⟨other, List.mem_cons_of_mem element isRest, same⟩

/-! ## Where they are reported, and how often -/

/-- Elements with other handles are reported elsewhere. -/
theorem filter_repetitions_of_apart {id : ElementId} (before : List String)
    {elements : List Element} (apart : ∀ element ∈ elements, element.id ≠ id) :
    (rules.repetitions before elements).filter (·.element == some id) = [] := by
  refine List.filter_eq_nil_iff.mpr fun violation listed here => ?_
  obtain ⟨element, isElement, rfl⟩ := rules.exists_of_mem_repetitions listed
  exact apart element isElement (Option.some.inj (beq_iff_eq.mp here))

/-- On one element there is one report if its tag is unique and occurs before it, and else none. -/
theorem filter_repetitions {earlier later : List Element} {element : Element}
    (distinct : ((earlier ++ element :: later).map (·.id)).Nodup) :
    (rules.repetitions [] (earlier ++ element :: later)).filter
        (·.element == some element.id) =
      if rules.IsUnique element.name ∧ element.name ∈ earlier.map (·.name) then
        [rules.repetition element] else [] := by
  rw [List.map_append, List.map_cons] at distinct
  have outside := (List.nodup_middle.mp distinct).notMem
  have apart : ∀ other ∈ earlier ++ later, other.id ≠ element.id := fun other listed same =>
    outside (by rw [← List.map_append, ← same]; exact List.mem_map_of_mem listed)
  rw [repetitions_append, repetitions, List.nil_append, List.filter_append, List.filter_append,
    rules.filter_repetitions_of_apart _ fun other listed =>
      apart other (List.mem_append_left later listed),
    rules.filter_repetitions_of_apart _ fun other listed =>
      apart other (List.mem_append_right earlier listed),
    List.nil_append, List.append_nil]
  split <;> simp [repetition]

/-- Of the occurrences of a unique tag all are reported but the first. -/
theorem countP_repetitions (tag : String) (before : List String) (elements : List Element) :
    (rules.repetitions before elements).countP (·.params == [tag]) =
      if rules.IsUnique tag then
        (before.count tag + (elements.map (·.name)).count tag - 1) - (before.count tag - 1)
      else 0 := by
  induction elements generalizing before with
  | nil => simp [repetitions]
  | cons element rest ih =>
      rw [repetitions, List.countP_append, ih, List.map_cons, List.count_append]
      by_cases same : element.name = tag
      · subst same
        rw [List.count_singleton_self, List.count_cons_self]
        by_cases isUnique : rules.IsUnique element.name
        · have seen : element.name ∈ before ↔ 0 < before.count element.name :=
            List.count_pos_iff.symm
          simp only [isUnique, true_and, if_true, seen]
          split
          · have reported : [rules.repetition element].countP
                (·.params == [element.name]) = 1 := by simp [repetition, Violation.ofDocument]
            omega
          · rw [List.countP_nil]
            omega
        · simp [isUnique]
      · have here : (if rules.IsUnique element.name ∧ element.name ∈ before then
            [rules.repetition element] else []).countP (·.params == [tag]) = 0 := by
          split <;> simp [repetition, Violation.ofDocument, same]
        rw [here, Nat.zero_add, List.count_singleton, List.count_cons_of_ne same,
          beq_false_of_ne same]
        simp

/-! ## The reports of a validation -/

/-- A validation reports a repeated tag at every element that has a unique tag and is not the first
to have it, once and nowhere else. So of the occurrences of a unique tag all but one are reported. -/
theorem validate_repetitions (reachable : document.Reachable) :
    ∃ audit elements, rules.validate document = .ok audit ∧
      document.Preorder document.roots elements ∧
      elements.Perm document.elements.toList ∧
      (∀ earlier element later, elements = earlier ++ element :: later →
        (withCode .duplicateUniqueTag audit.violations.toList).filter
            (·.element == some element.id) =
          if rules.IsUnique element.name ∧ element.name ∈ earlier.map (·.name) then
            [rules.repetition element] else []) ∧
      (∀ violation ∈ withCode .duplicateUniqueTag audit.violations.toList,
        ∃ element ∈ elements, violation = rules.repetition element) ∧
      ∀ tag, (withCode .duplicateUniqueTag audit.violations.toList).countP (·.params == [tag]) =
        if rules.IsUnique tag then (elements.map (·.name)).count tag - 1 else 0 := by
  have wellFormed := reachable.wellFormed
  have ordered := wellFormed.preorder_walk
  obtain ⟨audit, validated, _⟩ := rules.validate_eq_ok document
  have consists := rules.consists_of_validate validated
  have reported : withCode .duplicateUniqueTag audit.violations.toList =
      rules.repetitions [] document.walk := by
    rw [consists.violations_eq, Violation.withCode_append, rules.withCode_visitFindings document,
      Violation.withCode_eq_nil, List.append_nil]
    intro violation listed same
    have codes := consists.whole_code violation listed
    rw [same] at codes
    exact codes.elim nofun nofun
  refine ⟨audit, document.walk, validated, ordered, wellFormed.perm_of_preorder ordered, ?_⟩
  rw [reported]
  refine ⟨?onElement, fun violation => rules.exists_of_mem_repetitions, fun tag => ?count⟩
  case onElement =>
    intro earlier element later split
    have distinct := wellFormed.nodup_ids ordered
    rw [split] at distinct ⊢
    exact rules.filter_repetitions distinct
  case count =>
    rw [rules.countP_repetitions, List.count_nil, Nat.zero_add, Nat.zero_sub, Nat.sub_zero]

/-- Rules for pages with one paragraph. -/
def solitary : RuleSet where
  name := "solitary"
  version := none
  globalAttributes := ["lang"]
  tags := [
    ⟨TagDefinition.plain "html", []⟩,
    ⟨{ TagDefinition.plain "p" with unique := true, specUrl := some "spec#p" }, []⟩]

/-- Of the two paragraphs of the page, which look alike, the second is reported. -/
theorem validate_repetitions_solitary :
    Document.page.Reachable ∧ ∃ audit, solitary.validate .page = .ok audit ∧
      (withCode .duplicateUniqueTag audit.violations.toList).filter (·.element == some ⟨1⟩) = [] ∧
      (withCode .duplicateUniqueTag audit.violations.toList).filter (·.element == some ⟨2⟩) =
        [{ Violation.ofDocument .duplicateUniqueTag ["p"] with
            phase := .local, element := some ⟨2⟩, line := 2, heading := "p"
            category := some .mandatoryTagMissingOrIncorrect, specUrl := some "spec#p" }] ∧
      (withCode .duplicateUniqueTag audit.violations.toList).countP (·.params == ["p"]) = 1 := by
  obtain ⟨audit, elements, validated, ordered, _, located, _, counted⟩ :=
    solitary.validate_repetitions .page Document.reachable_page
  obtain rfl := ordered.unique Document.reachable_page.wellFormed.preorder_walk
  have first := located [⟨⟨0⟩, "html", ⟨[("lang", "en")]⟩, 1, none, [⟨1⟩, ⟨2⟩]⟩]
    ⟨⟨1⟩, "p", ⟨[]⟩, 2, some ⟨0⟩, []⟩ _ rfl
  have second := located
    [⟨⟨0⟩, "html", ⟨[("lang", "en")]⟩, 1, none, [⟨1⟩, ⟨2⟩]⟩, ⟨⟨1⟩, "p", ⟨[]⟩, 2, some ⟨0⟩, []⟩]
    ⟨⟨2⟩, "p", ⟨[]⟩, 2, some ⟨0⟩, []⟩ [] rfl
  refine ⟨Document.reachable_page, audit, validated, first.trans ?_, second.trans ?_,
    (counted "p").trans ?_⟩
  · decide +kernel
  · decide +kernel
  · decide +kernel

end RuleSet

end MarkupAudit
