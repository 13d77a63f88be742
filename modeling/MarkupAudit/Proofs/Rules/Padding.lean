/-
# Names in tables and in documents

The name of a tag is put into a normal form twice, in the table that defines it and in the document
that uses it, and not in the same way. In a document it is trimmed and put into lower case, in a
table it is put into lower case only. The two forms differ in the white space at the ends of the
name and in nothing else, whatever the other characters are in lower case.

So an element that is added under the name of a definition has the name of the definition but for
this white space. If there is none, a rule is found for the element. A definition whose name is
padded is found for no element of any document, not even for one that is added under the very same
name.
-/

import MarkupAudit.Proofs.Document.Naming
import MarkupAudit.Proofs.Rules.Repetition
import MarkupAudit.Proofs.Rules.TableOrder
import MarkupAudit.Proofs.Text.Trimming

namespace MarkupAudit

open Text (trim lowercase)

/-! ## The two forms of a name -/

/-- The names of elements have no white space around them. -/
theorem Document.WellFormed.trim_name {document : Document} (wellFormed : document.WellFormed)
    {id : ElementId} {element : Element} (found : document.get? id = some element) :
    trim element.name = element.name := by
  obtain ⟨text, _, name⟩ := wellFormed.name_eq found
  rw [name, Text.trim_lowercase, Text.trim_trim]

/-- Nor are they empty. -/
theorem Document.WellFormed.name_ne_empty {document : Document} (wellFormed : document.WellFormed)
    {id : ElementId} {element : Element} (found : document.get? id = some element) :
    element.name ≠ "" := by
  obtain ⟨text, filled, name⟩ := wellFormed.name_eq found
  rw [name, Ne, Text.lowercase_eq_empty_iff, ← String.isEmpty_iff, filled]
  exact Bool.false_ne_true

/-- Some element of some document has the tag of a definition exactly if the name in the table is
neither padded nor empty. -/
theorem TagDefinition.exists_element_iff (definition : TagDefinition) :
    (∃ document : Document, document.Reachable ∧
        ∃ element ∈ document.elements, element.name = definition.tag) ↔
      trim definition.name = definition.name ∧ definition.name ≠ "" := by
  constructor
  · rintro ⟨document, reachable, element, inside, name⟩
    rw [← Array.mem_toList_iff, reachable.wellFormed.mem_elements_iff] at inside
    have trimmed := reachable.wellFormed.trim_name inside
    have filled := reachable.wellFormed.name_ne_empty inside
    rw [name, tag, Text.trim_lowercase_eq_self_iff] at trimmed
    rw [name, tag, Ne, Text.lowercase_eq_empty_iff] at filled
    exact ⟨trimmed, filled⟩
  · rintro ⟨trimmed, filled⟩
    cases added : Document.empty.addRoot definition.name 0 with
    | error failure =>
        have blank := (Edit.addRoot_eq_error_iff.mp added).1
        rw [trimmed, String.isEmpty_iff] at blank
        exact absurd blank filled
    | ok made =>
        obtain ⟨document, id⟩ := made
        have entered : document.Entered definition.name id := .addRoot .empty added
        obtain ⟨element, found, name⟩ := entered.exists_element
        refine ⟨document, entered.reachable, element, Array.mem_of_getElem? found, ?_⟩
        rw [name, Document.nameFor, trimmed, tag]

namespace RuleSet

variable {table : RuleTable} {rules : RuleSet}

/-! ## Elements without a rule -/

theorem tags_of_compile (compiled : compile table = .ok rules) :
    rules.tags = table.tags.map TagDefinition.rule := by
  rw [compile, mapM_compile_eq] at compiled
  cases refused : table.entries.find? (·.2.isRefused) with
  | some entry =>
      rw [refused] at compiled
      cases compiled
  | none =>
      rw [refused] at compiled
      cases compiled
      rfl

/-- A rule is found under the tags that are defined and under no other name. -/
theorem tag?_eq_none_iff (compiled : compile table = .ok rules) (name : String) :
    rules.tag? name = none ↔ ∀ definition ∈ table.tags, definition.tag ≠ name := by
  have names : name ∉ rules.tags.map (·.definition.name) ↔
      name ∉ table.tags.map TagDefinition.tag := by
    rw [map_name_of_compile compiled]
  rw [tag?, List.find?_eq_none]
  simpa only [List.mem_reverse, beq_iff_eq, List.mem_map, not_exists, not_and] using names

theorem mem_visitFindings_of_mem (rules : RuleSet) (document : Document) (before : List String)
    {elements : List Element} {element : Element} (visited : element ∈ elements) :
    ∃ occurrences, ∀ violation ∈ rules.elementFindings document element occurrences,
      violation ∈ rules.visitFindings document before elements := by
  induction elements generalizing before with
  | nil => cases visited
  | cons first rest ih =>
      rcases List.mem_cons.mp visited with rfl | later
      · exact ⟨_, fun violation found => List.mem_append_left _ found⟩
      · obtain ⟨occurrences, listed⟩ := ih (before ++ [first.name]) later
        exact ⟨occurrences, fun violation found => List.mem_append_right _ (listed violation found)⟩

/-- A rule does not report the tag that it is for. -/
theorem code_ne_disallowedTag {document : Document} {element : Element} {occurrences : Nat}
    {rule : TagRule} (defined : rules.tag? element.name = some rule) :
    ∀ violation ∈ rules.elementFindings document element occurrences,
      violation.code ≠ .disallowedTag := by
  intro violation found same
  have listed : violation ∈ Violation.withCode .disallowedTag
      (rules.elementFindings document element occurrences) :=
    Violation.mem_withCode.mpr ⟨found, same⟩
  have foreign : Code.disallowedTag ∉ Violation.attributeCodes := by decide
  rw [elementFindings, tagFindings, defined] at listed
  dsimp only at listed
  rw [TagRule.withCode_findings, TagRule.withCode_attributeFindings _ _ _ _ _ foreign] at listed
  simp at listed

/-- A validation reports that a tag is disallowed on the elements for which there is no rule. -/
theorem disallowed_iff {document : Document} (wellFormed : document.WellFormed) {audit : Audit}
    (validated : rules.validate document = .ok audit) {id : ElementId} {element : Element}
    (found : document.get? id = some element) :
    (∃ violation ∈ audit.violations.toList,
        violation.code = .disallowedTag ∧ violation.element = some id) ↔
      rules.tag? element.name = none := by
  have consists := rules.consists_of_validate validated
  have same : element.id = id := wellFormed.id_eq found
  constructor
  · rintro ⟨violation, listed, code, place⟩
    rw [consists.violations_eq] at listed
    rcases List.mem_append.mp listed with visit | whole
    · obtain ⟨origin, isFinding, rfl⟩ := List.mem_map.mp visit
      obtain ⟨earlier, other, later, split, reported⟩ := rules.mem_visitFindings document isFinding
      have on := rules.isOn_elementFindings document other _ origin reported
      have visited : other ∈ document.walk := split ▸ List.mem_append_right _ List.mem_cons_self
      have known := wellFormed.preorder_walk.get?_of_mem wellFormed other visited
      obtain rfl : other.id = id := Option.some.inj (on.element_eq.symm.trans place)
      obtain rfl : element = other := Option.some.inj (found.symm.trans known)
      cases defined : rules.tag? element.name with
      | none => rfl
      | some rule => exact absurd code (code_ne_disallowedTag defined origin reported)
    · have onDocument := consists.onWhole violation whole
      rw [onDocument.element_eq] at place
      cases place
  · intro undefined
    have visited : element ∈ document.walk := by
      rw [wellFormed.mem_walk_iff]
      exact Array.mem_of_getElem? found
    obtain ⟨occurrences, listed⟩ := rules.mem_visitFindings_of_mem document [] visited
    let report :=
      Violation.found (Context.start.visit document element) .disallowedTag [element.name]
    have reported : report ∈ rules.elementFindings document element occurrences := by
      rw [elementFindings, tagFindings, undefined]
      exact List.mem_singleton_self _
    refine ⟨report.categorized, ?_, rfl, congrArg some same⟩
    rw [consists.violations_eq]
    exact List.mem_append_left _ (List.mem_map_of_mem (listed report reported))

/-! ## Elements that are added under a name -/

/-- An element that is added under some name has the rule of the last definition with the same tag,
and is reported as disallowed if there is none. The tag of a definition is that of an element added
under its name but for white space around it; so a rule is found for elements that are added under
names of the table without such white space, and definitions with such white space, or without a
name, are found for no element at all. -/
theorem compile_findsEntered (compiled : compile table = .ok rules) :
    (∀ {name : String} {id : ElementId} {document : Document}, document.Entered name id →
      ∃ element audit, document.get? id = some element ∧ element.name = trim (lowercase name) ∧
        IsLastNamed (table.tags.map TagDefinition.rule) element.name (rules.tag? element.name) ∧
        rules.validate document = .ok audit ∧
        ((∃ violation ∈ audit.violations.toList,
            violation.code = .disallowedTag ∧ violation.element = some id) ↔
          ∀ definition ∈ table.tags, definition.tag ≠ trim (lowercase name)) ∧
        (name ∈ table.tags.map (·.name) → trim name = name →
          (rules.tag? element.name).isSome = true ∧
            ∀ violation ∈ audit.violations.toList, violation.element = some id →
              violation.code ≠ .disallowedTag)) ∧
      ∀ definition ∈ table.tags,
        (∃ document : Document, document.Reachable ∧
            ∃ element ∈ document.elements, element.name = definition.tag) ↔
          trim definition.name = definition.name ∧ definition.name ≠ "" := by
  refine ⟨fun {name id document} entered => ?_, fun definition _ => definition.exists_element_iff⟩
  obtain ⟨element, found, named⟩ := entered.exists_element
  obtain ⟨audit, validated, _⟩ := rules.validate_eq_ok document
  rw [Document.nameFor, ← Text.trim_lowercase] at named
  have disallowed := disallowed_iff entered.reachable.wellFormed validated found
  rw [tag?_eq_none_iff compiled, named] at disallowed
  refine ⟨element, audit, found, named, ?_, validated, disallowed, fun listed trimmed => ?_⟩
  · rw [← tags_of_compile compiled]
    exact tag?_isLastNamed rules element.name
  · obtain ⟨definition, isDefinition, rfl⟩ := List.mem_map.mp listed
    have tagged : definition.tag = trim (lowercase definition.name) := by
      rw [TagDefinition.tag, (Text.trim_lowercase_eq_self_iff _).mpr trimmed]
    have known : rules.tag? element.name ≠ none := fun undefined =>
      (tag?_eq_none_iff compiled _).mp undefined definition isDefinition (tagged.trans named.symm)
    refine ⟨Option.isSome_iff_ne_none.mpr known, fun violation reported place code => ?_⟩
    exact disallowed.mp ⟨violation, reported, code, place⟩ definition isDefinition tagged

/-- A table in which one tag is defined under some names. -/
def paddedTable (names : List String) : RuleTable :=
  ⟨"padded", none, [], names.map TagDefinition.plain⟩

/-- The document with one element that is added under a given name. -/
def soleElement (name : String) : Document :=
  ⟨#[⟨⟨0⟩, lowercase (trim name), ⟨[]⟩, 1, none, []⟩], [⟨0⟩]⟩

/-- Of two definitions of paragraphs, the first is found, and the second is not, since it is
padded. -/
theorem compile_findsEntered_paragraph :
    let table := paddedTable ["P", " p "]
    ∃ rules, compile table = .ok rules ∧ (soleElement "P").Entered "P" ⟨0⟩ ∧
      (∃ element audit, (soleElement "P").get? ⟨0⟩ = some element ∧ element.name = "p" ∧
        (rules.tag? element.name).isSome = true ∧
        rules.validate (soleElement "P") = .ok audit ∧
        ∀ violation ∈ audit.violations.toList, violation.element = some ⟨0⟩ →
          violation.code ≠ .disallowedTag) ∧
      ¬∃ document : Document, document.Reachable ∧
        ∃ element ∈ document.elements, element.name = " p " := by
  intro table
  let rules : RuleSet := ⟨"padded", none, [],
    [⟨{ TagDefinition.plain "P" with name := "p" }, []⟩, ⟨TagDefinition.plain " p ", []⟩]⟩
  have compiled : compile table = .ok rules := by decide +kernel
  have entered : (soleElement "P").Entered "P" ⟨0⟩ :=
    .addRoot .empty (by decide +kernel : Document.empty.addRoot "P" 1 = .ok (soleElement "P", ⟨0⟩))
  obtain ⟨finds, meets⟩ := compile_findsEntered compiled
  obtain ⟨element, audit, found, named, _, validated, _, known⟩ := finds entered
  obtain ⟨defined, allowed⟩ := known (by decide +kernel) (by decide +kernel)
  have padded := meets (TagDefinition.plain " p ") (by decide +kernel)
  refine ⟨rules, compiled, entered,
    ⟨element, audit, found, named.trans (by decide +kernel), defined, validated, allowed⟩,
    fun met => ?_⟩
  have tag : (TagDefinition.plain " p ").tag = " p " := by decide +kernel
  rw [tag] at padded
  exact absurd (padded.mp met).1 (by decide +kernel)

/-- Not every definition is found for the elements that are added under its name: a padded one is
not found for an element that is added under the very same name. -/
theorem padded_definition_not_found :
    ¬∀ (table : RuleTable) (rules : RuleSet) (document : Document) (id : ElementId),
      compile table = .ok rules → ∀ definition ∈ table.tags,
        (trim definition.name).isEmpty = false → document.Entered definition.name id →
          ∃ element, document.get? id = some element ∧
            (rules.tag? element.name).isSome = true := by
  intro finds
  let rules : RuleSet := ⟨"padded", none, [], [⟨TagDefinition.plain " p ", []⟩]⟩
  have compiled : compile (paddedTable [" p "]) = .ok rules := by decide +kernel
  have entered : (soleElement " p ").Entered " p " ⟨0⟩ :=
    .addRoot .empty
      (by decide +kernel : Document.empty.addRoot " p " 1 = .ok (soleElement " p ", ⟨0⟩))
  obtain ⟨element, found, defined⟩ := finds _ rules _ ⟨0⟩ compiled (TagDefinition.plain " p ")
    (by decide +kernel) (by decide +kernel) entered
  have isSole : (soleElement " p ").get? ⟨0⟩ = some ⟨⟨0⟩, "p", ⟨[]⟩, 1, none, []⟩ := by
    decide +kernel
  obtain rfl := Option.some.inj (found.symm.trans isSole)
  exact absurd defined (by decide +kernel)

end RuleSet

end MarkupAudit
