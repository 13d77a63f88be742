/-
# Where violations come from

What the checks find in one context they find in any other, stamped differently; of the context
itself they look at the parent alone. So a violation always carries the stamp of the element or
of the document on whose account it was made, and what remains without the stamp depends on
names and attributes only.
-/

import MarkupAudit.Proofs.Rules.Findings

namespace MarkupAudit

namespace Violation

/-- The same violation with the stamp of a context. -/
def stamped (context : Context) (violation : Violation) : Violation :=
  match context.phase with
  | .global =>
      { violation with
        phase := .global
        element := none
        line := 0
        heading := globalHeading }
  | .local =>
      { violation with
        phase := .local
        element := context.element
        line := context.line
        heading := context.tag.getD globalHeading }

@[simp]
theorem stamped_found (context other : Context) (code : Code) (params : List String) :
    (found other code params).stamped context = found context code params := by
  unfold stamped found
  cases context.phase <;> cases other.phase <;> rfl

@[simp]
theorem stamped_asWarning (context : Context) (violation : Violation) :
    violation.asWarning.stamped context = (violation.stamped context).asWarning := by
  unfold stamped asWarning
  cases context.phase <;> rfl

@[simp]
theorem stamped_documentedAt (context : Context) (violation : Violation) (url : Option String) :
    (violation.documentedAt url).stamped context =
      (violation.stamped context).documentedAt url := by
  unfold stamped documentedAt
  cases context.phase <;> cases url <;> rfl

/-- A violation that concerns an element, and says so. -/
structure IsOn (violation : Violation) (element : Element) : Prop where
  phase_eq : violation.phase = .local
  element_eq : violation.element = some element.id
  line_eq : violation.line = element.line
  heading_eq : violation.heading = element.name

/-- A violation that concerns the document as a whole, and says so. -/
structure IsOnDocument (violation : Violation) : Prop where
  phase_eq : violation.phase = .global
  element_eq : violation.element = none
  line_eq : violation.line = 0
  heading_eq : violation.heading = globalHeading

/-- The stamp of a visit is that of the element. -/
theorem isOn_stamped_visit (context : Context) (document : Document) (element : Element)
    (violation : Violation) : (violation.stamped (context.visit document element)).IsOn element :=
  ⟨rfl, rfl, rfl, rfl⟩

theorem IsOn.categorized {violation : Violation} {element : Element}
    (on : violation.IsOn element) : violation.categorized.IsOn element :=
  ⟨on.phase_eq, on.element_eq, on.line_eq, on.heading_eq⟩

theorem IsOnDocument.categorized {violation : Violation} (onDocument : violation.IsOnDocument) :
    violation.categorized.IsOnDocument :=
  ⟨onDocument.phase_eq, onDocument.element_eq, onDocument.line_eq, onDocument.heading_eq⟩

end Violation

open Violation (stamped)

namespace TagRule

variable (rules : RuleSet) (rule : TagRule) (context other : Context) (tag : String)
  (attributes : AttributeSet)

theorem map_stamped_deprecationFindings :
    (rule.deprecationFindings other tag).map (stamped context) =
      rule.deprecationFindings context tag := by
  unfold deprecationFindings
  split <;> simp

theorem map_stamped_uniquenessFindings (occurrences : Nat) :
    (rule.uniquenessFindings other tag occurrences).map (stamped context) =
      rule.uniquenessFindings context tag occurrences := by
  unfold uniquenessFindings
  split <;> simp

/-- Only here the parent matters. -/
theorem map_stamped_parentFindings (sameParent : other.parent = context.parent) :
    (rule.parentFindings other tag).map (stamped context) = rule.parentFindings context tag := by
  unfold parentFindings
  rw [sameParent]
  split
  · rfl
  · dsimp only
    split <;> simp

theorem map_stamped_attributeFindings (name value : String) :
    (attributeFindings rules rule other tag name value).map (stamped context) =
      attributeFindings rules rule context tag name value := by
  unfold attributeFindings
  split
  · rename_i known _
    unfold knownAttributeFindings
    cases known.definition.replacement <;> split <;> simp
  · split <;> simp

theorem map_stamped_missingFindings :
    (rule.missingFindings other tag attributes).map (stamped context) =
      rule.missingFindings context tag attributes := by
  simp [missingFindings, Function.comp_def]

theorem map_stamped_oneOfFindings :
    (rule.oneOfFindings other tag attributes).map (stamped context) =
      rule.oneOfFindings context tag attributes := by
  unfold oneOfFindings
  dsimp only
  split <;> simp

theorem map_stamped_exclusiveFindings :
    (rule.exclusiveFindings other tag attributes).map (stamped context) =
      rule.exclusiveFindings context tag attributes := by
  unfold exclusiveFindings
  dsimp only
  split <;> simp

theorem map_stamped_findings (sameParent : other.parent = context.parent) (occurrences : Nat) :
    (rule.findings rules other tag attributes occurrences).map (stamped context) =
      rule.findings rules context tag attributes occurrences := by
  have swap : stamped context ∘ (·.documentedAt rule.definition.specUrl) =
      (·.documentedAt rule.definition.specUrl) ∘ stamped context := by
    funext violation
    exact Violation.stamped_documentedAt context violation _
  rw [findings, List.map_map, swap, ← List.map_map, findings]
  simp only [List.map_append, List.map_flatMap, map_stamped_deprecationFindings,
    map_stamped_uniquenessFindings, map_stamped_parentFindings rule context other tag sameParent,
    map_stamped_attributeFindings, map_stamped_missingFindings, map_stamped_oneOfFindings,
    map_stamped_exclusiveFindings]

end TagRule

namespace RuleSet

variable (rules : RuleSet) (document : Document)

/-- What is found on a tag in one context is found in every other with the same parent. -/
theorem map_stamped_tagFindings {context other : Context}
    (sameParent : other.parent = context.parent) (tag : String) (attributes : AttributeSet)
    (occurrences : Nat) :
    (rules.tagFindings other tag attributes occurrences).map (stamped context) =
      rules.tagFindings context tag attributes occurrences := by
  unfold tagFindings
  split
  · simp
  · exact TagRule.map_stamped_findings _ _ _ _ _ _ sameParent _

/-- Whatever is found on an element concerns it. -/
theorem isOn_elementFindings (element : Element) (occurrences : Nat) :
    ∀ violation ∈ rules.elementFindings document element occurrences,
      violation.IsOn element := by
  intro violation listed
  rw [elementFindings, ← rules.map_stamped_tagFindings rfl] at listed
  obtain ⟨origin, _, rfl⟩ := List.mem_map.mp listed
  exact Violation.isOn_stamped_visit _ document element origin

/-- Whatever is found on a document concerns it. -/
theorem isOnDocument_documentFindings (names : List String) :
    ∀ violation ∈ rules.documentFindings names, violation.IsOnDocument := by
  have reported (code : Code) (params : List String) (url : Option String) :
      ((Violation.found Context.start code params).documentedAt url).IsOnDocument := by
    cases url <;> exact ⟨rfl, rfl, rfl, rfl⟩
  intro violation listed
  rcases List.mem_append.mp listed with missing | required
  · obtain ⟨rule, _, rfl⟩ := List.mem_map.mp missing
    exact reported _ _ _
  · obtain ⟨tag, _, found⟩ := List.mem_flatMap.mp required
    split at found
    · cases found
    · obtain ⟨name, _, rfl⟩ := List.mem_map.mp found
      exact reported _ _ _

end RuleSet

end MarkupAudit
