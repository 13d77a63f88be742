/-
# Triage of what is found

The category of a violation is read off its parameters by place, and the checks put the tag first
for some codes and second for others. Both sides agree: the category of whatever a validation finds
is the one that its cause calls for, which is said here by the tag and the attribute themselves.
-/

import MarkupAudit.Proofs.Rules.Causes

namespace MarkupAudit

/-! ## Categories of causes -/

/-- The category that a defect of an element with a given tag calls for. -/
def Defect.category (tag : String) : Defect → Category
  | disallowedTag =>
      if Category.tagsWithEquivalent.contains tag then .disallowedHtmlWithEquivalent
      else .disallowedHtml
  | deprecatedTag _ => .deprecation
  | repeatedTag => .mandatoryTagMissingOrIncorrect
  | wrongParent parent expected =>
      .ofTag ([tag, parent, expected].any (Category.startsWith Category.reservedStart))
  | disallowedAttribute _ => .ofTag (Category.startsWith Category.reservedStart tag)
  | invalidValue name _ =>
      if Category.layoutAttributes.contains name then .layoutProblem
      else if name == "src" && Category.endsWith "script" tag then .customScriptDisallowed
      else if name == "type" && Category.startsWith "script" tag then .customScriptDisallowed
      else .ofTag (Category.startsWith Category.reservedStart tag)
  | deprecatedAttribute _ _ => .deprecation
  | missingAttribute name =>
      if name == Category.sentinel then .mandatoryTagMissingOrIncorrect
      else if Category.layoutAttributes.contains name then .layoutProblem
      else .ofTag (Category.startsWith Category.reservedStart tag)
  | missingChoice _ => .namespaceTagProblem
  | exclusiveAttributes _ =>
      if Category.startsWith Category.reservedStart tag then .namespaceTagProblem else .generic

namespace Cause

/-- The category that a cause calls for. -/
def category : Cause → Category
  | onElement element defect => defect.category element.name
  | missingTag _ => .mandatoryTagMissingOrIncorrect
  | missingRequirement _ requiring =>
      if Category.startsWith Category.reservedStart requiring then .namespaceTagProblem
      else .generic

/-- The parameters of a cause stand where its category is read from. -/
theorem category_of (cause : Cause) : Category.of cause.code cause.params = cause.category := by
  cases cause with
  | onElement element defect => cases defect <;> rfl
  | missingTag => rfl
  | missingRequirement => rfl

end Cause

/-! ## What triage promises -/

namespace Category

theorem startsWith_iff (start text : String) :
    startsWith start text = true ↔ start.toList <+: text.toList := by
  rw [startsWith, List.isPrefixOf_iff_prefix]

@[simp]
theorem ofTag_ne_unknown (reserved : Bool) : ofTag reserved ≠ .unknown := by
  cases reserved <;> decide

@[simp]
theorem ofTag_ne_generic (reserved : Bool) : ofTag reserved ≠ .generic := by
  cases reserved <;> decide

@[simp]
theorem ofTag_eq_disallowedHtml_iff (reserved : Bool) :
    ofTag reserved = .disallowedHtml ↔ reserved = false := by
  cases reserved <;> decide

end Category

namespace Defect

variable (tag : String) (defect : Defect)

theorem category_ne_unknown : defect.category tag ≠ .unknown := by
  cases defect with
  | disallowedTag | invalidValue _ _ | missingAttribute _ | exclusiveAttributes _ =>
      simp only [category]
      split_ifs <;> simp
  | _ => simp [category]

/-- Exclusive attributes are the only defect without a category of its own, unless the tag is
reserved. -/
theorem category_eq_generic_iff : defect.category tag = .generic ↔
    defect.code = .mutuallyExclusiveAttrs ∧
      ¬Category.startsWith Category.reservedStart tag = true := by
  cases defect with
  | disallowedTag | invalidValue _ _ | missingAttribute _ | exclusiveAttributes _ =>
      simp only [category]
      split_ifs <;> simp_all [code]
  | _ => simp [category, code]

/-- A reserved tag is foreign only if it has no rule. -/
theorem code_eq_disallowedTag {defect : Defect} {tag : String}
    (reserved : Category.startsWith Category.reservedStart tag = true)
    (foreign : defect.category tag = .disallowedHtml) : defect.code = .disallowedTag := by
  cases defect with
  | disallowedTag => rfl
  | invalidValue _ _ | missingAttribute _ | exclusiveAttributes _ =>
      simp only [category] at foreign
      split_ifs at foreign <;> simp_all
  | _ => simp_all [category]

theorem category_of_layout {name : String} (layout : name ∈ Category.layoutAttributes)
    (coded : defect.code = .invalidAttrValue ∨ defect.code = .mandatoryAttrMissing)
    (about : defect.attribute? = some name) : defect.category tag = .layoutProblem := by
  have listed : Category.layoutAttributes.contains name = true := List.contains_iff_mem.mpr layout
  have unmarked : (name == Category.sentinel) = false := by
    rw [beq_eq_false_iff_ne]
    rintro rfl
    exact absurd layout (by decide)
  cases defect with
  | invalidValue given _ =>
      obtain rfl : given = name := Option.some.inj about
      exact if_pos listed
  | missingAttribute wanted =>
      obtain rfl : wanted = name := Option.some.inj about
      simp only [category, unmarked, listed, Bool.false_eq_true, if_true, if_false]
  | _ => simp [code] at coded

end Defect

/-- What is promised of the category of a cause, by the code, the tag and the attribute with which
the cause is reported. The names that count are written out. -/
structure Cause.Triages (cause : Cause) (category : Category) : Prop where
  known : category ≠ .unknown
  generic_iff : category = .generic ↔
    (cause.code = .tagRequiredByMissing ∨ cause.code = .mutuallyExclusiveAttrs) ∧
      ¬"amp-".toList <+: cause.tag.toList
  reserved : "amp-".toList <+: cause.tag.toList → category = .disallowedHtml →
    cause.code = .disallowedTag
  missingTag : cause.code = .mandatoryTagMissing → category = .mandatoryTagMissingOrIncorrect
  /-- The attribute that marks the top tag is missing. -/
  marker : cause.code = .mandatoryAttrMissing → cause.attribute? = some "\\u26a" →
    category = .mandatoryTagMissingOrIncorrect
  layout : cause.code = .invalidAttrValue ∨ cause.code = .mandatoryAttrMissing →
    ∀ name ∈ cause.attribute?, name ∈ ["width", "height", "layout"] → category = .layoutProblem

namespace Cause

open Category (startsWith_iff)

theorem triages_onElement (element : Element) (defect : Defect) :
    (onElement element defect).Triages (defect.category element.name) := by
  have ofElement : defect.code ≠ .tagRequiredByMissing ∧ defect.code ≠ .mandatoryTagMissing := by
    cases defect <;> exact ⟨nofun, nofun⟩
  constructor
  case known => exact defect.category_ne_unknown element.name
  case generic_iff =>
    rw [defect.category_eq_generic_iff, startsWith_iff]
    exact and_congr_left' (or_iff_right ofElement.1).symm
  case reserved =>
    intro reserved
    exact Defect.code_eq_disallowedTag ((startsWith_iff _ _).mpr reserved)
  case missingTag => exact fun coded => absurd coded ofElement.2
  case marker =>
    intro coded about
    cases defect with
    | missingAttribute name =>
        obtain rfl : name = _ := Option.some.inj about
        rfl
    | _ => cases coded
  case layout =>
    intro coded name about layout
    exact defect.category_of_layout element.name layout coded about

theorem triages_missingTag (tag : String) :
    (missingTag tag).Triages .mandatoryTagMissingOrIncorrect := by
  constructor
  case missingTag => exact fun _ => rfl
  all_goals simp [code, attribute?]

theorem triages_missingRequirement (missing requiring : String) :
    (missingRequirement missing requiring).Triages
      (missingRequirement missing requiring).category := by
  rw [category]
  by_cases reserved : Category.startsWith Category.reservedStart requiring = true
  · rw [if_pos reserved]
    constructor
    case generic_iff =>
      exact iff_of_false nofun fun generic => generic.2 ((startsWith_iff _ _).mp reserved)
    all_goals simp [code, attribute?]
  · rw [if_neg reserved]
    constructor
    case generic_iff =>
      exact iff_of_true rfl ⟨.inl rfl, fun begins => reserved ((startsWith_iff _ _).mpr begins)⟩
    all_goals simp [code, attribute?]

/-- The category that a cause calls for keeps all promises. -/
theorem triages (cause : Cause) : cause.Triages cause.category := by
  cases cause with
  | onElement element defect => exact triages_onElement element defect
  | missingTag tag => exact triages_missingTag tag
  | missingRequirement missing requiring => exact triages_missingRequirement missing requiring

end Cause

namespace RuleSet

/-- Every violation in the audit of a validation is in the category that its cause calls for. -/
theorem validate_triages (rules : RuleSet) (document : Document) :
    ∃ audit, rules.validate document = .ok audit ∧
      ∀ violation ∈ audit.violations.toList, ∃ cause : Cause, cause.Holds rules document ∧
        cause.Explains violation ∧ violation.category = some cause.category ∧
          cause.Triages cause.category := by
  obtain ⟨audit, validated, explained⟩ := rules.exists_cause_validate document
  refine ⟨audit, validated, fun violation listed => ?_⟩
  obtain ⟨cause, holds, explains, assigned⟩ := explained violation listed
  rw [cause.category_of] at assigned
  exact ⟨cause, holds, explains, assigned, cause.triages⟩

theorem validate_triages_sized :
    ∃ cause : Cause, cause.Holds sized .page ∧ cause.Explains (widthMissing ⟨1⟩) ∧
      cause.category = .layoutProblem ∧ cause.Triages .layoutProblem := by
  obtain ⟨audit, validated, triaged⟩ := sized.validate_triages .page
  cases validate_sized.symm.trans validated
  obtain ⟨cause, holds, explains, assigned, triages⟩ := triaged _ List.mem_cons_self
  have category : cause.category = .layoutProblem := (Option.some.inj assigned).symm
  exact ⟨cause, holds, explains, category, category ▸ triages⟩

end RuleSet

end MarkupAudit
