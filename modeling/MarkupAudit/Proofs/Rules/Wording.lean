/-
# Built-in messages for what is found

The checks fix how many parameters they report with each code, and the built-in templates, which are
kept elsewhere, ask for no others. So everything that a validation finds is told by its template, in
which every placeholder gives way to a parameter as it is.
-/

import MarkupAudit.Proofs.Report.Placeholders
import MarkupAudit.Proofs.Rules.Causes
import MarkupAudit.Report.Basic

namespace MarkupAudit

namespace TemplateTable

/-- A table has a template for a code, which needs no more than so many parameters. -/
def Covers (table : TemplateTable) (code : Code) (count : Nat) : Prop :=
  ∃ text, table.get? code = some (String.ofList text) ∧
    (Template.pieces text).all (Template.Piece.isWithin count) = true

theorem Covers.shows_message {table : TemplateTable} {violation : Violation}
    (covers : table.Covers violation.code violation.params.length)
    (given : violation.params ≠ []) :
    ∃ template, table.get? violation.code = some template ∧
      Template.Shows template violation.params (table.message violation) := by
  obtain ⟨text, found, within⟩ := covers
  refine ⟨_, found, ?_⟩
  have formatted : table.message violation =
      Template.format (String.ofList text) violation.params := by
    rw [message, found]
    exact if_neg (List.isEmpty_iff.not.mpr given)
  rw [formatted]
  apply Template.shows_format
  rwa [String.toList_ofList]

end TemplateTable

namespace Cause

/-- The codes of causes, each with the number of its parameters. -/
def reported : List (Code × Nat) :=
  [(.disallowedTag, 1), (.deprecatedTag, 2), (.duplicateUniqueTag, 1), (.wrongParentTag, 3),
   (.disallowedAttr, 2), (.invalidAttrValue, 3), (.deprecatedAttr, 3), (.mandatoryAttrMissing, 2),
   (.mandatoryOneofAttrMissing, 2), (.mutuallyExclusiveAttrs, 2), (.mandatoryTagMissing, 1),
   (.tagRequiredByMissing, 2)]

theorem mem_reported (cause : Cause) : (cause.code, cause.params.length) ∈ reported := by
  cases cause with
  | onElement element defect =>
      cases defect <;> simp [reported, code, params, Defect.code, Defect.params]
  | missingTag tag => simp [reported, code, params]
  | missingRequirement missing requiring => simp [reported, code, params]

theorem covers_reported : ∀ entry ∈ reported, TemplateTable.builtin.Covers entry.1 entry.2 := by
  simp only [reported, List.forall_mem_cons]
  refine ⟨?_, ?_, ?_, ?_, ?_, ?_, ?_, ?_, ?_, ?_, ?_, ?_, nofun⟩ <;>
    exact ⟨_, rfl, by decide +kernel⟩

theorem params_ne_nil (cause : Cause) : cause.params ≠ [] := by
  cases cause with
  | onElement element defect => cases defect <;> nofun
  | missingTag tag => nofun
  | missingRequirement missing requiring => nofun

end Cause

namespace RuleSet

/-- Every violation in the audit of a validation has parameters and a built-in template, and its
built-in message shows this template with these parameters. -/
theorem validate_shows_templates (rules : RuleSet) (document : Document) :
    ∃ audit, rules.validate document = .ok audit ∧
      ∀ violation ∈ audit.violations.toList, violation.params ≠ [] ∧
        ∃ template, TemplateTable.builtin.get? violation.code = some template ∧
          Template.Shows template violation.params (TemplateTable.builtin.message violation) := by
  obtain ⟨audit, validated, explained⟩ := rules.exists_cause_validate document
  refine ⟨audit, validated, fun violation listed => ?_⟩
  obtain ⟨cause, _, explains, _⟩ := explained violation listed
  have given : violation.params ≠ [] := explains.tells.params_eq ▸ cause.params_ne_nil
  have covers := Cause.covers_reported _ cause.mem_reported
  rw [← explains.tells.code_eq, ← explains.tells.params_eq] at covers
  exact ⟨given, covers.shows_message given⟩

theorem validate_shows_templates_sized :
    TemplateTable.builtin.get? .mandatoryAttrMissing =
        some "The mandatory attribute '%1' is missing in tag '%2'." ∧
      Template.Shows "The mandatory attribute '%1' is missing in tag '%2'." ["width", "p"]
        (TemplateTable.builtin.message (widthMissing ⟨1⟩)) := by
  obtain ⟨audit, validated, shown⟩ := sized.validate_shows_templates .page
  cases validate_sized.symm.trans validated
  obtain ⟨_, template, found, shows⟩ := shown _ List.mem_cons_self
  cases found
  exact ⟨rfl, shows⟩

end RuleSet

end MarkupAudit
