/-
# What a printed audit says

An audit is printed as an object with one item for each of its violations. Looking up the members
of these objects gives the fields back, and the text that is printed spells the object, unless a
number in it is beyond 64 bits.
-/

import MarkupAudit.Audit.Json
import MarkupAudit.Proofs.Json.Printing

namespace MarkupAudit

/-- The first member of an object with a given key. -/
def Json.member? (key : String) : Json → Option Json
  | .object members => members.lookup key
  | _ => none

namespace Violation

theorem member?_code (violation : Violation) :
    violation.toJson.member? "code" = some (.string violation.code.name) := rfl

theorem member?_params (violation : Violation) :
    violation.toJson.member? "params" = some (.array (violation.params.map .string)) := rfl

theorem member?_category (violation : Violation) :
    violation.toJson.member? "category" =
      some (.optional (.string ·.name) violation.category) := rfl

/-- The numbers of a violation are within 64 bits. -/
def IsBounded (violation : Violation) : Prop :=
  violation.line < Nat.pow 2 64 ∧ ∀ id ∈ violation.element, id.index < Nat.pow 2 64

theorem isLegal_toJson {violation : Violation} (bounded : violation.IsBounded) :
    violation.toJson.IsLegal := by
  refine Json.haveLegalValues_iff.mpr ?_
  simp only [List.forall_mem_cons, List.not_mem_nil, false_implies, implies_true, and_true]
  have texts : ∀ text ∈ violation.params.map Json.string, text.IsLegal :=
    List.forall_mem_map.mpr fun text _ => Json.isLegal_string text
  refine ⟨trivial, Json.areLegal_iff.mpr texts, ?detail, Json.isLegal_natural bounded.1, ?element,
    trivial, trivial, trivial, ?category, ?specUrl, ?action⟩
  case detail => exact Json.isLegal_optional fun text _ => Json.isLegal_string text
  case element =>
    exact Json.isLegal_optional fun id present => Json.isLegal_natural (bounded.2 id present)
  case category => exact Json.isLegal_optional fun category _ => Json.isLegal_string category.name
  case specUrl => exact Json.isLegal_optional fun text _ => Json.isLegal_string text
  case action => exact Json.isLegal_optional fun _ _ => ⟨trivial, trivial⟩

end Violation

namespace Audit

theorem member?_status (audit : Audit) :
    audit.toJson.member? "status" = some (.string audit.status.name) := rfl

theorem member?_errors (audit : Audit) :
    audit.toJson.member? "errors" =
      some (.array (audit.violations.toList.map Violation.toJson)) := rfl

theorem isLegal_toJson {audit : Audit} (counted : audit.tagsProcessed < Nat.pow 2 64)
    (bounded : ∀ violation ∈ audit.violations.toList, violation.IsBounded) :
    audit.toJson.IsLegal := by
  refine Json.haveLegalValues_iff.mpr ?_
  simp only [List.forall_mem_cons, List.not_mem_nil, false_implies, implies_true, and_true]
  have errors : ∀ item ∈ audit.violations.toList.map Violation.toJson, item.IsLegal :=
    List.forall_mem_map.mpr fun violation listed =>
      Violation.isLegal_toJson (bounded violation listed)
  exact ⟨trivial, Json.areLegal_iff.mpr errors, Json.isLegal_natural counted⟩

end Audit

end MarkupAudit
