/-
# Audits

The outcome of validating a document: the violations in the order in which they were found, and
a status that follows from them. Violations can only be added, and only until the audit is
closed, which rendering does. An unknown status, of a run that failed otherwise, is final.
-/

import MarkupAudit.Violation.Basic

namespace MarkupAudit

/-- The verdict of an audit. -/
inductive Status where
  | pass
  | fail
  | unknown
  deriving Repr, DecidableEq, Inhabited

/-- The written name of a status. -/
def Status.name : Status → String
  | .pass => "PASS"
  | .fail => "FAIL"
  | .unknown => "UNKNOWN"

/-- No two statuses have one name. -/
theorem Status.name_inj {first second : Status} : first.name = second.name ↔ first = second := by
  cases first <;> cases second <;> decide

/-- The violations of a document, and the verdict on it. -/
structure Audit where
  status : Status
  violations : Array Violation
  /-- The number of elements that the last complete scan visited. -/
  tagsProcessed : Nat
  /-- Rendering has begun, and no more violations are taken. -/
  isClosed : Bool
  deriving Repr, DecidableEq, Inhabited

namespace Audit

/-- The audit without violations. -/
def empty : Audit := ⟨.pass, #[], 0, false⟩

/-- The verdict after one more violation: an error turns a pass into a fail. -/
def statusAfter (status : Status) (violation : Violation) : Status :=
  if violation.severity = .error ∧ status = .pass then .fail else status

/-- Append a violation, unless the audit is closed. -/
def add (audit : Audit) (violation : Violation) : Except Failure Audit :=
  if audit.isClosed then .error .closed
  else .ok { audit with
    status := statusAfter audit.status violation
    violations := audit.violations.push violation }

/-- Declare the verdict unknown. -/
def markUnknown (audit : Audit) : Audit :=
  { audit with status := .unknown }

/-- The audit of a document that could not be loaded, for a given reason. -/
def ofLoadFailure (reason : String) : Audit :=
  { empty.markUnknown with
    violations := #[{ Violation.ofDocument .unknownCode [] with detail := some reason }] }

/-- The verdict is a pass. -/
def isValid (audit : Audit) : Bool :=
  audit.status == .pass

/-- Take no more violations. -/
def close (audit : Audit) : Audit :=
  { audit with isClosed := true }

/-- Assign every violation its category. -/
def annotate (audit : Audit) : Audit :=
  { audit with violations := audit.violations.map Violation.categorized }

/-- A closed audit takes no violation. -/
theorem add_of_isClosed (audit : Audit) (violation : Violation) (closed : audit.isClosed = true) :
    audit.add violation = .error .closed := by
  rw [add, if_pos closed]

/-- Assigning categories a second time changes nothing. -/
theorem annotate_annotate (audit : Audit) : audit.annotate.annotate = audit.annotate := by
  have again : Violation.categorized ∘ Violation.categorized = Violation.categorized :=
    funext Violation.categorized_categorized
  rw [annotate, annotate, Array.map_map, again]

end Audit

end MarkupAudit
