/-
# Appending to an audit

What a list of violations does to an audit. An open audit takes all of them, in order, and its
verdict becomes a fail at the first one that is an error; a closed audit takes none, and refuses
if there is one to take. In either case the rest of the audit stays as it is.
-/

import MarkupAudit.Scan.Inspector

namespace MarkupAudit

namespace Violation

/-- Every one of some violations is a warning. -/
def AllWarnings (violations : List Violation) : Prop :=
  ∀ violation ∈ violations, violation.severity = .warning

/-- Whether there is an error among some violations can be looked up. -/
instance (violations : List Violation) : Decidable (AllWarnings violations) :=
  inferInstanceAs (Decidable (∀ violation ∈ violations, violation.severity = .warning))

@[simp]
theorem allWarnings_nil : AllWarnings [] := by
  intro violation listed
  cases listed

@[simp]
theorem allWarnings_cons (violation : Violation) (rest : List Violation) :
    AllWarnings (violation :: rest) ↔ violation.severity = .warning ∧ AllWarnings rest := by
  simp only [AllWarnings, List.forall_mem_cons]

@[simp]
theorem allWarnings_append (first second : List Violation) :
    AllWarnings (first ++ second) ↔ AllWarnings first ∧ AllWarnings second := by
  simp only [AllWarnings, List.forall_mem_append]

@[simp]
theorem allWarnings_flatMap {α : Type} (report : α → List Violation) (items : List α) :
    AllWarnings (items.flatMap report) ↔ ∀ item ∈ items, AllWarnings (report item) := by
  simp only [AllWarnings, List.forall_mem_flatMap]

/-- What leaves every severity as it is leaves warnings warnings. -/
theorem allWarnings_map {change : Violation → Violation}
    (keeps : ∀ violation, (change violation).severity = violation.severity)
    (violations : List Violation) :
    AllWarnings (violations.map change) ↔ AllWarnings violations := by
  simp only [AllWarnings, List.forall_mem_map, keeps]

end Violation

namespace Audit

/-- An audit with some violations more. -/
def extend (audit : Audit) (violations : List Violation) : Audit :=
  { audit with
    status := violations.foldl statusAfter audit.status
    violations := audit.violations ++ violations.toArray }

/-- What an audit takes of some violations: all of them, or none if it is closed. -/
def taken (audit : Audit) (violations : List Violation) : List Violation :=
  if audit.isClosed then [] else violations

@[simp]
theorem extend_nil (audit : Audit) : audit.extend [] = audit := by
  simp [extend]

@[simp]
theorem extend_extend (audit : Audit) (first second : List Violation) :
    (audit.extend first).extend second = audit.extend (first ++ second) := by
  simp [extend, List.foldl_append]

@[simp]
theorem isClosed_extend (audit : Audit) (violations : List Violation) :
    (audit.extend violations).isClosed = audit.isClosed := rfl

@[simp]
theorem toList_violations_extend (audit : Audit) (violations : List Violation) :
    (audit.extend violations).violations.toList = audit.violations.toList ++ violations := by
  simp [extend]

/-- An open audit takes all violations. -/
theorem addAll_of_isOpen {audit : Audit} (isOpen : audit.isClosed = false)
    (violations : List Violation) :
    audit.addAll violations = (audit.extend violations, none) := by
  induction violations generalizing audit with
  | nil => rw [addAll, extend_nil]
  | cons violation rest ih =>
      have first : audit.add violation = .ok (audit.extend [violation]) := by
        simp [add, isOpen, extend]
      rw [addAll, first]
      dsimp only
      rw [ih (by rw [isClosed_extend, isOpen]), extend_extend, List.singleton_append]

/-- A closed audit takes no violation. -/
theorem addAll_of_isClosed {audit : Audit} (closed : audit.isClosed = true)
    (violations : List Violation) :
    audit.addAll violations = (audit, if violations.isEmpty then none else some .closed) := by
  cases violations with
  | nil => rfl
  | cons violation rest =>
      rw [addAll, add_of_isClosed audit violation closed]
      rfl

/-- The audit that is left is the old one with what it has taken. -/
theorem addAll_fst (audit : Audit) (violations : List Violation) :
    (audit.addAll violations).1 = audit.extend (audit.taken violations) := by
  unfold taken
  cases state : audit.isClosed with
  | false => rw [addAll_of_isOpen state, if_neg Bool.false_ne_true]
  | true => rw [addAll_of_isClosed state, if_pos rfl, extend_nil]

/-- Violations change nothing but a pass, and that only if there is an error among them. -/
theorem foldl_statusAfter (status : Status) (violations : List Violation) :
    violations.foldl statusAfter status =
      if status = .pass ∧ ¬Violation.AllWarnings violations then .fail else status := by
  induction violations generalizing status with
  | nil => simp
  | cons violation rest ih =>
      rw [List.foldl_cons, ih]
      cases severity : violation.severity with
      | error => cases status <;> simp [statusAfter, severity]
      | warning => simp [statusAfter, severity]

/-- From a pass, warnings lead to a pass, and anything else to a fail. -/
theorem foldl_statusAfter_pass (violations : List Violation) :
    violations.foldl statusAfter .pass =
      if Violation.AllWarnings violations then .pass else .fail := by
  rw [foldl_statusAfter]
  simp only [true_and, ite_not]

end Audit

/-- A run with an open audit appends all that an answer holds. -/
theorem Run.take_of_isOpen {σ : Type} {run : Run σ} (isOpen : run.audit.isClosed = false)
    (answer : Answer σ) :
    run.take answer =
      (⟨run.context, run.audit.extend answer.violations, answer.state⟩, answer.failure) := by
  rw [take, Audit.addAll_of_isOpen isOpen]

end MarkupAudit
