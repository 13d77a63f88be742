/-
# The verdict of a session

What the verdict of an audit says at any moment of any session. It is unknown exactly if the
document could not be loaded or the verdict has been declared unknown, and otherwise it is the one
that follows from the violations: a fail if there is an error among them, and a pass if they are
warnings alone.

The verdict is not computed from the violations. It is kept beside them and changed with every one
that is taken, so the two could come apart: by a violation that is refused, by one that did not go
the way of the others, or by an error that is found after the verdict has become unknown. The
invariant is that the verdict is unknown or the one on the violations, and every elementary change
keeps it. That nothing but a declaration makes it unknown is a matter of the operations, since an
elementary change does not know where it comes from.
-/

import MarkupAudit.Proofs.Audit.Session

namespace MarkupAudit

/-! ## Where the verdict comes from -/

/-- How an audit comes into being. -/
inductive Origin where
  /-- It is begun without violations. -/
  | fresh
  /-- It is the audit of a document that could not be loaded, for a given reason. -/
  | loadFailure (reason : String)

/-- The audit as it comes into being. -/
def Origin.audit : Origin → Audit
  | fresh => .empty
  | loadFailure reason => .ofLoadFailure reason

/-- The verdict has been declared unknown: when the audit came into being, because the document
could not be loaded, or by an operation. -/
def Origin.DeclaresUnknown (origin : Origin) (session : List Operation) : Prop :=
  (∃ reason, origin = .loadFailure reason) ∨ .markUnknown ∈ session

namespace Audit

/-- The verdict on some violations. -/
def verdictOn (violations : List Violation) : Status :=
  if Violation.AllWarnings violations then .pass else .fail

/-- The verdict is unknown, or the one on the violations. -/
def IsJudged (audit : Audit) : Prop :=
  audit.status = .unknown ∨ audit.status = verdictOn audit.violations.toList

theorem verdictOn_append (first second : List Violation) :
    verdictOn (first ++ second) = second.foldl statusAfter (verdictOn first) := by
  rw [foldl_statusAfter]
  unfold verdictOn
  by_cases fine : Violation.AllWarnings first <;> simp [fine]

theorem verdictOn_categorized (violations : List Violation) :
    verdictOn (violations.map Violation.categorized) = verdictOn violations := by
  have keeps (violation : Violation) : violation.categorized.severity = violation.severity := rfl
  simp only [verdictOn, Violation.allWarnings_map keeps]

theorem verdictOn_eq_pass_iff (violations : List Violation) :
    verdictOn violations = .pass ↔
      ∀ violation ∈ violations, violation.severity = .warning := by
  unfold verdictOn
  split
  · rename_i fine
    exact iff_of_true rfl fine
  · rename_i bad
    exact iff_of_false nofun bad

theorem verdictOn_eq_fail_iff (violations : List Violation) :
    verdictOn violations = .fail ↔ ∃ violation ∈ violations, violation.severity = .error := by
  have isError (violation : Violation) :
      violation.severity = .error ↔ ¬violation.severity = .warning := by
    cases violation.severity <;> decide
  have two : verdictOn violations = .fail ↔ ¬verdictOn violations = .pass := by
    unfold verdictOn
    split <;> decide
  simp only [two, verdictOn_eq_pass_iff, isError, not_forall, exists_prop]

theorem foldl_statusAfter_eq_unknown_iff (status : Status) (violations : List Violation) :
    violations.foldl statusAfter status = .unknown ↔ status = .unknown := by
  rw [foldl_statusAfter]
  split
  · rename_i failed
    simp [failed.1]
  · rfl

variable {audit next : Audit}

/-! ## What a change does to it -/

theorem Change.isJudged (change : audit.Change next) (judged : audit.IsJudged) :
    next.IsJudged := by
  cases change with
  | append violations isOpen =>
      refine judged.imp (foldl_statusAfter_eq_unknown_iff _ violations).mpr fun follows => ?_
      rw [toList_violations_extend, verdictOn_append, ← follows]
      rfl
  | count number => exact judged
  | annotate =>
      refine judged.imp_right fun follows => ?_
      rw [Audit.annotate, Array.toList_map, verdictOn_categorized]
      exact follows
  | markUnknown => exact .inl rfl
  | close => exact judged

theorem Changes.isJudged (changes : audit.Changes next) (judged : audit.IsJudged) :
    next.IsJudged := by
  induction changes with
  | refl => exact judged
  | tail _ change ih => exact change.isJudged ih

/-- A verdict that is not a pass does not become one. -/
theorem Change.status_eq_pass (change : audit.Change next) (passes : next.status = .pass) :
    audit.status = .pass := by
  cases change with
  | append violations isOpen =>
      have folded : violations.foldl statusAfter audit.status = .pass := passes
      rw [foldl_statusAfter] at folded
      split at folded
      · contradiction
      · exact folded
  | markUnknown => contradiction
  | count number => exact passes
  | annotate => exact passes
  | close => exact passes

theorem Changes.status_eq_pass (changes : audit.Changes next) (passes : next.status = .pass) :
    audit.status = .pass := by
  induction changes with
  | refl => exact passes
  | tail _ change ih => exact ih (change.status_eq_pass passes)

/-- A run neither makes the verdict unknown nor takes that back. -/
theorem Grows.status_eq_unknown_iff (grows : audit.Grows next) :
    next.status = .unknown ↔ audit.status = .unknown := by
  induction grows with
  | refl => rfl
  | tail _ growth ih =>
      rw [← ih]
      cases growth with
      | append violations isOpen => exact foldl_statusAfter_eq_unknown_iff _ violations
      | count number => rfl

end Audit

/-- Of all operations, only the declaration makes the verdict unknown, and none takes it back. -/
theorem Operation.status_perform_eq_unknown_iff (audit : Audit) (operation : Operation) :
    (operation.perform audit).1.status = .unknown ↔
      audit.status = .unknown ∨ .markUnknown = operation := by
  have grown {next : Audit} {other : Operation} (grows : audit.Grows next)
      (different : .markUnknown ≠ other) :
      next.status = .unknown ↔ audit.status = .unknown ∨ .markUnknown = other := by
    rw [grows.status_eq_unknown_iff, or_iff_left different]
  cases operation with
  | add violation => exact grown (grows_add audit violation) nofun
  | scan inspector state context document =>
      exact grown (Run.grows_scan inspector ⟨context, audit, state⟩ document) nofun
  | askTag inspector state context tag attributes =>
      exact grown (Run.grows_take ⟨context, audit, state⟩ _) nofun
  | askDocument inspector state context pass =>
      exact grown (Run.grows_take ⟨context, audit, state⟩ _) nofun
  | annotate => exact (or_iff_left nofun).symm
  | markUnknown => exact iff_of_true rfl (.inr rfl)
  | close => exact (or_iff_left nofun).symm
  | write table => exact (or_iff_left nofun).symm

/-! ## Sessions -/

theorem Audit.status_after_eq_unknown_iff (audit : Audit) (session : List Operation) :
    (audit.after session).status = .unknown ↔
      audit.status = .unknown ∨ .markUnknown ∈ session := by
  induction session generalizing audit with
  | nil => simp [after]
  | cons operation rest ih =>
      show ((operation.perform audit).1.after rest).status = .unknown ↔ _
      rw [ih, operation.status_perform_eq_unknown_iff, List.mem_cons, or_assoc]

namespace Origin

variable (origin : Origin) (session : List Operation)

theorem isJudged_after : (origin.audit.after session).IsJudged := by
  refine (origin.audit.changes_after session).isJudged ?_
  cases origin with
  | fresh => exact .inr rfl
  | loadFailure reason => exact .inl rfl

theorem status_after_eq_unknown_iff :
    (origin.audit.after session).status = .unknown ↔ origin.DeclaresUnknown session := by
  rw [Audit.status_after_eq_unknown_iff]
  refine or_congr_left ?_
  cases origin with
  | fresh => exact iff_of_false nofun nofun
  | loadFailure reason => exact iff_of_true rfl ⟨reason, rfl⟩

end Origin

namespace Audit

/-- At any moment of a session, the verdict is unknown exactly if it has been declared unknown.
If it has not, it is a fail exactly if there is an error among the violations, and a pass exactly
if all of them are warnings. So an audit that is not valid never becomes valid again. -/
theorem status_after (origin : Origin) (session : List Operation) :
    let audit := origin.audit.after session
    (audit.status = .unknown ↔ origin.DeclaresUnknown session) ∧
    (audit.status = .fail ↔ ¬origin.DeclaresUnknown session ∧
      ∃ violation ∈ audit.violations, violation.severity = .error) ∧
    (audit.status = .pass ↔ ¬origin.DeclaresUnknown session ∧
      ∀ violation ∈ audit.violations, violation.severity = .warning) ∧
    ∀ later, (audit.after later).isValid = true → audit.isValid = true := by
  intro audit
  have unknown : audit.status = .unknown ↔ origin.DeclaresUnknown session :=
    origin.status_after_eq_unknown_iff session
  have judged : audit.IsJudged := origin.isJudged_after session
  have stays (later : List Operation) (passes : (audit.after later).isValid = true) :
      audit.isValid = true :=
    beq_iff_eq.mpr ((audit.changes_after later).status_eq_pass (beq_iff_eq.mp passes))
  by_cases declared : origin.DeclaresUnknown session
  · have status : audit.status = .unknown := unknown.mpr declared
    simp only [status, declared, not_true_eq_false, false_and]
    exact ⟨trivial, iff_of_false nofun id, iff_of_false nofun id, stays⟩
  · have known : audit.status ≠ .unknown := mt unknown.mp declared
    have status := judged.resolve_left known
    rw [status] at known
    simp only [status, declared, not_false_eq_true, true_and, verdictOn_eq_fail_iff,
      verdictOn_eq_pass_iff, Array.mem_toList_iff]
    exact ⟨iff_of_false known id, stays⟩

end Audit

end MarkupAudit
