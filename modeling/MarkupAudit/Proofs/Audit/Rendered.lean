/-
# After the report

What can still happen to an audit after a report on it has been written. Its violations are final:
the audit is closed, so none is added, and all of them have their categories. Two fields are left
that operations write without asking whether the audit is closed. The verdict is declared unknown
whenever that is asked for, and the number of elements is recorded by every scan that gets through
its visits. Neither operation fails.

So a report that is written again is the same text unless the verdict has been changed; and then
it is another one, except that an audit without violations always reports a pass.
-/

import MarkupAudit.Audit.Json
import MarkupAudit.Proofs.Audit.Session

namespace MarkupAudit

/-! ## What operations still write -/

namespace Operation

/-- The operation declares the verdict unknown. -/
def marksUnknown : Operation → Bool
  | markUnknown => true
  | _ => false

/-- The number of elements that the operation records: that of a document, if it gets through the
visits of all of them. -/
def counted? (audit : Audit) : Operation → Option Nat
  | scan inspector state context document =>
      match Run.visitAll inspector document document.walk ⟨context, audit, state⟩ with
      | (_, none) => some document.walk.length
      | (_, some _) => none
  | _ => none

end Operation

namespace Audit

/-- The numbers of elements that the operations of a session record, in order. -/
def counts (audit : Audit) : List Operation → List Nat
  | [] => []
  | operation :: rest =>
      (operation.counted? audit).toList ++ (operation.perform audit).1.counts rest

/-- A closed audit in which every violation has its category. -/
structure IsFinal (audit : Audit) : Prop where
  isClosed : audit.isClosed = true
  annotate_eq : audit.annotate = audit

theorem isFinal_write (table : TemplateTable) (audit : Audit) :
    (Report.write table audit).1.IsFinal where
  isClosed := rfl
  annotate_eq := congrArg close audit.annotate_annotate

/-- The audit with another verdict and another number of elements. -/
def revised (audit : Audit) (status : Status) (count : Nat) : Audit :=
  { audit with status := status, tagsProcessed := count }

namespace IsFinal

variable {audit : Audit} (final : audit.IsFinal)
include final

theorem revised (status : Status) (count : Nat) : (audit.revised status count).IsFinal where
  isClosed := final.isClosed
  annotate_eq := congrArg (·.revised status count) final.annotate_eq

theorem close_eq : audit.close = audit := by
  rw [close, ← final.isClosed]

theorem write_eq (table : TemplateTable) : (Report.write table audit).1 = audit := by
  rw [Report.write, final.annotate_eq, final.close_eq]

theorem text_eq (table : TemplateTable) :
    (Report.write table audit).2 = Report.text table audit := by
  rw [Report.write, final.annotate_eq, final.close_eq]

end IsFinal

end Audit

namespace Run

variable {σ : Type} (inspector : Inspector σ)

theorem audit_take_of_isClosed (run : Run σ) (closed : run.audit.isClosed = true)
    (answer : Answer σ) : (run.take answer).1.audit = run.audit := by
  rw [take_eq, Audit.taken, if_pos closed, Audit.extend_nil]

/-- The visits of a scan leave a closed audit as it is. -/
theorem audit_visitAll_of_isClosed (run : Run σ) (closed : run.audit.isClosed = true)
    (document : Document) (elements : List Element) :
    (run.visitAll inspector document elements).1.audit = run.audit := by
  induction elements generalizing run with
  | nil => rfl
  | cons element rest ih =>
      have here : (run.visit inspector document element).1.audit = run.audit :=
        audit_take_of_isClosed { run with context := run.context.visit document element } closed _
      generalize visited : run.visit inspector document element = result at here
      obtain ⟨next, failure⟩ := result
      cases failure with
      | some failure =>
          rw [visitAll_cons_of_some inspector visited]
          exact here
      | none =>
          rw [visitAll_cons_of_none inspector visited, ih next (here ▸ closed)]
          exact here

/-- A scan leaves a closed audit as it is, but for the number of elements, which it records if it
gets through the visits. -/
theorem audit_scan_of_isClosed (run : Run σ) (closed : run.audit.isClosed = true)
    (document : Document) :
    (run.scan inspector document).1.audit =
      match run.visitAll inspector document document.walk with
      | (_, none) => { run.audit with tagsProcessed := document.walk.length }
      | (_, some _) => run.audit := by
  have visits := audit_visitAll_of_isClosed inspector run closed document document.walk
  generalize visited : run.visitAll inspector document document.walk = result at visits
  obtain ⟨next, failure⟩ := result
  cases failure with
  | some failure =>
      rw [scan_of_some inspector visited]
      exact visits
  | none =>
      rw [scan_of_none inspector visited]
      dsimp only at visits ⊢
      have closedNext : (next.finish document.walk.length).audit.isClosed = true := by
        rw [finish, visits]
        exact closed
      rw [askDocument, audit_take_of_isClosed _ closedNext, finish, visits]

end Run

/-! ## Sessions after the report -/

namespace Audit.IsFinal

variable {audit : Audit} (final : audit.IsFinal)
include final

/-- One operation on an audit that has been reported on. -/
theorem perform_eq (operation : Operation) :
    (operation.perform audit).1 =
      audit.revised (if operation.marksUnknown then .unknown else audit.status)
        ((operation.counted? audit).getD audit.tagsProcessed) := by
  cases operation with
  | add violation =>
      rw [Operation.perform, add_of_isClosed audit violation final.isClosed]
      rfl
  | scan inspector state context document =>
      have scanned :=
        Run.audit_scan_of_isClosed inspector ⟨context, audit, state⟩ final.isClosed document
      rw [Operation.perform, Run.outcome, scanned, Operation.counted?]
      generalize Run.visitAll inspector document document.walk ⟨context, audit, state⟩ = result
      obtain ⟨next, failure⟩ := result
      cases failure <;> rfl
  | askTag inspector state context tag attributes =>
      exact Run.audit_take_of_isClosed ⟨context, audit, state⟩ final.isClosed _
  | askDocument inspector state context pass =>
      exact Run.audit_take_of_isClosed ⟨context, audit, state⟩ final.isClosed _
  | annotate => exact final.annotate_eq
  | markUnknown => rfl
  | close => exact final.close_eq
  | write table => exact final.write_eq table

/-- A session after the report changes the verdict and the number of elements only: the verdict if
it is declared unknown at some time, and the number to the one that is recorded last. -/
theorem after_eq (operations : List Operation) :
    audit.after operations =
      audit.revised (if operations.any Operation.marksUnknown then .unknown else audit.status)
        ((audit.counts operations).getLast?.getD audit.tagsProcessed) := by
  induction operations generalizing audit with
  | nil => rfl
  | cons operation rest ih =>
      have here := final.perform_eq operation
      have finalNext : (operation.perform audit).1.IsFinal := here ▸ final.revised _ _
      show (operation.perform audit).1.after rest = _
      rw [ih finalNext, counts]
      generalize (operation.perform audit).1.counts rest = later
      have status : (if rest.any Operation.marksUnknown then .unknown
            else if operation.marksUnknown then .unknown else audit.status) =
          if (operation :: rest).any Operation.marksUnknown then Status.unknown
            else audit.status := by
        rw [List.any_cons]
        cases operation.marksUnknown <;> cases rest.any Operation.marksUnknown <;> rfl
      have count : later.getLast?.getD ((operation.counted? audit).getD audit.tagsProcessed) =
          ((operation.counted? audit).toList ++ later).getLast?.getD audit.tagsProcessed := by
        rw [List.getLast?_append]
        cases later.getLast? <;> cases operation.counted? audit <;> rfl
      rw [here, ← status, ← count]
      rfl

end Audit.IsFinal

namespace Audit

variable (audit : Audit) (status : Status) (count : Nat)

/-- The text of an audit shows its verdict, unless there are no violations. -/
theorem text_revised_iff (table : TemplateTable) :
    Report.text table (audit.revised status count) = Report.text table audit ↔
      status = audit.status ∨ audit.violations = #[] := by
  have split : ∀ first second : String,
      first ++ "\n" ++ Report.body table .start audit.violations.toList =
        second ++ "\n" ++ Report.body table .start audit.violations.toList ↔ first = second := by
    intro first second
    rw [String.append_left_inj, String.append_left_inj]
  rw [Report.text, Report.text]
  refine (split _ _).trans ?_
  unfold Report.firstLine
  by_cases nothing : audit.violations = #[]
  · simp [revised, nothing]
  · simp [revised, nothing, Status.name_inj]

/-- The value of an audit in JSON shows its verdict and the number of its elements. -/
theorem toJson_revised_iff :
    (audit.revised status count).toJson = audit.toJson ↔ audit.revised status count = audit := by
  constructor
  · intro same
    simp only [toJson, revised, Json.object.injEq, List.cons.injEq, Prod.mk.injEq, true_and,
      and_true, Json.string.injEq, Status.name_inj, Json.natural, Json.number.injEq,
      Numeral.ofNat, Numeral.mk.injEq] at same
    rw [revised, same.1, same.2]
  · intro same
    rw [same]

end Audit

/-- After a report has been written, nothing changes in the audit but the verdict, by declaring it
unknown, and the number of elements, by scans that get through their visits. A later report is the
same text exactly if the verdict is still the same or there is nothing to report, the value in
JSON is the same exactly if the whole audit is, and no violation can be added. -/
theorem Report.after_write (table : TemplateTable) (audit : Audit)
    (operations : List Operation) :
    let rendered := (write table audit).1
    let later := rendered.after operations
    later = { rendered with
      status := if operations.any Operation.marksUnknown then .unknown else rendered.status
      tagsProcessed := (rendered.counts operations).getLast?.getD rendered.tagsProcessed } ∧
    (∀ other, (write other later).2 = (write other rendered).2 ↔
      later.status = rendered.status ∨ rendered.violations = #[]) ∧
    (later.toJson = rendered.toJson ↔ later = rendered) ∧
    ∀ violation rest, later.add violation = .error .closed ∧
      later.addAll (violation :: rest) = (later, some .closed) := by
  intro rendered later
  have final := Audit.isFinal_write table audit
  have changed := final.after_eq operations
  obtain ⟨status, count, revised⟩ :
      ∃ status count, later = rendered.revised status count := ⟨_, _, changed⟩
  have finalLater : later.IsFinal := revised ▸ final.revised status count
  refine ⟨changed, fun other => ?_, ?_, fun violation rest => ?_⟩
  · rw [finalLater.text_eq, final.text_eq, revised]
    exact rendered.text_revised_iff status count other
  · rw [revised]
    exact rendered.toJson_revised_iff status count
  · refine ⟨Audit.add_of_isClosed _ violation finalLater.isClosed, ?_⟩
    rw [Audit.addAll_of_isClosed finalLater.isClosed]
    rfl

/-- An audit with one violation. -/
def Audit.disallowed : Audit :=
  Audit.empty.extend [Violation.ofDocument .disallowedTag ["blink"]]

/-- An inspector that finds nothing. -/
def Inspector.silent : Inspector Unit where
  inspectTag _ _ _ _ _ := ⟨(), [], none⟩
  inspectDocument _ _ _ _ := ⟨(), [], none⟩

/-- After a report has been written, the verdict can be declared unknown, and a scan that finds
nothing records its number of elements. Neither fails, and a second report has another text, as
has the audit in JSON. -/
theorem Report.changed_after_write :
    let rendered := (write ⟨[]⟩ Audit.disallowed).1
    let scan : Operation := .scan .silent () Context.start Document.page
    ((Operation.markUnknown.perform rendered).2 = none ∧
      (write ⟨[]⟩ (rendered.after [.markUnknown])).2 ≠ (write ⟨[]⟩ rendered).2) ∧
    (scan.perform rendered).2 = none ∧
      Json.compact (rendered.after [scan]).toJson ≠ Json.compact rendered.toJson := by
  decide +kernel

end MarkupAudit
