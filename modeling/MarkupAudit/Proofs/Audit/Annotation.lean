/-
# When categories are assigned

Categories can be assigned at any time, and more than once. An operation on the audit itself does
not ask for them, so if they are assigned in the end, it makes no difference whether they have been
assigned before as well. That is seen for one operation, and from there for a session, in which all
earlier assignments can be left out.

Nothing but the categories is changed by it, also in an audit that is closed. A report assigns them
before anything is written, and therefore has the same text whether they have been there or not; in
particular, it does not need those that a validation assigns.
-/

import MarkupAudit.Proofs.Audit.Session

namespace MarkupAudit

namespace Operation

/-- The operation is one on the audit itself: it hands over a violation, assigns categories,
declares the verdict unknown or closes the audit. -/
inductive IsDirect : Operation → Prop where
  | add (violation : Violation) : IsDirect (.add violation)
  | annotate : IsDirect .annotate
  | markUnknown : IsDirect .markUnknown
  | close : IsDirect .close

/-- The operation assigns categories, and does nothing else. -/
def annotates : Operation → Bool
  | annotate => true
  | _ => false

end Operation

namespace Audit

/-! ## Assigning again in the end -/

/-- Categories that are assigned after violations have been appended replace those assigned before,
and are the same. -/
theorem annotate_extend (audit : Audit) (violations : List Violation) :
    (audit.annotate.extend violations).annotate = (audit.extend violations).annotate := by
  have replaced : (audit.violations.map Violation.categorized ++ violations.toArray).map
      Violation.categorized = (audit.violations ++ violations.toArray).map
        Violation.categorized := by
    rw [Array.map_append, Array.map_append, Array.map_map]
    rfl
  exact congrArg (Audit.mk _ · _ _) replaced

/-- For the categories that are assigned after an operation, it does not matter whether they have
been assigned before it. -/
theorem annotate_perform {operation : Operation} (direct : operation.IsDirect) (audit : Audit) :
    (operation.perform audit.annotate).1.annotate = (operation.perform audit).1.annotate := by
  cases direct with
  | add violation =>
      rw [Operation.perform_add, Operation.perform_add]
      exact audit.annotate_extend (audit.taken [violation])
  | annotate => exact congrArg annotate audit.annotate_annotate
  | markUnknown => exact congrArg markUnknown audit.annotate_annotate
  | close => exact congrArg close audit.annotate_annotate

/-- Nor does it matter after a session. -/
theorem annotate_after {session : List Operation}
    (direct : ∀ operation ∈ session, operation.IsDirect) (audit : Audit) :
    (audit.annotate.after session).annotate = (audit.after session).annotate := by
  induction session generalizing audit with
  | nil => exact audit.annotate_annotate
  | cons operation rest ih =>
      obtain ⟨directHere, directRest⟩ := List.forall_mem_cons.mp direct
      let next := (operation.perform audit).1
      let annotated := (operation.perform audit.annotate).1
      calc (annotated.after rest).annotate
          = (annotated.annotate.after rest).annotate := (ih directRest annotated).symm
        _ = (next.annotate.after rest).annotate := by rw [annotate_perform directHere audit]
        _ = (next.after rest).annotate := ih directRest next

/-- The assignments within a session can be left out if there is one in the end. -/
theorem annotate_after_filter {session : List Operation}
    (direct : ∀ operation ∈ session, operation.IsDirect) (audit : Audit) :
    (audit.after (session.filter (!·.annotates))).annotate = (audit.after session).annotate := by
  induction session generalizing audit with
  | nil => rfl
  | cons operation rest ih =>
      obtain ⟨directHere, directRest⟩ := List.forall_mem_cons.mp direct
      cases directHere with
      | annotate => exact (ih directRest audit).trans (annotate_after directRest audit).symm
      | add violation => exact ih directRest _
      | markUnknown => exact ih directRest _
      | close => exact ih directRest _

/-! ## Nothing but the categories -/

/-- One audit is another in which every violation has been assigned its category, and nothing else
has been changed. -/
structure IsAnnotatedAs (audit annotated : Audit) : Prop where
  status_eq : annotated.status = audit.status
  tagsProcessed_eq : annotated.tagsProcessed = audit.tagsProcessed
  isClosed_eq : annotated.isClosed = audit.isClosed
  size_eq : annotated.violations.size = audit.violations.size
  violation_eq : ∀ place : Nat, annotated.violations[place]? =
    audit.violations[place]?.map fun violation =>
      { violation with category := some (Category.of violation.code violation.params) }

theorem isAnnotatedAs_annotate (audit : Audit) : audit.IsAnnotatedAs audit.annotate where
  status_eq := rfl
  tagsProcessed_eq := rfl
  isClosed_eq := rfl
  size_eq := Array.size_map
  violation_eq _ := Array.getElem?_map

/-- A report assigns the categories itself. -/
theorem write_annotate (table : TemplateTable) (audit : Audit) :
    Report.write table audit.annotate = Report.write table audit := by
  rw [Report.write, audit.annotate_annotate, Report.write]

end Audit

/-- What a scan of a document leaves, with no categories assigned. -/
def scanAudit {σ : Type} (inspector : Inspector σ) (state : σ) (document : Document) :
    Except Failure Audit :=
  match Run.scan inspector document ⟨Context.start, Audit.empty, state⟩ with
  | (_, some failure) => .error failure
  | (run, none) => .ok run.audit

/-- A report on a validation is one on its scan. -/
theorem map_write_validate {σ : Type} (inspector : Inspector σ) (state : σ) (document : Document)
    (table : TemplateTable) :
    (validate inspector state document).1.map (Report.write table) =
      (scanAudit inspector state document).map (Report.write table) := by
  rw [validate, scanAudit]
  generalize Run.scan inspector document ⟨Context.start, Audit.empty, state⟩ = result
  obtain ⟨run, failure⟩ := result
  cases failure with
  | some failure => rfl
  | none => exact congrArg Except.ok (Audit.write_annotate table run.audit)

/-- A session on an audit that ends with an assignment of the categories leaves what it leaves
without the earlier assignments. The last one changes nothing but the categories, and changes
nothing when it is repeated. The report on the audit is the same with and without it, as it is with
and without the earlier ones, and the report on a validation is the one on its scan. -/
theorem Audit.after_annotated (start : Audit) {session : List Operation}
    (direct : ∀ operation ∈ session, operation.IsDirect) :
    let audit := start.after session
    let annotated := start.after (session ++ [.annotate])
    let others := session.filter (!·.annotates)
    annotated = start.after (others ++ [.annotate]) ∧
      audit.IsAnnotatedAs annotated ∧
      annotated.annotate = annotated ∧
      (∀ table, Report.write table annotated = Report.write table audit ∧
        Report.write table (start.after others) = Report.write table audit) ∧
      ∀ {σ : Type} (inspector : Inspector σ) (state : σ) (document : Document)
        (table : TemplateTable),
        (validate inspector state document).1.map (Report.write table) =
          (scanAudit inspector state document).map (Report.write table) := by
  intro audit annotated others
  have last : annotated = audit.annotate := start.after_append session [.annotate]
  have omitted : (start.after others).annotate = audit.annotate :=
    annotate_after_filter direct start
  refine ⟨?_, ?_, ?_, fun table => ⟨?_, ?_⟩, map_write_validate⟩
  · rw [last, ← omitted, after_append]
    rfl
  · rw [last]
    exact audit.isAnnotatedAs_annotate
  · rw [last, audit.annotate_annotate]
  · rw [last, write_annotate]
  · rw [← write_annotate table (start.after others), omitted, write_annotate]

/-- Categories are assigned between two violations, and again after the audit has been closed and
has refused another one. The second violation is without a category in between, and has its own in
the end. -/
theorem Audit.after_annotated_between :
    let first := Violation.ofDocument .disallowedTag ["blink"]
    let second := Violation.ofDocument .mandatoryTagMissing ["main"]
    let session : List Operation := [.add first, .annotate, .add second, .close, .add first,
      .annotate]
    (∀ operation ∈ session, operation.IsDirect) ∧
      empty.after (session ++ [.annotate]) =
        empty.after [.add first, .add second, .close, .add first, .annotate] ∧
      (empty.after [.add first, .annotate, .add second]).violations.map (·.category) =
        #[some .disallowedHtml, none] ∧
      (empty.after (session ++ [.annotate])).violations.map (·.category) =
        #[some .disallowedHtml, some .mandatoryTagMissingOrIncorrect] := by
  intro first second session
  have direct : ∀ operation ∈ session, operation.IsDirect := by
    simp only [session, List.forall_mem_cons]
    exact ⟨.add _, .annotate, .add _, .close, .add _, .annotate, List.forall_mem_nil _⟩
  exact ⟨direct, (empty.after_annotated direct).1, by decide +kernel, by decide +kernel⟩

end MarkupAudit
