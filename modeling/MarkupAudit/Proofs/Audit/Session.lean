/-
# Sessions

All that can be done to an audit, one operation after the other. An operation may fail, and what it
has changed before it failed stays changed. Inspectors are asked in any state and in any context,
so a session in which they keep their state from one operation to the next is one of these.

Every operation is a succession of a few elementary changes, whichever way it ends, and a closed
audit takes no part in the one that appends violations. What these changes preserve is therefore
preserved by sessions.
-/

import Mathlib.Logic.Relation
import MarkupAudit.Proofs.Scan.Protocol
import MarkupAudit.Report.Basic

namespace MarkupAudit

/-! ## Operations -/

/-- Something that can be done to an audit. -/
inductive Operation : Type 1 where
  | add (violation : Violation)
  | scan {σ : Type} (inspector : Inspector σ) (state : σ) (context : Context)
      (document : Document)
  | askTag {σ : Type} (inspector : Inspector σ) (state : σ) (context : Context) (tag : String)
      (attributes : AttributeSet)
  | askDocument {σ : Type} (inspector : Inspector σ) (state : σ) (context : Context)
      (pass : String)
  | annotate
  | markUnknown
  | close
  | write (table : TemplateTable)

/-- What a run that has ended leaves to the holder of its audit. -/
def Run.outcome {σ : Type} (ended : Run σ × Option Failure) : Audit × Option Failure :=
  (ended.1.audit, ended.2)

/-- Do something to an audit: what becomes of it, and why the operation failed, if it did. -/
def Operation.perform (audit : Audit) : Operation → Audit × Option Failure
  | add violation =>
      match audit.add violation with
      | .error failure => (audit, some failure)
      | .ok next => (next, none)
  | scan inspector state context document =>
      Run.outcome (Run.scan inspector document ⟨context, audit, state⟩)
  | askTag inspector state context tag attributes =>
      Run.outcome (Run.askTag inspector ⟨context, audit, state⟩ tag attributes)
  | askDocument inspector state context pass =>
      Run.outcome (Run.askDocument inspector ⟨context, audit, state⟩ pass)
  | annotate => (audit.annotate, none)
  | markUnknown => (audit.markUnknown, none)
  | close => (audit.close, none)
  | write table => ((Report.write table audit).1, none)

/-- What becomes of an audit in a session, whichever of the operations fail. -/
def Audit.after (audit : Audit) (operations : List Operation) : Audit :=
  operations.foldl (fun audit operation => (operation.perform audit).1) audit

/-! ## Changes -/

namespace Audit

/-- An elementary change of an audit. -/
inductive Change (audit : Audit) : Audit → Prop where
  | append (violations : List Violation) : audit.isClosed = false →
      Change audit (audit.extend violations)
  | count (number : Nat) : Change audit { audit with tagsProcessed := number }
  | annotate : Change audit audit.annotate
  | markUnknown : Change audit audit.markUnknown
  | close : Change audit audit.close

/-- A succession of elementary changes. -/
abbrev Changes : Audit → Audit → Prop := Relation.ReflTransGen Change

/-- An elementary change that a run makes. -/
inductive Growth (audit : Audit) : Audit → Prop where
  | append (violations : List Violation) : audit.isClosed = false →
      Growth audit (audit.extend violations)
  | count (number : Nat) : Growth audit { audit with tagsProcessed := number }

/-- A succession of elementary changes that a run makes. -/
abbrev Grows : Audit → Audit → Prop := Relation.ReflTransGen Growth

variable {audit next : Audit}

theorem Change.changes (change : audit.Change next) : audit.Changes next := .single change

theorem Growth.change (growth : audit.Growth next) : audit.Change next := by
  cases growth with
  | append violations isOpen => exact .append violations isOpen
  | count number => exact .count number

theorem Grows.changes (grows : audit.Grows next) : audit.Changes next :=
  Relation.ReflTransGen.mono (fun _ _ => Growth.change) _ _ grows

theorem grows_taken (audit : Audit) (violations : List Violation) :
    audit.Grows (audit.extend (audit.taken violations)) := by
  unfold taken
  cases state : audit.isClosed with
  | true =>
      rw [if_pos rfl, extend_nil]
  | false =>
      rw [if_neg Bool.false_ne_true]
      exact .single (.append violations state)

end Audit

namespace Run

variable {σ : Type} (inspector : Inspector σ) (run : Run σ)

theorem grows_take (answer : Answer σ) : run.audit.Grows (run.take answer).1.audit := by
  rw [take_eq]
  exact run.audit.grows_taken answer.violations

theorem grows_visit (document : Document) (element : Element) :
    run.audit.Grows (run.visit inspector document element).1.audit :=
  grows_take { run with context := run.context.visit document element } _

theorem grows_visitAll (document : Document) (elements : List Element) :
    run.audit.Grows (run.visitAll inspector document elements).1.audit := by
  induction elements generalizing run with
  | nil => exact .refl
  | cons element rest ih =>
      have here := run.grows_visit inspector document element
      generalize visited : run.visit inspector document element = result at here
      obtain ⟨next, failure⟩ := result
      cases failure with
      | some failure =>
          rw [visitAll_cons_of_some inspector visited]
          exact here
      | none =>
          rw [visitAll_cons_of_none inspector visited]
          exact here.trans (ih next)

theorem grows_scan (document : Document) :
    run.audit.Grows (run.scan inspector document).1.audit := by
  have visits := run.grows_visitAll inspector document document.walk
  generalize visited : run.visitAll inspector document document.walk = result at visits
  obtain ⟨next, failure⟩ := result
  cases failure with
  | some failure =>
      rw [scan_of_some inspector visited]
      exact visits
  | none =>
      rw [scan_of_none inspector visited]
      have counted : run.audit.Grows (next.finish document.walk.length).audit :=
        visits.tail (.count document.walk.length)
      exact counted.trans (grows_take _ _)

end Run

/-- A violation that is handed over is appended if the audit takes any. -/
theorem Operation.perform_add (audit : Audit) (violation : Violation) :
    ((add violation).perform audit).1 = audit.extend (audit.taken [violation]) := by
  rw [← Audit.addAll_fst, Audit.addAll, perform]
  cases audit.add violation with
  | error failure => rfl
  | ok next => rfl

theorem Operation.grows_add (audit : Audit) (violation : Violation) :
    audit.Grows ((add violation).perform audit).1 := by
  rw [perform_add]
  exact audit.grows_taken [violation]

/-- An operation is a succession of elementary changes, also if it fails. -/
theorem Operation.changes_perform (audit : Audit) (operation : Operation) :
    audit.Changes (operation.perform audit).1 := by
  cases operation with
  | add violation => exact (grows_add audit violation).changes
  | scan inspector state context document =>
      exact (Run.grows_scan inspector ⟨context, audit, state⟩ document).changes
  | askTag inspector state context tag attributes =>
      exact (Run.grows_take ⟨context, audit, state⟩ _).changes
  | askDocument inspector state context pass =>
      exact (Run.grows_take ⟨context, audit, state⟩ _).changes
  | annotate => exact Audit.Change.annotate.changes
  | markUnknown => exact Audit.Change.markUnknown.changes
  | close => exact Audit.Change.close.changes
  | write table => exact Audit.Change.annotate.changes.tail .close

/-- A session is a succession of elementary changes. -/
theorem Audit.changes_after (audit : Audit) (operations : List Operation) :
    audit.Changes (audit.after operations) := by
  induction operations generalizing audit with
  | nil => exact .refl
  | cons operation rest ih => exact (operation.changes_perform audit).trans (ih _)

theorem Audit.after_append (audit : Audit) (first second : List Operation) :
    audit.after (first ++ second) = (audit.after first).after second :=
  List.foldl_append

end MarkupAudit
