/-
# Inspectors

The part of a validation run that knows the rules. An inspector is asked about every element
while it is visited, and once about the document as a whole. It sees the context and the audit
so far and keeps a state of its own between the questions. It answers with the violations that
are to be appended, in order, and possibly with a failure that ends the run after that.
-/

import MarkupAudit.Audit.Basic

namespace MarkupAudit

/-- What an inspector answers. -/
structure Answer (σ : Type) where
  /-- What the inspector remembers from now on. -/
  state : σ
  /-- What it found, in the order of discovery. -/
  violations : List Violation
  /-- Why it could not go on, if it could not. -/
  failure : Option Failure

/-- Rules, as the questions that a run puts to them. -/
structure Inspector (σ : Type) where
  /-- Inspect one element: its tag name and its attributes. -/
  inspectTag : Context → String → AttributeSet → Audit → σ → Answer σ
  /-- Inspect the document as a whole, on behalf of a pass with a given name. -/
  inspectDocument : Context → String → Audit → σ → Answer σ

namespace Audit

/-- Append violations in turn, up to the first that is not taken. -/
def addAll (audit : Audit) : List Violation → Audit × Option Failure
  | [] => (audit, none)
  | violation :: rest =>
      match audit.add violation with
      | .error failure => (audit, some failure)
      | .ok audit => addAll audit rest

end Audit

/-- A validation run: its context, its audit, and the state of its inspector. -/
structure Run (σ : Type) where
  context : Context
  audit : Audit
  state : σ

namespace Run

/-- Take an answer: remember the inspector's new state and append what it found. A violation
that is not taken ends the run before the inspector's own failure does. -/
def take {σ : Type} (run : Run σ) (answer : Answer σ) : Run σ × Option Failure :=
  match run.audit.addAll answer.violations with
  | (audit, some failure) => (⟨run.context, audit, answer.state⟩, some failure)
  | (audit, none) => (⟨run.context, audit, answer.state⟩, answer.failure)

/-- Ask about a tag in the context of the run. -/
def askTag {σ : Type} (inspector : Inspector σ) (run : Run σ) (tag : String)
    (attributes : AttributeSet) : Run σ × Option Failure :=
  run.take (inspector.inspectTag run.context tag attributes run.audit run.state)

/-- Ask about the document, on behalf of a pass with a given name. -/
def askDocument {σ : Type} (inspector : Inspector σ) (run : Run σ) (pass : String) :
    Run σ × Option Failure :=
  run.take (inspector.inspectDocument run.context pass run.audit run.state)

end Run

end MarkupAudit
