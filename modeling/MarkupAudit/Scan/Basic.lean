/-
# Scanning a document

One pass over a document. Every element is visited in document order: the context turns to it,
and the inspector is asked about it. If none of these questions fails, the number of elements
is recorded, the context turns to the document as a whole, and the inspector is asked once more.
A failure ends the scan; what was found and counted up to then stays.
-/

import MarkupAudit.Document.Basic
import MarkupAudit.Scan.Inspector

namespace MarkupAudit

/-- The name under which the scan presents itself to an inspector. -/
def scanName : String := "standard-scan"

namespace Run

/-- Visit elements in turn, up to the first failure. -/
def visitAll {σ : Type} (inspector : Inspector σ) (document : Document) :
    List Element → Run σ → Run σ × Option Failure
  | [], run => (run, none)
  | element :: rest, run =>
      let run := { run with context := run.context.visit document element }
      match run.askTag inspector element.name element.attributes with
      | (run, some failure) => (run, some failure)
      | (run, none) => visitAll inspector document rest run

/-- Turn to the document as a whole after a given number of elements. -/
def finish {σ : Type} (run : Run σ) (count : Nat) : Run σ :=
  { run with
    context := run.context.finish count
    audit := { run.audit with tagsProcessed := count } }

/-- Scan a document. -/
def scan {σ : Type} (inspector : Inspector σ) (document : Document) (run : Run σ) :
    Run σ × Option Failure :=
  let elements := document.walk
  match run.visitAll inspector document elements with
  | (run, some failure) => (run, some failure)
  | (run, none) => (run.finish elements.length).askDocument inspector scanName

end Run

/-- Validate a document: scan it with a new context and a new audit, and assign the violations
their categories. The audit stays open. The inspector goes on with the state that is given back
beside the audit, also after a failure. -/
def validate {σ : Type} (inspector : Inspector σ) (state : σ) (document : Document) :
    Except Failure Audit × σ :=
  match Run.scan inspector document ⟨Context.start, Audit.empty, state⟩ with
  | (run, some failure) => (.error failure, run.state)
  | (run, none) => (.ok run.audit.annotate, run.state)

end MarkupAudit
