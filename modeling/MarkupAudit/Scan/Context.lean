/-
# The context of a validation run

What a rule engine can see of the run that calls it: which element is being visited, what its
parent is called, and how many elements have been visited so far. A run is in its local phase
from the first element on, and in its global phase before the first and after the last one. The
memory of the last element survives into the global phase; it is the phase that tells whether
it counts.
-/

import MarkupAudit.Document.Basic

namespace MarkupAudit

/-- What is being checked: one element, or the document as a whole. -/
inductive Phase where
  | local
  | global
  deriving Repr, DecidableEq, Inhabited

/-- The written name of a phase. -/
def Phase.name : Phase → String
  | .local => "LOCAL"
  | .global => "GLOBAL"

/-- The state of a validation run that a rule engine sees. -/
structure Context where
  element : Option ElementId
  tag : Option String
  line : Nat
  /-- The tag name of the parent of the element. -/
  parent : Option String
  phase : Phase
  tagsProcessed : Nat
  deriving Repr, DecidableEq, Inhabited

/-- The state before the first element. -/
def Context.start : Context := ⟨none, none, 0, none, .global, 0⟩

namespace Context

/-- Turn to an element of a document. -/
def visit (context : Context) (document : Document) (element : Element) : Context where
  element := some element.id
  tag := some element.name
  line := element.line
  parent := element.parent.bind fun id => (document.get? id).map (·.name)
  phase := .local
  tagsProcessed := context.tagsProcessed + 1

/-- Turn to the document as a whole, after a given number of elements. -/
def finish (context : Context) (count : Nat) : Context :=
  { context with phase := .global, tagsProcessed := count }

end Context

end MarkupAudit
