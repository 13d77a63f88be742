/-
# Loading a document

A document is loaded from JSON text. The text is read as a value first, the value as a forest of
outlines next, and only then is it checked that nothing but space follows. The outlines are then
added depth first: the name of a node is checked when it is added, its attributes after that,
and its children one after the other last, so the first offence in document order is reported.
-/

import MarkupAudit.Document.Basic
import MarkupAudit.Document.Outline
import MarkupAudit.Json.Reader

namespace MarkupAudit.Document

/-- Give an element attributes in turn; a name must not come twice. The line is for the report. -/
def addAttributes (document : Document) (id : ElementId) (line : Nat) :
    List (String × String) → Except Failure Document
  | [] => .ok document
  | (name, value) :: rest =>
      if (document.get? id).any (·.attributes.contains name) then
        .error (.repeatedAttribute name line)
      else do
        let document ← document.setAttribute id name value
        addAttributes document id line rest

mutual

/-- Add the attributes and the children of an outline to the element made for it. -/
def fill (document : Document) (id : ElementId) : Outline → Except Failure Document
  | .node _ line attributes children => do
      let document ← document.addAttributes id line attributes
      fillChildren document id children

/-- Add outlines as the last children of an element. -/
def fillChildren (document : Document) (parent : ElementId) :
    List Outline → Except Failure Document
  | [] => .ok document
  | outline :: rest => do
      let (document, id) ← document.appendChild parent outline.name outline.line
      let document ← fill document id outline
      fillChildren document parent rest

end

/-- Add outlines as the last roots of a document. -/
def addRoots (document : Document) : List Outline → Except Failure Document
  | [] => .ok document
  | outline :: rest => do
      let (document, id) ← document.addRoot outline.name outline.line
      let document ← document.fill id outline
      addRoots document rest

/-- The document of a forest of outlines. -/
def ofOutlines (outlines : List Outline) : Except Failure Document :=
  empty.addRoots outlines

/-- Read the outlines that a text describes. -/
def readOutlines (text : String) : Except TreeFault (List Outline) :=
  match Json.read text.toList with
  | .error fault => .error (.text fault)
  | .ok (value, rest) =>
      match Outline.forestOf? value with
      | none => .error .shape
      | some outlines =>
          if (Json.skipSpace rest).isEmpty then .ok outlines else .error (.text .malformed)

/-- Load a document from its text. -/
def load (text : String) : Except Failure Document :=
  match readOutlines text with
  | .error fault => .error (.tree fault)
  | .ok outlines => ofOutlines outlines

end MarkupAudit.Document
