/-
# Documents

A document is a forest of elements in an arena. An element is addressed by the handle it gets
when it is added, which is its place in the arena, and it knows its parent and its children by
their handles. Tag names are stored trimmed and in lower case. The editing operations refuse a
blank name and a handle that the document does not have, and then change nothing.

The walk over a document gives every element in document order: a parent before its children,
siblings in their order. It keeps the handles that are still to be visited on a stack. Each visit
takes one handle from the stack and puts the children of its element in front of the others, so an
element is visited once, and a walk has at most as many visits as the arena has elements.
-/

import MarkupAudit.Document.Attributes
import MarkupAudit.Failure
import MarkupAudit.Text.Basic
import MarkupAudit.Text.Lowercase

namespace MarkupAudit

/-- One element of a document. -/
structure Element where
  id : ElementId
  /-- The tag name, trimmed and in lower case. -/
  name : String
  attributes : AttributeSet
  /-- The line it was read from, as far as that is known. -/
  line : Nat
  parent : Option ElementId
  children : List ElementId
  deriving Repr, DecidableEq, Inhabited

/-- An arena of elements, and the handles of those without a parent. -/
structure Document where
  elements : Array Element
  roots : List ElementId
  deriving Repr, DecidableEq, Inhabited

namespace Document

/-- The document without elements. -/
def empty : Document := ⟨#[], []⟩

/-- The number of elements. -/
def size (document : Document) : Nat := document.elements.size

/-- The element with a given handle. -/
def get? (document : Document) (id : ElementId) : Option Element :=
  document.elements[id.index]?

/-- Put a new element at the end of the arena, without entering it among roots or children. -/
def push (document : Document) (name : String) (line : Nat) (parent : Option ElementId) :
    Except Failure (Document × ElementId) :=
  let trimmed := Text.trim name
  if trimmed.isEmpty then .error (.blankName line)
  else
    let id : ElementId := ⟨document.size⟩
    let element : Element :=
      ⟨id, Text.lowercase trimmed, AttributeSet.empty, line, parent, []⟩
    .ok (⟨document.elements.push element, document.roots⟩, id)

/-- Add an element without a parent, after all others. -/
def addRoot (document : Document) (name : String) (line : Nat) :
    Except Failure (Document × ElementId) := do
  let (document, id) ← document.push name line none
  .ok (⟨document.elements, document.roots ++ [id]⟩, id)

/-- Change the element with a given handle, if there is one. -/
def modify (document : Document) (id : ElementId) (change : Element → Element) : Document :=
  ⟨document.elements.modify id.index change, document.roots⟩

/-- Add an element as the last child of another one. -/
def appendChild (document : Document) (parent : ElementId) (name : String) (line : Nat) :
    Except Failure (Document × ElementId) :=
  if document.size ≤ parent.index then .error (.unknownElement parent)
  else do
    let (document, id) ← document.push name line (some parent)
    .ok (document.modify parent fun element =>
      { element with children := element.children ++ [id] }, id)

/-- Give an attribute of an element a value. -/
def setAttribute (document : Document) (id : ElementId) (name value : String) :
    Except Failure Document :=
  if document.size ≤ id.index then .error (.unknownElement id)
  else .ok (document.modify id fun element =>
    { element with attributes := element.attributes.set name value })

/-! ## The walk -/

/-- Visit the handles on a stack and all that is below them, in at most `visits` visits. A handle
without an element ends the walk. -/
def walkFrom (document : Document) : Nat → List ElementId → List Element
  | 0, _ => []
  | _ + 1, [] => []
  | visits + 1, id :: stack =>
      match document.get? id with
      | none => []
      | some element => element :: walkFrom document visits (element.children ++ stack)

/-- The elements in document order. -/
def walk (document : Document) : List Element :=
  document.walkFrom document.size document.roots

end Document

end MarkupAudit
