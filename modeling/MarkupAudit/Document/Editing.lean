/-
# Editing in place

A document that is edited by one call after another, as it looks to the one who holds it. A call
is a sequence of changes to the document at hand. A call that fails gives no result, but what it
has changed before it failed stays changed.
-/

import MarkupAudit.Document.Basic

namespace MarkupAudit

/-- A sequence of changes to a document. A failure ends it and keeps the changes up to there. -/
abbrev Editing := EStateM Failure Document

/-- A call of an editing operation. -/
inductive Edit where
  | addRoot (name : String) (line : Nat)
  | appendChild (parent : ElementId) (name : String) (line : Nat)
  | setAttribute (id : ElementId) (name value : String)
  deriving Repr, DecidableEq, Inhabited

namespace Editing

/-- Go on only if there is an element with a given handle. -/
def require (id : ElementId) : Editing Unit := do
  if ((← get).get? id).isNone then throw (.unknownElement id)

/-- Put a new element at the end of the arena, without entering it among roots or children. -/
def push (name : String) (line : Nat) (parent : Option ElementId) : Editing ElementId := do
  let trimmed := Text.trim name
  if trimmed.isEmpty then throw (.blankName line)
  let id : ElementId := ⟨(← get).size⟩
  modify fun document => { document with
    elements := document.elements.push
      ⟨id, Text.lowercase trimmed, AttributeSet.empty, line, parent, []⟩ }
  return id

end Editing

namespace Edit

/-- Make a call. It gives the handle of the element that it has added, if it adds one. -/
def perform : Edit → Editing (Option ElementId)
  | addRoot name line => do
      let id ← Editing.push name line none
      modify fun document => { document with roots := document.roots ++ [id] }
      return some id
  | appendChild parent name line => do
      Editing.require parent
      let id ← Editing.push name line (some parent)
      modify fun document => document.modify parent fun element =>
        { element with children := element.children ++ [id] }
      return some id
  | setAttribute id name value => do
      Editing.require id
      modify fun document => document.modify id fun element =>
        { element with attributes := element.attributes.set name value }
      return none

/-- Make calls in turn, whatever comes of each. The handles are those of the elements that have
been added. -/
def performAll : List Edit → Document → List ElementId × Document
  | [], document => ([], document)
  | edit :: rest, document =>
      match edit.perform document with
      | .ok id next => (id.toList ++ (performAll rest next).1, (performAll rest next).2)
      | .error _ next => performAll rest next

end Edit

end MarkupAudit
