/-
# Outlines

The tree form in which a parser hands over a document, before names are normalized and checked.
A node is written in JSON as an object with the members `name`, `line`, `attributes` and
`children`, or as an array of these four in this order. Only the name is required; in an array
only the last ones can be missing. Members with other keys are passed over, but a member that
counts may be written only once. The top of a text is one node or a list of nodes.
-/

import MarkupAudit.Json.Basic

namespace MarkupAudit

/-- A node of a document as it was handed over. -/
inductive Outline where
  | node (name : String) (line : Nat) (attributes : List (String × String))
      (children : List Outline)
  deriving Repr, Inhabited

namespace Outline

/-- The tag name as it was handed over. -/
def name : Outline → String
  | node name _ _ _ => name

/-- The line of the node. -/
def line : Outline → Nat
  | node _ line _ _ => line

/-- A tag name is a string. -/
def nameOf? : Json → Option String
  | .string text => some text
  | _ => none

/-- A line is a whole number below 2^64. -/
def lineOf? : Json → Option Nat
  | .number numeral => numeral.natural?
  | _ => none

/-- An attribute is an array of two strings. -/
def attributeOf? : Json → Option (String × String)
  | .array [.string name, .string value] => some (name, value)
  | _ => none

/-- Attributes are an array of them. -/
def attributesOf? : Json → Option (List (String × String))
  | .array items => items.mapM attributeOf?
  | _ => none

/-- The members of a node that count. -/
def knownKeys : List String := ["name", "line", "attributes", "children"]

/-- No member that counts is written twice. -/
def hasUniqueKeys (members : List (String × Json)) : Bool :=
  knownKeys.all fun key => (members.filter (·.1 == key)).length ≤ 1

/-- The member with a given key, read by a given reader; a default if it is missing. -/
def member? {α : Type} (members : List (String × Json)) (key : String) (default : Option α)
    (read : Json → Option α) : Option α :=
  match members.lookup key with
  | none => default
  | some value => read value

mutual

/-- Read one node. -/
def ofJson? : Json → Option Outline
  | .object members => do
      guard (hasUniqueKeys members)
      let name ← member? members "name" none nameOf?
      let line ← member? members "line" (some 0) lineOf?
      let attributes ← member? members "attributes" (some []) attributesOf?
      let children ← childrenIn? members
      some (node name line attributes children)
  | .array [name] => do
      some (node (← nameOf? name) 0 [] [])
  | .array [name, line] => do
      some (node (← nameOf? name) (← lineOf? line) [] [])
  | .array [name, line, attributes] => do
      some (node (← nameOf? name) (← lineOf? line) (← attributesOf? attributes) [])
  | .array [name, line, attributes, children] => do
      let name ← nameOf? name
      let line ← lineOf? line
      let attributes ← attributesOf? attributes
      let children ← listOf? children
      some (node name line attributes children)
  | _ => none

/-- Read an array of nodes. -/
def listOf? : Json → Option (List Outline)
  | .array items => itemsOf? items
  | _ => none

/-- Read every item as a node. -/
def itemsOf? : List Json → Option (List Outline)
  | [] => some []
  | item :: items => do
      let outline ← ofJson? item
      let outlines ← itemsOf? items
      some (outline :: outlines)

/-- Read the first member for children; none is a node without children. -/
def childrenIn? : List (String × Json) → Option (List Outline)
  | [] => some []
  | (key, value) :: members => if key = "children" then listOf? value else childrenIn? members

end

/-- Read the top of a text: one node, else a list of nodes. -/
def forestOf? (value : Json) : Option (List Outline) :=
  match ofJson? value with
  | some outline => some [outline]
  | none => listOf? value

end Outline

end MarkupAudit
