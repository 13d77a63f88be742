/-
# Failures

What stops an operation altogether. A deviation of a document from its rules is never a failure:
it is a violation, recorded in an audit. A failure is a broken engine, a malformed table or
document, or a misuse of the pipeline. `Failure.message` is the one place that words them.
-/

import MarkupAudit.Json.Reader

namespace MarkupAudit

/-- The handle of an element in its document, given once and never reused. -/
structure ElementId where
  index : Nat
  deriving Repr, DecidableEq, Inhabited

/-- The tables that are written as TOML text. -/
inductive TableKind where
  | rules
  | templates
  deriving Repr, DecidableEq

/-- The name of a kind of table in messages. -/
def TableKind.label : TableKind → String
  | .rules => "rule table"
  | .templates => "message templates"

/-- Why a document text is not a document. -/
inductive TreeFault where
  /-- The text is not JSON. -/
  | text (fault : Json.Fault)
  /-- The text is JSON, but its value is neither a node nor a list of nodes. -/
  | shape
  deriving Repr, DecidableEq

/-- What is wrong with a document text. -/
def TreeFault.label : TreeFault → String
  | .text .unfinished => "unexpected end of the text"
  | .text .malformed => "unexpected character in the text"
  | .shape => "data did not match any variant of untagged enum TreeSpec"

/-- A failure that stops an operation. -/
inductive Failure where
  /-- The rule engine could not evaluate a tag or the document. -/
  | engine (tag : String) (message : String)
  /-- A violation was to be appended after rendering had started. -/
  | closed
  /-- A name that is no violation code. -/
  | unknownCode (name : String)
  /-- A table is not TOML, or has the wrong shape. -/
  | table (kind : TableKind)
  /-- A document text is not a document. -/
  | tree (fault : TreeFault)
  /-- The value pattern of an attribute is no pattern. -/
  | pattern (tag attr : String)
  /-- An element that the document does not have. -/
  | unknownElement (id : ElementId)
  /-- A tag name that is blank. -/
  | blankName (line : Nat)
  /-- An attribute that one element lists twice. -/
  | repeatedAttribute (name : String) (line : Nat)
  deriving Repr, DecidableEq

namespace Failure

/-- The text by which a failure is reported. -/
def message : Failure → String
  | engine tag message => "rule engine failed on <" ++ tag ++ ">: " ++ message
  | closed => "validation result is sealed; rendering has already started"
  | unknownCode name => "unknown validation error code '" ++ name ++ "'"
  | table kind => "failed to parse " ++ kind.label
  | tree fault => "failed to parse document tree: " ++ fault.label
  | pattern tag attr => "invalid value pattern for " ++ tag ++ "[" ++ attr ++ "]"
  | unknownElement id => "element #" ++ toString id.index ++ " does not exist in this document"
  | blankName line => "element on line " ++ toString line ++ " has an empty tag name"
  | repeatedAttribute name line =>
      "attribute '" ++ name ++ "' repeated on the element at line " ++ toString line

end Failure

end MarkupAudit
