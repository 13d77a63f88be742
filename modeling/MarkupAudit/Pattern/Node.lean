/-
# Patterns

The structure of a value pattern after reading: what it matches, with all settings resolved into
the sets of characters and the conditions that they stand for. Whether a repetition is greedy
and whether a group captures makes no difference to what is matched, so neither is kept.
-/

import MarkupAudit.Text.CodeSet

namespace MarkupAudit.Pattern

open MarkupAudit.Text

/-- A condition on the characters around a place in a text. -/
inductive Anchor where
  /-- The start of the text. -/
  | textStart
  /-- The end of the text. -/
  | textEnd
  /-- The start of a line; with `crlf`, a carriage return ends a line too. -/
  | lineStart (crlf : Bool)
  /-- The end of a line; with `crlf`, a carriage return ends a line too. -/
  | lineEnd (crlf : Bool)
  /-- A word begins or ends here. The set holds the characters that make up words. -/
  | wordEdge (word : CodeSet)
  /-- No word begins or ends here. -/
  | noWordEdge (word : CodeSet)
  /-- A word begins here. -/
  | wordStart (word : CodeSet)
  /-- A word ends here. -/
  | wordEnd (word : CodeSet)
  /-- No character of a word stands before this place. -/
  | wordStartHalf (word : CodeSet)
  /-- No character of a word stands after this place. -/
  | wordEndHalf (word : CodeSet)
  deriving Repr, DecidableEq

/-- What a pattern matches. -/
inductive Node where
  /-- The empty text. -/
  | empty
  /-- One character of a set. -/
  | one (set : CodeSet)
  /-- The empty text, at a place that satisfies a condition. -/
  | anchor (condition : Anchor)
  /-- One after the other. -/
  | seq (first second : Node)
  /-- Either of two. -/
  | alt (left right : Node)
  /-- Several times in a row: at least and, unless there is no limit, at most so many times. -/
  | times (least : Nat) (most : Option Nat) (body : Node)
  deriving Repr, DecidableEq

end MarkupAudit.Pattern
