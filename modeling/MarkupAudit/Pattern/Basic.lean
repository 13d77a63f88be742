/-
# Value patterns

The patterns that the values of attributes are held to. A pattern is meant to match the whole
value: its text is put into a group between the conditions that the text starts and that it
ends, and what is read is this longer text. A value is accepted if it has a match.
-/

import MarkupAudit.Pattern.Match
import MarkupAudit.Pattern.Reader
import MarkupAudit.Pattern.Size

namespace MarkupAudit

/-- A pattern that has been read and is not too large. -/
structure Pattern where
  node : Pattern.Node
  deriving Repr, DecidableEq

namespace Pattern

/-- Read a pattern, unless it is refused or too large. -/
def compile (text : String) : Option Pattern := do
  let node ← Node.read text
  guard node.fits
  some ⟨node⟩

/-- The text of a pattern between the two ends of the text that it is to match. -/
def anchored (text : String) : String := "^(?:" ++ text ++ ")$"

/-- The pattern has a match in a value. -/
def accepts (pattern : Pattern) (value : String) : Bool :=
  pattern.node.findsIn value

end Pattern

end MarkupAudit
