/-
# Pattern settings

The settings that a pattern can switch on and off for a part of itself. They decide how the
text of that part is read and which characters its symbols stand for. Without the Unicode
setting a part can only refer to ASCII characters, since a set of single bytes beyond ASCII
would match parts of characters; what would need such a set is refused.
-/

import MarkupAudit.Pattern.Classes
import MarkupAudit.Pattern.Node

namespace MarkupAudit.Pattern

open MarkupAudit.Text

/-- The settings in force at a place in a pattern. -/
structure Settings where
  /-- Letters match in either case. -/
  caseless : Bool
  /-- The start and the end of a line are meant instead of those of the text. -/
  multiLine : Bool
  /-- The dot matches a line feed too. -/
  dotAll : Bool
  /-- A carriage return ends a line too. -/
  crlf : Bool
  /-- Sets of characters are those of Unicode. -/
  unicode : Bool
  /-- Blanks and comments in the pattern do not count. -/
  verbose : Bool
  deriving Repr, DecidableEq

namespace Settings

/-- The settings at the start of a pattern. -/
def initial : Settings := ⟨false, false, false, false, true, false⟩

/-- Switch the setting with a given letter; `U`, which changes which match is preferred, has no
effect on whether there is one. -/
def switch (settings : Settings) (on : Bool) : Char → Option Settings
  | 'i' => some { settings with caseless := on }
  | 'm' => some { settings with multiLine := on }
  | 's' => some { settings with dotAll := on }
  | 'R' => some { settings with crlf := on }
  | 'u' => some { settings with unicode := on }
  | 'x' => some { settings with verbose := on }
  | 'U' => some settings
  | _ => none

/-- Close a set under case, if case does not count. -/
def fold (settings : Settings) (set : CodeSet) : CodeSet :=
  if !settings.caseless then set
  else if settings.unicode then closeCase set
  else closeAsciiCase set

/-- Complement a set if asked to, which without Unicode is refused. -/
def negate (settings : Settings) (negated : Bool) (set : CodeSet) : Option CodeSet :=
  if !negated then some set else if settings.unicode then some set.compl else none

/-- The characters that words are made of. -/
def word (settings : Settings) : CodeSet :=
  if settings.unicode then wordChars else asciiWordChars

/-- The set that a letter after a backslash stands for; a capital stands for the complement. -/
def letterClass (settings : Settings) (letter : Char) : Option CodeSet :=
  match letter with
  | 'd' => some (if settings.unicode then digits else asciiDigits)
  | 's' => some (if settings.unicode then spaces else asciiSpaces)
  | 'w' => some settings.word
  | 'D' => settings.negate true (if settings.unicode then digits else asciiDigits)
  | 'S' => settings.negate true (if settings.unicode then spaces else asciiSpaces)
  | 'W' => settings.negate true settings.word
  | _ => none

/-- The characters that a dot stands for. -/
def dot (settings : Settings) : Option CodeSet :=
  if !settings.unicode then none
  else if settings.dotAll then some CodeSet.all
  else if settings.crlf then some (CodeSet.ofTable ["a d"]).compl
  else some (CodeSet.single 10).compl

/-- The condition that a caret stands for. -/
def caret (settings : Settings) : Anchor :=
  if settings.multiLine then .lineStart settings.crlf else .textStart

/-- The condition that a dollar sign stands for. -/
def dollar (settings : Settings) : Anchor :=
  if settings.multiLine then .lineEnd settings.crlf else .textEnd

/-- What a character stands for by itself. Without Unicode, a single byte beyond ASCII is
refused. -/
def literal (settings : Settings) (c : Char) (asByte : Bool) : Option Node :=
  if !settings.unicode && asByte && 0x80 ≤ c.toNat then none
  else some (.one (settings.fold (CodeSet.single c.toNat)))

/-- A character as a member of a set. -/
def member (settings : Settings) (c : Char) : Option CodeSet :=
  if !settings.unicode && 0x80 ≤ c.toNat then none else some (CodeSet.single c.toNat)

end Settings

end MarkupAudit.Pattern
