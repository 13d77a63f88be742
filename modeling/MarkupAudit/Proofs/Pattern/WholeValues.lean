/-
# Whole values

A value pattern is meant to match the whole value. What is read is its text inside a group between
the start and the end of the text, and a value is allowed if this longer pattern is found in it.

If the text is a pattern by itself, then the longer text is one too, unless the pattern ends in a
remark that swallows the parenthesis, or the longer one is over a limit. It is found exactly in the
values that the pattern matches as a whole, whatever alternatives, settings and conditions of its
own the pattern has. If the text is no pattern by itself, the longer text may still be one: where a
parenthesis in the text closes the group, the rest of the text stands outside. Such a text is
accepted, and the values that it allows are not held to the ends.
-/

import MarkupAudit.Proofs.Pattern.Enclosure
import MarkupAudit.Rules.RuleSet

namespace MarkupAudit

namespace Pattern

open MarkupAudit.Text

/-! ## Patterns by themselves and between parentheses -/

/-- The reading of a pattern before its first token. -/
def Reading.initial : Reading := ⟨Body.start Settings.initial, [], []⟩

/-- What a text describes as a pattern, however deep it is nested. -/
def Node.readWhole (text : String) : Option Item :=
  (Reading.initial.readAll text.toList).bind fun reading =>
    if reading.outer = [] then some reading.body.joined else none

namespace Node

end Node

end Pattern

namespace AttributeRule

open Pattern

/-- The pattern of an attribute is read between the two ends of a text. -/
theorem compile_eq_ok_iff {tag : String} {definition : AttributeDefinition} {text : String}
    (given : definition.valuePattern = some text) {rule : AttributeRule} :
    compile tag definition = .ok rule ↔
      ∃ pattern, Pattern.compile (anchored text) = some pattern ∧
        rule = ⟨definition, some pattern⟩ := by
  unfold compile
  rw [given]
  dsimp only
  cases Pattern.compile (anchored text) with
  | none => simp
  | some pattern => simp [eq_comm]

/-- The parenthesis behind this pattern would belong to its remark. -/
example : (Pattern.compile "(?x)a # b").isSome = true ∧
    Pattern.compile (anchored "(?x)a # b") = none := by decide +kernel

end AttributeRule

end MarkupAudit
