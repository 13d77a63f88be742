/-
# The index of a rule set

How the rules of a table are made in one pass, together with an index by which the rule for a tag is
found. For each name the index has a place in the list of rules. Where a name comes again, its later
place is entered instead of the earlier one.
-/

import MarkupAudit.Rules.RuleSet

namespace MarkupAudit

/-- Rules in the order of their table, and a place among them for each name. -/
structure RuleIndex where
  tags : List TagRule
  places : List (String × Nat)
  deriving Repr, DecidableEq

namespace RuleIndex

/-- No rules. -/
def empty : RuleIndex := ⟨[], []⟩

/-- Enter a place for a name, instead of the one that was entered before. -/
def enter (places : List (String × Nat)) (name : String) (place : Nat) : List (String × Nat) :=
  (name, place) :: places.filter (·.1 != name)

/-- One more rule at the end. -/
def push (index : RuleIndex) (rule : TagRule) : RuleIndex :=
  ⟨index.tags ++ [rule], enter index.places rule.definition.name index.tags.length⟩

/-- Make rules from definitions, one after the other, until one is refused. -/
def extend (index : RuleIndex) : List TagDefinition → Except Failure RuleIndex
  | [] => .ok index
  | definition :: rest => do
      let rule ← TagRule.compile definition
      extend (index.push rule) rest

/-- The rules of a table with their index. -/
def ofTable (table : RuleTable) : Except Failure RuleIndex :=
  extend empty table.tags

/-- The rule at the place that is entered for a name. -/
def tag? (index : RuleIndex) (name : String) : Option TagRule := do
  index.tags[← index.places.lookup name]?

end RuleIndex

end MarkupAudit
