/-
# Rule sets

A rule table made ready for use: the names of its tags in lower case, as documents have them,
and its patterns read. The first pattern that is refused, in the order of the table, is
reported. A tag that is defined more than once has the rule that comes last.
-/

import MarkupAudit.Document.Attributes
import MarkupAudit.Pattern.Basic
import MarkupAudit.Rules.Definition
import MarkupAudit.Text.Lowercase

namespace MarkupAudit

/-- The rule for an attribute of a tag. -/
structure AttributeRule where
  definition : AttributeDefinition
  pattern : Option Pattern
  deriving Repr, DecidableEq

/-- The rule for a tag. -/
structure TagRule where
  definition : TagDefinition
  attributes : List AttributeRule
  deriving Repr, DecidableEq

/-- The rules of a table. -/
structure RuleSet where
  name : String
  version : Option String
  globalAttributes : List String
  /-- The rules in the order of the table. -/
  tags : List TagRule
  deriving Repr, DecidableEq

namespace AttributeRule

/-- Read the pattern of an attribute of a tag. -/
def compile (tag : String) (definition : AttributeDefinition) : Except Failure AttributeRule :=
  match definition.valuePattern with
  | none => .ok ⟨definition, none⟩
  | some text =>
      match Pattern.compile (Pattern.anchored text) with
      | some pattern => .ok ⟨definition, some pattern⟩
      | none => .error (.pattern tag definition.name)

/-- The rule allows a value. -/
def allows (rule : AttributeRule) (value : String) : Bool :=
  rule.pattern.all (·.accepts value)

end AttributeRule

namespace TagRule

/-- Make the rule of a tag from its definition. -/
def compile (definition : TagDefinition) : Except Failure TagRule := do
  let definition := { definition with name := Text.lowercase definition.name }
  let attributes ← definition.attributes.mapM (AttributeRule.compile definition.name)
  .ok ⟨definition, attributes⟩

/-- The first attribute that may be given under a name. -/
def attribute? (rule : TagRule) (name : String) : Option AttributeRule :=
  rule.attributes.find? (·.definition.hasName name)

/-- An element with these attributes carries the one named: some attribute has that name, or is
one whose proper name it is. -/
def carries (rule : TagRule) (attributes : AttributeSet) (name : String) : Bool :=
  attributes.names.any fun given =>
    given == name || (rule.attribute? given).any (·.definition.name == name)

end TagRule

namespace RuleSet

/-- Make the rules of a table. -/
def compile (table : RuleTable) : Except Failure RuleSet := do
  let tags ← table.tags.mapM TagRule.compile
  .ok ⟨table.name, table.version, table.globalAttributes, tags⟩

/-- The rules of a table given by its text. -/
def ofText (text : String) : Except Failure RuleSet := do
  compile (← RuleTable.ofText text)

/-- The rule for a tag: the last one with its name. -/
def tag? (rules : RuleSet) (name : String) : Option TagRule :=
  rules.tags.reverse.find? (·.definition.name == name)

/-- Every tag may have the attribute. -/
def isGlobal (rules : RuleSet) (name : String) : Bool :=
  rules.globalAttributes.contains name

end RuleSet

end MarkupAudit
