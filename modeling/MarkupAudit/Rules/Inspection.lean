/-
# Inspection by rules

The inspector that holds documents to a rule set. An element is checked in a fixed order: its
tag, its place, its attributes one by one, and then what its attributes have in common. A tag
without a rule is reported as such and not checked further. When all elements have been seen,
the document is checked for tags that it lacks. What is found on account of a rule carries the
place where that rule is documented.
-/

import MarkupAudit.Rules.RuleSet
import MarkupAudit.Rules.Tally
import MarkupAudit.Scan.Basic

namespace MarkupAudit

/-- How the parent of an element without one is called. -/
def noParent : String := "#root"

/-- How the names begin of the attributes that every tag may have. -/
def dataStart : String := "data-"

/-- Names as one parameter of a message: in single quotes, with commas, between brackets. -/
def listParam (names : List String) : String :=
  "[" ++ ", ".intercalate (names.map fun name => "'" ++ name ++ "'") ++ "]"

namespace TagRule

/-- A deprecated tag. -/
def deprecationFindings (rule : TagRule) (context : Context) (tag : String) : List Violation :=
  match rule.definition.replacement with
  | none => []
  | some replacement => [(Violation.found context .deprecatedTag [tag, replacement]).asWarning]

/-- A further occurrence of a tag that may occur only once. -/
def uniquenessFindings (rule : TagRule) (context : Context) (tag : String) (occurrences : Nat) :
    List Violation :=
  if rule.definition.unique ∧ 1 < occurrences then
    [Violation.found context .duplicateUniqueTag [tag]]
  else []

/-- A parent other than the one that the tag must have. -/
def parentFindings (rule : TagRule) (context : Context) (tag : String) : List Violation :=
  match rule.definition.mandatoryParent with
  | none => []
  | some expected =>
      let parent := context.parent.getD noParent
      if parent = expected then []
      else [Violation.found context .wrongParentTag [tag, parent, expected]]

/-- The value and the deprecation of an attribute that the tag defines. -/
def knownAttributeFindings (context : Context) (tag : String) (rule : AttributeRule)
    (name value : String) : List Violation :=
  (if rule.allows value then []
    else [Violation.found context .invalidAttrValue [name, tag, value]]) ++
  match rule.definition.replacement with
  | none => []
  | some replacement =>
      [(Violation.found context .deprecatedAttr [name, tag, replacement]).asWarning]

/-- One attribute of an element. -/
def attributeFindings (rules : RuleSet) (rule : TagRule) (context : Context) (tag : String)
    (name value : String) : List Violation :=
  match rule.attribute? name with
  | some attributeRule => knownAttributeFindings context tag attributeRule name value
  | none =>
      if rules.isGlobal name || Category.startsWith dataStart name then []
      else [Violation.found context .disallowedAttr [name, tag]]

/-- Attributes that the element must have and lacks. -/
def missingFindings (rule : TagRule) (context : Context) (tag : String)
    (attributes : AttributeSet) : List Violation :=
  (rule.attributes.filter fun attributeRule =>
    attributeRule.definition.mandatory &&
      !attributes.names.any attributeRule.definition.hasName).map fun attributeRule =>
    Violation.found context .mandatoryAttrMissing [attributeRule.definition.name, tag]

/-- None of the attributes of which the element must have one. -/
def oneOfFindings (rule : TagRule) (context : Context) (tag : String)
    (attributes : AttributeSet) : List Violation :=
  let names := rule.definition.oneOf
  if names.isEmpty || names.any (rule.carries attributes) then []
  else [Violation.found context .mandatoryOneofAttrMissing [tag, listParam names]]

/-- Two of the attributes of which the element may have only one. -/
def exclusiveFindings (rule : TagRule) (context : Context) (tag : String)
    (attributes : AttributeSet) : List Violation :=
  let names := rule.definition.exclusive
  if names.countP (rule.carries attributes) ≤ 1 then []
  else [Violation.found context .mutuallyExclusiveAttrs [tag, listParam names]]

/-- All that is wrong with an element by the rule for its tag. -/
def findings (rules : RuleSet) (rule : TagRule) (context : Context) (tag : String)
    (attributes : AttributeSet) (occurrences : Nat) : List Violation :=
  (rule.deprecationFindings context tag ++
    rule.uniquenessFindings context tag occurrences ++
    rule.parentFindings context tag ++
    attributes.entries.flatMap (fun entry =>
      attributeFindings rules rule context tag entry.1 entry.2) ++
    rule.missingFindings context tag attributes ++
    rule.oneOfFindings context tag attributes ++
    rule.exclusiveFindings context tag attributes).map
      (·.documentedAt rule.definition.specUrl)

end TagRule

namespace RuleSet

/-- All that is wrong with an element. -/
def tagFindings (rules : RuleSet) (context : Context) (tag : String)
    (attributes : AttributeSet) (occurrences : Nat) : List Violation :=
  match rules.tag? tag with
  | none => [Violation.found context .disallowedTag [tag]]
  | some rule => rule.findings rules context tag attributes occurrences

/-- Tags that every document must have and that have not been seen. -/
def missingTagFindings (rules : RuleSet) (context : Context) (tally : Tally) : List Violation :=
  (rules.tags.filter fun rule =>
    rule.definition.mandatory && tally.count rule.definition.name == 0).map fun rule =>
    (Violation.found context .mandatoryTagMissing [rule.definition.name]).documentedAt
      rule.definition.specUrl

/-- Tags that a tag which has been seen requires and that have not been seen. -/
def requirementFindings (rules : RuleSet) (context : Context) (tally : Tally) :
    List Violation :=
  tally.tags.flatMap fun tag =>
    match rules.tag? tag with
    | none => []
    | some rule =>
        (rule.definition.requires.filter (tally.count · == 0)).map fun missing =>
          (Violation.found context .tagRequiredByMissing [missing, tag]).documentedAt
            rule.definition.specUrl

/-- The inspector for a rule set. It keeps a tally of the tags that it was asked about, and it
refuses to check an element outside the local phase. -/
def inspector (rules : RuleSet) : Inspector Tally where
  inspectTag context tag attributes _ tally :=
    if context.phase = .local then
      let tally := tally.record tag
      ⟨tally, rules.tagFindings context tag attributes (tally.count tag), none⟩
    else
      ⟨tally, [], some (.engine tag "tag validation requested outside the local phase")⟩
  inspectDocument context _ _ tally :=
    ⟨tally, rules.missingTagFindings context tally ++ rules.requirementFindings context tally,
      none⟩

end RuleSet

/-- Validate a document by a rule set. -/
def RuleSet.validate (rules : RuleSet) (document : Document) : Except Failure Audit :=
  (MarkupAudit.validate rules.inspector Tally.empty document).1

end MarkupAudit
