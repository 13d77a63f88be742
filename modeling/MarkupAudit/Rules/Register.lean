/-
# Registers

What an inspector remembers of the tags, as two records that are kept side by side: how often each
tag has been seen, and the tags in the order in which they were first seen. A tag is entered in the
list when its count becomes one, and at no other time. The document checks use both: the list says
whose requirements are asked, and in which order, and the counts say which of them are met.
-/

import MarkupAudit.Rules.Index
import MarkupAudit.Rules.Inspection

namespace MarkupAudit

/-- The tags that have been seen, by their counts and in the order of first sight. -/
structure Register where
  counts : List (String × Nat)
  order : List String
  deriving Repr, DecidableEq

namespace Register

/-- Nothing has been seen. -/
def empty : Register := ⟨[], []⟩

/-- How often a tag has been seen. -/
def count (register : Register) (tag : String) : Nat :=
  (register.counts.lookup tag).getD 0

/-- See a tag. -/
def record (register : Register) (tag : String) : Register :=
  let count := register.count tag + 1
  { counts := RuleIndex.enter register.counts tag count
    order := if count = 1 then register.order ++ [tag] else register.order }

end Register

namespace RuleSet

/-- What is reported of a document by the counts of the tags and a list of those that have been
seen. -/
def lacksBy (rules : RuleSet) (context : Context) (count : String → Nat) (seen : List String) :
    List Violation :=
  ((rules.tags.filter fun rule =>
      rule.definition.mandatory && count rule.definition.name == 0).map fun rule =>
    (Violation.found context .mandatoryTagMissing [rule.definition.name]).documentedAt
      rule.definition.specUrl) ++
  seen.flatMap fun tag =>
    match rules.tag? tag with
    | none => []
    | some rule =>
        (rule.definition.requires.filter (count · == 0)).map fun missing =>
          (Violation.found context .tagRequiredByMissing [missing, tag]).documentedAt
            rule.definition.specUrl

/-- The inspector for a rule set, with a register for its memory. -/
def registrar (rules : RuleSet) : Inspector Register where
  inspectTag context tag attributes _ register :=
    if context.phase = .local then
      let register := register.record tag
      ⟨register, rules.tagFindings context tag attributes (register.count tag), none⟩
    else
      ⟨register, [], some (.engine tag "tag validation requested outside the local phase")⟩
  inspectDocument context _ _ register :=
    ⟨register, rules.lacksBy context register.count register.order, none⟩

end RuleSet

end MarkupAudit
