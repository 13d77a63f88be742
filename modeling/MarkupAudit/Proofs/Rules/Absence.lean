/-
# Tags that a document lacks

What a validation reports of a document as a whole, said of the rules and of the document alone:
the mandatory tags that no element has, in the order of the table, and then, for every tag that
occurs, those that its rule requires and no element has. A tag that occurs more than once has its
turn where it occurs first, and only there.

The inspector knows none of this by looking at the document. It keeps a tally while the elements are
visited; that its tags are those of the elements without repetitions, in the order of their first
occurrence, is the one fact about it that is needed here.
-/

import MarkupAudit.Proofs.Rules.Placement

namespace MarkupAudit

/-- What is reported of a document on account of a rule. -/
def TagRule.absence (rule : TagRule) (code : Code) (params : List String) : Violation :=
  { Violation.ofDocument code params with
    category := some (Category.of code params)
    specUrl := rule.definition.specUrl }

theorem TagRule.categorized_found (rule : TagRule) (code : Code) (params : List String) :
    ((Violation.found Context.start code params).documentedAt
      rule.definition.specUrl).categorized = rule.absence code params := by
  unfold absence
  cases rule.definition.specUrl <;> rfl

namespace RuleSet

variable (rules : RuleSet) {document : Document}

/-- The mandatory tags that a document lacks, in the order of the table. -/
def missingTags (document : Document) : List Violation :=
  (rules.tags.filter fun rule =>
    rule.definition.mandatory && !document.hasTag rule.definition.name).map fun rule =>
      rule.absence .mandatoryTagMissing [rule.definition.name]

/-- The tags that a document lacks although the rule for a given tag requires them, in the order of
the rule. -/
def missingRequirements (document : Document) (tag : String) : List Violation :=
  (rules.tag? tag).toList.flatMap fun rule =>
    (rule.definition.requires.filter fun name => !document.hasTag name).map fun name =>
      rule.absence .tagRequiredByMissing [name, tag]

theorem map_categorized_missingTagFindings_walk (wellFormed : document.WellFormed) :
    (rules.missingTagFindings Context.start
        (Tally.ofNames (document.walk.map (·.name)))).map Violation.categorized =
      rules.missingTags document := by
  simp only [missingTagFindings, missingTags, List.map_map, Tally.count_walk_eq_zero wellFormed]
  exact List.map_congr_left fun rule _ => rule.categorized_found _ _

theorem map_categorized_requirementFindings_walk (wellFormed : document.WellFormed) :
    (rules.requirementFindings Context.start
        (Tally.ofNames (document.walk.map (·.name)))).map Violation.categorized =
      (document.walk.map (·.name)).eraseDups.flatMap (rules.missingRequirements document) := by
  rw [requirementFindings, Tally.tags_ofNames, List.map_flatMap]
  refine List.flatMap_congr fun tag _ => ?_
  unfold missingRequirements
  cases rules.tag? tag with
  | none => rfl
  | some rule =>
      simp only [List.map_map, Tally.count_walk_eq_zero wellFormed, Option.toList_some,
        List.flatMap_singleton]
      exact List.map_congr_left fun name _ => rule.categorized_found _ _

/-- What a validation reports of a document as a whole: the mandatory tags that no element has, and
then, for every tag in the order of first occurrence, the tags that its rule requires and no element
has. -/
theorem validate_lacks (reachable : document.Reachable) :
    ∃ audit elements, rules.validate document = .ok audit ∧
      document.Preorder document.roots elements ∧
      elements.Perm document.elements.toList ∧
      audit.foundOnDocument = rules.missingTags document ++
        (elements.map (·.name)).eraseDups.flatMap (rules.missingRequirements document) := by
  have wellFormed := reachable.wellFormed
  have ordered := wellFormed.preorder_walk
  refine ⟨_, document.walk, rules.validate_eq_scanned document [], ordered,
    wellFormed.perm_of_preorder ordered, ?_⟩
  rw [(rules.consists_scanned document []).foundOnDocument_eq, List.nil_append, documentFindings,
    List.map_append, rules.map_categorized_missingTagFindings_walk wellFormed,
    rules.map_categorized_requirementFindings_walk wellFormed]

/-- Rules for pages with navigation and a main part. -/
def navigated : RuleSet where
  name := "navigated"
  version := none
  globalAttributes := ["lang"]
  tags := [
    ⟨{ TagDefinition.plain "html" with requires := ["nav", "p", "head"] }, []⟩,
    ⟨{ TagDefinition.plain "main" with mandatory := true, specUrl := some "spec#main" }, []⟩,
    ⟨{ TagDefinition.plain "p" with requires := ["nav"], specUrl := some "spec#p" }, []⟩]

/-- The page lacks a main part, and it lacks navigation, which is asked for by its root and once by
its two paragraphs. -/
theorem validate_lacks_navigated :
    Document.page.Reachable ∧ ∃ audit, navigated.validate .page = .ok audit ∧
      audit.foundOnDocument.map (fun violation =>
          (violation.code, violation.params, violation.specUrl)) =
        [(.mandatoryTagMissing, ["main"], some "spec#main"),
          (.tagRequiredByMissing, ["nav", "html"], none),
          (.tagRequiredByMissing, ["head", "html"], none),
          (.tagRequiredByMissing, ["nav", "p"], some "spec#p")] := by
  obtain ⟨audit, elements, validated, ordered, _, found⟩ :=
    navigated.validate_lacks Document.reachable_page
  obtain rfl := ordered.unique Document.reachable_page.wellFormed.preorder_walk
  refine ⟨Document.reachable_page, audit, validated, ?_⟩
  rw [found]
  decide +kernel

end RuleSet

end MarkupAudit
