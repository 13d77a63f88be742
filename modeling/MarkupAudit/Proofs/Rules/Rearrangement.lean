/-
# Order does not matter to what is found

Validations of two documents that differ in order only find the same, apart from where they find
it. Two things depend on the order of the visits. Which occurrence of a unique tag is the first
one depends on it, but not how many there are besides; and the tags that require others are asked
in the order in which they were first seen, but every one of them is asked once.

So the findings on an element are split: those on account of other elements of its name, and the
rest, which is the same wherever the element is visited.
-/

import MarkupAudit.Proofs.Document.Rearrangement
import MarkupAudit.Proofs.Rules.Origin
import MarkupAudit.Rules.Builtin

namespace MarkupAudit

/-! ## Violations without a place -/

/-- While an element with a given name is visited, below one with a given name, somewhere. -/
def Context.onTag (name : String) (parent : Option String) : Context :=
  ⟨none, some name, 0, parent, .local, 0⟩

namespace Violation

/-- The same violation without the element and the line that it concerns. -/
def withoutPlace (violation : Violation) : Violation :=
  { violation with line := 0, element := none }

/-- Without its place, a violation on an element is stamped with the name of that alone. -/
theorem withoutPlace_stamped_visit (document : Document) (element : Element)
    (parent : Option String) (violation : Violation) :
    (violation.stamped (Context.start.visit document element)).withoutPlace =
      violation.stamped (Context.onTag element.name parent) := rfl

theorem map_withoutPlace_categorized (violations : List Violation) :
    (violations.map categorized).map withoutPlace =
      (violations.map withoutPlace).map categorized := by
  rw [List.map_map, List.map_map]
  rfl

end Violation

open Violation (withoutPlace AllWarnings)

/-! ## Attributes in another order -/

section Attributes

variable {attributes others : AttributeSet} (same : attributes.entries.Perm others.entries)

include same

theorem AttributeSet.any_names_perm (condition : String → Bool) :
    attributes.names.any condition = others.names.any condition := by
  have names : attributes.names.Perm others.names := same.map _
  rw [Bool.eq_iff_iff]
  simp only [List.any_eq_true, names.mem_iff]

/-- What is found on an element does not depend on the order of its attributes, but for the order
in which it is found. -/
theorem TagRule.findings_perm (rules : RuleSet) (rule : TagRule) (context : Context)
    (tag : String) (occurrences : Nat) :
    (rule.findings rules context tag attributes occurrences).Perm
      (rule.findings rules context tag others occurrences) := by
  have carried : rule.carries attributes = rule.carries others := by
    funext name
    exact AttributeSet.any_names_perm same _
  have missing : rule.missingFindings context tag attributes =
      rule.missingFindings context tag others := by
    simp only [missingFindings, AttributeSet.any_names_perm same]
  have oneOf : rule.oneOfFindings context tag attributes =
      rule.oneOfFindings context tag others := by
    simp only [oneOfFindings, carried]
  have exclusive : rule.exclusiveFindings context tag attributes =
      rule.exclusiveFindings context tag others := by
    simp only [exclusiveFindings, carried]
  rw [findings, findings, missing, oneOf, exclusive]
  refine List.Perm.map _ (.append_right _ (.append_right _ (.append_right _ (.append_left _ ?_))))
  exact same.flatMap_right _

end Attributes

/-! ## Visits in another order -/

namespace RuleSet

variable (rules : RuleSet) (document : Document)

/-- What is found on an element, without its place, depends on its name, on that of its parent
and on its attributes, and on how many of its name there have been. -/
theorem map_withoutPlace_elementFindings (element : Element) (occurrences : Nat) :
    (rules.elementFindings document element occurrences).map withoutPlace =
      rules.tagFindings
        (Context.onTag element.name (Context.start.visit document element).parent)
        element.name element.attributes occurrences := by
  let bare := Context.onTag element.name (Context.start.visit document element).parent
  have sameParent : bare.parent = (Context.start.visit document element).parent := rfl
  have unplaced : withoutPlace ∘ Violation.stamped (Context.start.visit document element) =
      Violation.stamped bare := by
    funext violation
    exact Violation.withoutPlace_stamped_visit document element _ violation
  rw [elementFindings, ← rules.map_stamped_tagFindings sameParent, List.map_map, unplaced]
  exact rules.map_stamped_tagFindings rfl _ _ _

/-- What is found on an element on account of others with its name. -/
def repeatFindings (name : String) (occurrences : Nat) : List Violation :=
  match rules.tag? name with
  | none => []
  | some rule =>
      (rule.uniquenessFindings (Context.onTag name none) name occurrences).map
        (·.documentedAt rule.definition.specUrl)

/-- The rest is found on it as if it were the first of its name. -/
theorem tagFindings_perm_split (name : String) (parent : Option String)
    (attributes : AttributeSet) (occurrences : Nat) :
    (rules.tagFindings (Context.onTag name parent) name attributes occurrences).Perm
      (rules.repeatFindings name occurrences ++
        rules.tagFindings (Context.onTag name parent) name attributes 1) := by
  unfold tagFindings repeatFindings
  cases rules.tag? name with
  | none => exact .refl _
  | some rule =>
      have first : rule.uniquenessFindings (Context.onTag name parent) name 1 = [] := by
        simp [TagRule.uniquenessFindings]
      have anywhere : rule.uniquenessFindings (Context.onTag name none) name occurrences =
          rule.uniquenessFindings (Context.onTag name parent) name occurrences := rfl
      dsimp only
      rw [TagRule.findings, TagRule.findings, first, anywhere, List.append_nil,
        ← List.map_append]
      refine List.Perm.map _ ?_
      simp only [List.append_assoc]
      exact List.perm_append_comm_assoc _ _ _

/-- What is found on elements with given names, visited after others, on account of each other. -/
def repeatedFindings : List String → List String → List Violation
  | _, [] => []
  | before, name :: rest =>
      rules.repeatFindings name (before.count name + 1) ++
        repeatedFindings (before ++ [name]) rest

theorem repeatedFindings_congr {before earlier : List String} (same : before.Perm earlier)
    (names : List String) :
    rules.repeatedFindings before names = rules.repeatedFindings earlier names := by
  induction names generalizing before earlier with
  | nil => rfl
  | cons name rest ih =>
      rw [repeatedFindings, repeatedFindings, same.count_eq, ih (same.append_right [name])]

/-- As often as a name is repeated, in whatever order, so often is that found. -/
theorem repeatedFindings_perm {names others : List String} (same : names.Perm others)
    {before earlier : List String} (sameBefore : before.Perm earlier) :
    (rules.repeatedFindings before names).Perm (rules.repeatedFindings earlier others) := by
  induction same generalizing before earlier with
  | nil => exact .refl _
  | cons name _ ih =>
      rw [repeatedFindings, repeatedFindings, sameBefore.count_eq]
      exact (ih (sameBefore.append_right [name])).append_left _
  | swap second first rest =>
      by_cases equal : first = second
      · rw [equal, rules.repeatedFindings_congr sameBefore]
      · have countFirst : (earlier ++ [second]).count first = before.count first := by
          rw [List.count_append, List.count_singleton, beq_false_of_ne (Ne.symm equal),
            sameBefore.count_eq]
          rfl
        have countSecond : (before ++ [first]).count second = earlier.count second := by
          rw [List.count_append, List.count_singleton, beq_false_of_ne equal,
            sameBefore.count_eq]
          rfl
        have both : (before ++ [first] ++ [second]).Perm (earlier ++ [second] ++ [first]) := by
          rw [List.append_assoc, List.append_assoc]
          exact sameBefore.append (.swap second first [])
        simp only [repeatedFindings]
        rw [countFirst, countSecond, rules.repeatedFindings_congr both]
        exact List.perm_append_comm_assoc _ _ _
  | trans _ _ ih ihNext => exact (ih sameBefore).trans (ihNext (.refl _))

/-- What the visits find is what names find on account of each other, and what every element
finds on its own account. -/
theorem map_withoutPlace_visitFindings (before : List String) (elements : List Element) :
    ((rules.visitFindings document before elements).map withoutPlace).Perm
      (rules.repeatedFindings before (elements.map (·.name)) ++
        elements.flatMap fun element =>
          (rules.elementFindings document element 1).map withoutPlace) := by
  induction elements generalizing before with
  | nil => exact .refl _
  | cons element rest ih =>
      rw [visitFindings, List.map_append, List.map_cons, repeatedFindings, List.flatMap_cons]
      have here := rules.tagFindings_perm_split element.name
        (Context.start.visit document element).parent element.attributes
        (before.count element.name + 1)
      rw [← map_withoutPlace_elementFindings, ← map_withoutPlace_elementFindings] at here
      refine (here.append (ih (before ++ [element.name]))).trans ?_
      simp only [List.append_assoc]
      exact (List.perm_append_comm_assoc _ _ _).append_left _

/-- What is found on a document does not depend on the order in which its tags are seen. -/
theorem documentFindings_perm {names others : List String} (same : names.Perm others) :
    (rules.documentFindings names).Perm (rules.documentFindings others) := by
  have counts : (Tally.ofNames names).count = (Tally.ofNames others).count := by
    funext tag
    rw [Tally.count_ofNames, Tally.count_ofNames, same.count_eq]
  have tags : (Tally.ofNames names).tags.Perm (Tally.ofNames others).tags := by
    refine (List.perm_ext_iff_of_nodup (Tally.nodup_tags_ofNames names)
      (Tally.nodup_tags_ofNames others)).mpr fun tag => ?_
    rw [Tally.mem_tags_ofNames, Tally.mem_tags_ofNames, same.mem_iff]
  simp only [documentFindings, missingTagFindings, requirementFindings, counts]
  exact (tags.flatMap_right _).append_left _

/-! ## Rearranged documents -/

variable {first second : Document}

/-- Matching elements find the same on their own account. -/
theorem elementFindings_image_perm (rearrangement : first.Rearrangement second)
    (wellFormed : first.WellFormed) {element : Element}
    (found : first.get? element.id = some element) (occurrences : Nat) :
    ((rules.elementFindings first element occurrences).map withoutPlace).Perm
      ((rules.elementFindings second (rearrangement.image element) occurrences).map
        withoutPlace) := by
  have matched := (rearrangement.get?_image wellFormed found).2
  rw [map_withoutPlace_elementFindings, map_withoutPlace_elementFindings, matched.name_eq,
    rearrangement.parent_visit_image wellFormed found]
  unfold tagFindings
  split
  · exact .refl _
  · exact TagRule.findings_perm matched.attributes_perm _ _ _ _ _

/-- Rearranged documents find the same, apart from places and order. -/
theorem allFindings_perm (rearrangement : first.Rearrangement second)
    (wellFormed : first.WellFormed) (wellFormedSecond : second.WellFormed) :
    ((rules.allFindings first).map withoutPlace).Perm
      ((rules.allFindings second).map withoutPlace) := by
  have walks := rearrangement.perm_walk wellFormed wellFormedSecond
  have found {element : Element} (listed : element ∈ first.walk) :
      first.get? element.id = some element :=
    (wellFormed.mem_preorder_iff wellFormed.preorder_walk).mp listed
  have names : (first.walk.map (·.name)).Perm (second.walk.map (·.name)) := by
    have same : (first.walk.map rearrangement.image).map (·.name) =
        first.walk.map (·.name) := by
      rw [List.map_map]
      exact List.map_congr_left fun element listed =>
        (rearrangement.get?_image wellFormed (found listed)).2.name_eq
    rw [← same]
    exact walks.map _
  let own (document : Document) (element : Element) : List Violation :=
    (rules.elementFindings document element 1).map withoutPlace
  have matched : (first.walk.flatMap (own first)).Perm
      (first.walk.flatMap fun element => own second (rearrangement.image element)) :=
    .flatMap_left _ fun element listed =>
      rules.elementFindings_image_perm rearrangement wellFormed (found listed) 1
  have moved : ((first.walk.map rearrangement.image).flatMap (own second)).Perm
      (second.walk.flatMap (own second)) := walks.flatMap_right _
  rw [List.flatMap_map] at moved
  have visits := (rules.repeatedFindings_perm names (.refl [])).append (matched.trans moved)
  have visited := rules.map_withoutPlace_visitFindings first [] first.walk
  have visitedSecond := rules.map_withoutPlace_visitFindings second [] second.walk
  rw [allFindings, allFindings, List.map_append, List.map_append]
  exact (visited.trans (visits.trans visitedSecond.symm)).append
    ((rules.documentFindings_perm names).map _)

/-- Validations of rearranged documents have the same status, the same count and, apart from
elements and lines, the same violations, each as often. -/
theorem validate_rearrangement (reachable : first.Reachable)
    (reachableSecond : second.Reachable) (rearrangement : first.Rearrangement second) :
    ∃ audit other, rules.validate first = .ok audit ∧ rules.validate second = .ok other ∧
      audit.status = other.status ∧ audit.tagsProcessed = other.tagsProcessed ∧
      (audit.violations.toList.map withoutPlace).Perm
        (other.violations.toList.map withoutPlace) := by
  have wellFormed := reachable.wellFormed
  have wellFormedSecond := reachableSecond.wellFormed
  have same := rules.allFindings_perm rearrangement wellFormed wellFormedSecond
  obtain ⟨audit, validated, found, status, count, _⟩ := rules.validate_eq_ok first
  obtain ⟨other, validatedOther, foundOther, statusOther, countOther, _⟩ :=
    rules.validate_eq_ok second
  refine ⟨audit, other, validated, validatedOther, ?_, ?_, ?_⟩
  · have warnings : AllWarnings (rules.allFindings first) ↔
        AllWarnings (rules.allFindings second) := by
      have keeps (violation : Violation) :
          violation.withoutPlace.severity = violation.severity := rfl
      rw [← Violation.allWarnings_map keeps (rules.allFindings first),
        ← Violation.allWarnings_map keeps (rules.allFindings second)]
      exact forall_congr' fun violation => imp_congr_left same.mem_iff
    rw [status, statusOther]
    simp only [warnings]
  · rw [count, countOther, wellFormed.length_preorder wellFormed.preorder_walk,
      wellFormedSecond.length_preorder wellFormedSecond.preorder_walk, rearrangement.size_eq]
  · rw [found, foundOther, Violation.map_withoutPlace_categorized,
      Violation.map_withoutPlace_categorized]
    exact same.map _

/-- Rules for articles of one paragraph, which come with navigation, and with an aside to their
main part. -/
def articles : RuleSet where
  name := "articles"
  version := none
  globalAttributes := ["lang"]
  tags := [
    ⟨TagDefinition.plain "html", []⟩,
    ⟨{ TagDefinition.plain "p" with unique := true, requires := ["nav"] }, []⟩,
    ⟨{ TagDefinition.plain "main" with requires := ["nav", "aside"] }, []⟩]

/-- An article and the same one from bottom to top. It is the other paragraph that is one too many,
and the requirements of the main part come first, but there is no more and no less to report. -/
theorem validate_turnedArticle :
    Document.article.Reachable ∧ Document.turnedArticle.Reachable ∧
      ∃ audit other, articles.validate .article = .ok audit ∧
        articles.validate .turnedArticle = .ok other ∧
        audit.status = other.status ∧ audit.tagsProcessed = other.tagsProcessed ∧
        (audit.violations.toList.map withoutPlace).Perm
          (other.violations.toList.map withoutPlace) ∧
        audit.violations.toList.map (fun violation =>
            (violation.code, violation.params, violation.line)) =
          [(.disallowedAttr, ["dir", "html"], 1),
            (.duplicateUniqueTag, ["p"], 3),
            (.tagRequiredByMissing, ["nav", "p"], 0),
            (.tagRequiredByMissing, ["nav", "main"], 0),
            (.tagRequiredByMissing, ["aside", "main"], 0)] ∧
        other.violations.toList.map (fun violation =>
            (violation.code, violation.params, violation.line)) =
          [(.disallowedAttr, ["dir", "html"], 1),
            (.duplicateUniqueTag, ["p"], 2),
            (.tagRequiredByMissing, ["nav", "main"], 0),
            (.tagRequiredByMissing, ["aside", "main"], 0),
            (.tagRequiredByMissing, ["nav", "p"], 0)] := by
  have reachable := Document.reachable_article
  have reachableTurned := Document.reachable_turnedArticle
  obtain ⟨audit, other, validated, turned, status, count, same⟩ :=
    articles.validate_rearrangement reachable reachableTurned .turn
  refine ⟨reachable, reachableTurned, audit, other, validated, turned, status, count, same, ?_, ?_⟩
  · obtain ⟨_, scanned, found, _⟩ := articles.validate_eq_ok .article
    cases validated.symm.trans scanned
    rw [found]
    decide +kernel
  · obtain ⟨_, scanned, found, _⟩ := articles.validate_eq_ok .turnedArticle
    cases turned.symm.trans scanned
    rw [found]
    decide +kernel

end RuleSet

end MarkupAudit
