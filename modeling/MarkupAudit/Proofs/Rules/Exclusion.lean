/-
# Attributes that exclude each other

The rule of a tag may list attributes of which an element may carry only one. The check goes over the
list and counts the places of it that are carried. This is the number of the attributes from the list
if every attribute stands in one place of it, under its proper name, and no two attributes share a
spelling. An element is then reported exactly if it carries two different attributes.

Any other list counts something else. One attribute can carry two places, because the list repeats a
name or holds another spelling beside the proper name, and then an element with this attribute alone
is reported. And a place that does not hold the proper name of an attribute is not carried by its
other spellings.
-/

import MarkupAudit.Proofs.Rules.Codes
import MarkupAudit.Proofs.Rules.Spellings

namespace MarkupAudit

open RuleTable (picture pictures pictureAttributes)
open Run (freshlyTurned)
open Violation (withCode)

namespace TagRule

variable (rule : TagRule)

/-- A list names attributes by their proper names, each once. -/
structure IsProper (names : List String) : Prop where
  nodup : names.Nodup
  properName_eq : ∀ name ∈ names, rule.properName name = name

/-- An attribute is one of those that exclude each other, if some entry of the list is a spelling
of it. -/
def ListsExclusive (given : String) : Prop :=
  ∃ entry ∈ rule.definition.exclusive, rule.SameAttribute given entry

/-- Two different attributes are carried that exclude each other. -/
def CarriesSeveral (attributes : AttributeSet) : Prop :=
  ∃ first ∈ attributes.names, ∃ second ∈ attributes.names,
    ¬rule.SameAttribute first second ∧ rule.ListsExclusive first ∧ rule.ListsExclusive second

/-- Two places of the list are carried. -/
def CarriesTwoPlaces (attributes : AttributeSet) : Prop :=
  ¬rule.definition.exclusive.Pairwise fun first second =>
    ¬(rule.Carries attributes first ∧ rule.Carries attributes second)

instance (names : List String) : Decidable (rule.IsProper names) :=
  decidable_of_iff (names.Nodup ∧ ∀ name ∈ names, rule.properName name = name)
    ⟨fun both => ⟨both.1, both.2⟩, fun proper => ⟨proper.nodup, proper.properName_eq⟩⟩

instance (given : String) : Decidable (rule.ListsExclusive given) := by
  unfold ListsExclusive
  infer_instance

instance (attributes : AttributeSet) : Decidable (rule.CarriesSeveral attributes) := by
  unfold CarriesSeveral
  infer_instance

instance (attributes : AttributeSet) : Decidable (rule.CarriesTwoPlaces attributes) := by
  unfold CarriesTwoPlaces
  infer_instance

variable {rule}

/-! ## Places and attributes -/

/-- The check counts places. -/
theorem countP_carries_le_one_iff (attributes : AttributeSet) :
    rule.definition.exclusive.countP (rule.carries attributes) ≤ 1 ↔
      ¬rule.CarriesTwoPlaces attributes := by
  rw [countP_le_one_iff, CarriesTwoPlaces, not_not]
  simp only [carries_iff]

/-- In a proper list two entries that give the same attribute are the same. -/
theorem IsProper.eq_of_sameAttribute {names : List String} (proper : rule.IsProper names)
    {first second : String} (isFirst : first ∈ names) (isSecond : second ∈ names)
    (same : rule.SameAttribute first second) : first = second := by
  rw [← proper.properName_eq first isFirst, same.properName_eq,
    proper.properName_eq second isSecond]

/-- A proper name is carried by an attribute under each of its spellings, and by no other. -/
theorem IsUnambiguous.carries_iff_sameAttribute (unambiguous : rule.IsUnambiguous)
    {entry : String} (proper : rule.properName entry = entry) (attributes : AttributeSet) :
    rule.Carries attributes entry ↔
      ∃ given ∈ attributes.names, rule.SameAttribute given entry := by
  rw [carries_iff_properName]
  refine exists_congr fun given => and_congr_right fun _ => ?_
  constructor
  · rintro (rfl | named)
    · exact .refl given
    · have same := unambiguous.sameAttribute_properName given
      rwa [named] at same
  · intro same
    exact .inr (same.properName_eq.trans proper)

/-- In a list without repetitions, two places are carried if two different entries are. -/
theorem carriesTwoPlaces_iff (nodup : rule.definition.exclusive.Nodup)
    (attributes : AttributeSet) :
    rule.CarriesTwoPlaces attributes ↔
      ∃ first ∈ rule.definition.exclusive, ∃ second ∈ rule.definition.exclusive,
        first ≠ second ∧ rule.Carries attributes first ∧ rule.Carries attributes second := by
  constructor
  · intro several
    by_contra none
    refine several (nodup.pairwise_of_forall_ne fun first isFirst second isSecond apart both => ?_)
    exact none ⟨first, isFirst, second, isSecond, apart, both⟩
  · rintro ⟨first, isFirst, second, isSecond, apart, both⟩ none
    have symmetric : Std.Symm fun first second =>
        ¬(rule.Carries attributes first ∧ rule.Carries attributes second) :=
      ⟨fun _ _ notBoth both => notBoth both.symm⟩
    exact none.forall isFirst isSecond apart both

/-- If the attributes are told apart and the list is proper, as many places are carried as
attributes from the list. -/
theorem carriesTwoPlaces_iff_carriesSeveral (unambiguous : rule.IsUnambiguous)
    (proper : rule.IsProper rule.definition.exclusive) (attributes : AttributeSet) :
    rule.CarriesTwoPlaces attributes ↔ rule.CarriesSeveral attributes := by
  have carried {entry : String} (listed : entry ∈ rule.definition.exclusive) :=
    unambiguous.carries_iff_sameAttribute (proper.properName_eq entry listed) attributes
  rw [carriesTwoPlaces_iff proper.nodup]
  constructor
  · rintro ⟨first, isFirst, second, isSecond, apart, carriesFirst, carriesSecond⟩
    obtain ⟨given, isGiven, givesFirst⟩ := (carried isFirst).mp carriesFirst
    obtain ⟨other, isOther, givesSecond⟩ := (carried isSecond).mp carriesSecond
    refine ⟨given, isGiven, other, isOther, fun same => apart ?_, ⟨first, isFirst, givesFirst⟩,
      ⟨second, isSecond, givesSecond⟩⟩
    exact proper.eq_of_sameAttribute isFirst isSecond
      (givesFirst.symm.trans (same.trans givesSecond))
  · rintro ⟨given, isGiven, other, isOther, apart, ⟨first, isFirst, givesFirst⟩,
      ⟨second, isSecond, givesSecond⟩⟩
    refine ⟨first, isFirst, second, isSecond, ?_, (carried isFirst).mpr ⟨given, isGiven, givesFirst⟩,
      (carried isSecond).mpr ⟨other, isOther, givesSecond⟩⟩
    rintro rfl
    exact apart (givesFirst.trans givesSecond.symm)

/-- The places that a single attribute carries. -/
theorem carries_single_iff (name value entry : String) :
    rule.Carries ⟨[(name, value)]⟩ entry ↔ name = entry ∨ rule.properName name = entry := by
  simp [carries_iff_properName, AttributeSet.names]

/-- No single attribute carries two places exactly if the list repeats no name and has no spelling
together with its proper name. -/
theorem forall_not_carriesTwoPlaces_single_iff :
    (∀ name value, ¬rule.CarriesTwoPlaces ⟨[(name, value)]⟩) ↔
      rule.definition.exclusive.Pairwise fun first second =>
        first ≠ second ∧ rule.properName first ≠ second ∧ rule.properName second ≠ first := by
  simp only [CarriesTwoPlaces, not_not, carries_single_iff]
  constructor
  · intro none
    rw [List.pairwise_iff_forall_sublist]
    intro first second listed
    have alone (name : String) := List.pairwise_iff_forall_sublist.mp (none name "") listed
    refine ⟨fun same => ?_, fun same => ?_, fun same => ?_⟩
    · exact alone first ⟨.inl rfl, .inl same⟩
    · exact alone first ⟨.inl rfl, .inr same⟩
    · exact alone second ⟨.inr same, .inl rfl⟩
  · intro apart name _
    refine apart.imp fun {first second} distinct both => ?_
    obtain ⟨different, notProper, notProperBack⟩ := distinct
    rcases both with ⟨rfl | isFirst, rfl | isSecond⟩
    · exact different rfl
    · exact notProper isSecond
    · exact notProperBack isFirst
    · exact different (isFirst.symm.trans isSecond)

end TagRule

/-! ## What is reported -/

namespace RuleSet

variable (rules : RuleSet)

/-- The only report of excluded attributes on an element comes from its check. -/
theorem withCode_appended_exclusive {tag : String} {rule : TagRule}
    (defined : rules.tag? tag = some rule) {run : Run Tally}
    (isLocal : run.context.phase = .local) (isOpen : run.audit.isClosed = false)
    (attributes : AttributeSet) :
    withCode .mutuallyExclusiveAttrs (run.appended rules.inspector tag attributes) =
      if rule.CarriesTwoPlaces attributes then
        [(Violation.found run.context .mutuallyExclusiveAttrs
          [tag, listParam rule.definition.exclusive]).documentedAt rule.definition.specUrl]
      else [] := by
  have noAttribute : Code.mutuallyExclusiveAttrs ∉ Violation.attributeCodes := by decide
  rw [rules.appended_of_defined defined isLocal isOpen, TagRule.withCode_findings,
    TagRule.withCode_attributeFindings _ _ _ _ _ noAttribute]
  simp only [reduceCtorEq, if_true, if_false, List.nil_append, TagRule.exclusiveFindings,
    TagRule.countP_carries_le_one_iff, ite_not]
  split <;> rfl

theorem reports_exclusive_iff {tag : String} {rule : TagRule}
    (defined : rules.tag? tag = some rule) {run : Run Tally}
    (isLocal : run.context.phase = .local) (isOpen : run.audit.isClosed = false)
    (attributes : AttributeSet) :
    run.Reports rules.inspector tag attributes .mutuallyExclusiveAttrs ↔
      rule.CarriesTwoPlaces attributes := by
  simp only [Run.Reports, ← Violation.mem_withCode,
    rules.withCode_appended_exclusive defined isLocal isOpen]
  split <;> simp [*]

/-- An element is reported once if two places of the list are carried, and else not at all. There is
no element that is reported for a single attribute exactly if the list repeats no name and has no
spelling together with its proper name. If no two attributes share a spelling and the list is
proper, the elements that are reported are those that carry two different attributes from it. -/
theorem askTag_excludes {tag : String} {rule : TagRule} (defined : rules.tag? tag = some rule)
    {run : Run Tally} (isLocal : run.context.phase = .local)
    (isOpen : run.audit.isClosed = false) :
    (∀ attributes, (run.askTag rules.inspector tag attributes).2 = none ∧
      withCode .mutuallyExclusiveAttrs (run.appended rules.inspector tag attributes) =
        if rule.CarriesTwoPlaces attributes then
          [(Violation.found run.context .mutuallyExclusiveAttrs
            [tag, listParam rule.definition.exclusive]).documentedAt rule.definition.specUrl]
        else []) ∧
      ((∀ name value,
          ¬run.Reports rules.inspector tag ⟨[(name, value)]⟩ .mutuallyExclusiveAttrs) ↔
        rule.definition.exclusive.Pairwise fun first second =>
          first ≠ second ∧ rule.properName first ≠ second ∧ rule.properName second ≠ first) ∧
      (rule.IsUnambiguous → rule.IsProper rule.definition.exclusive → ∀ attributes,
        (run.Reports rules.inspector tag attributes .mutuallyExclusiveAttrs ↔
          rule.CarriesSeveral attributes)) := by
  have reports := rules.reports_exclusive_iff defined isLocal isOpen
  refine ⟨fun attributes => ⟨?passes, ?reported⟩, ?single, ?several⟩
  case passes => rw [rules.askTag_of_local isLocal isOpen]
  case reported => exact rules.withCode_appended_exclusive defined isLocal isOpen attributes
  case single =>
    simp only [reports]
    exact TagRule.forall_not_carriesTwoPlaces_single_iff
  case several =>
    intro unambiguous proper attributes
    rw [reports, TagRule.carriesTwoPlaces_iff_carriesSeveral unambiguous proper]

/-- A source in one spelling and a set of sources exclude each other; a source in both spellings
excludes nothing. -/
theorem askTag_excludes_pictures :
    ∃ rules rule, compile (pictures [] ["src", "srcset"]) = .ok rules ∧
      rules.tag? "amp-img" = some rule ∧ rule.IsUnambiguous ∧
      rule.IsProper rule.definition.exclusive ∧ freshlyTurned.context.phase = .local ∧
      freshlyTurned.audit.isClosed = false ∧
      freshlyTurned.Reports rules.inspector "amp-img"
        ⟨[("data-src", "a.png"), ("srcset", "a.png 1x")]⟩ .mutuallyExclusiveAttrs ∧
      ¬freshlyTurned.Reports rules.inspector "amp-img"
        ⟨[("src", "a.png"), ("data-src", "b.png")]⟩ .mutuallyExclusiveAttrs := by
  let rule : TagRule := ⟨picture [] ["src", "srcset"], pictureAttributes⟩
  let rules : RuleSet := ⟨"pictures", none, [], [rule]⟩
  have defined : rules.tag? "amp-img" = some rule := by decide +kernel
  have unambiguous : rule.IsUnambiguous := by decide +kernel
  have proper : rule.IsProper rule.definition.exclusive := by decide +kernel
  have isLocal : freshlyTurned.context.phase = .local := rfl
  have isOpen : freshlyTurned.audit.isClosed = false := rfl
  obtain ⟨_, _, several⟩ := rules.askTag_excludes defined isLocal isOpen
  have several := several unambiguous proper
  refine ⟨rules, rule, by decide +kernel, defined, unambiguous, proper, isLocal, isOpen,
    (several _).mpr (by decide +kernel), fun reported => ?_⟩
  have different := (several _).mp reported
  revert different
  decide +kernel

/-- A table does not in general let a single attribute pass: if both spellings of the source are
listed, a picture with a source in the second one is reported. -/
theorem source_excludes_itself :
    ¬∀ (table : RuleTable) (rules : RuleSet) (tag : String) (rule : TagRule) (run : Run Tally)
      (attributes : AttributeSet), compile table = .ok rules → rules.tag? tag = some rule →
        run.context.phase = .local → run.audit.isClosed = false →
          (run.Reports rules.inspector tag attributes .mutuallyExclusiveAttrs ↔
            rule.CarriesSeveral attributes) := by
  intro agree
  let rule : TagRule := ⟨picture [] ["src", "data-src"], pictureAttributes⟩
  let rules : RuleSet := ⟨"pictures", none, [], [rule]⟩
  have compiled : compile (pictures [] ["src", "data-src"]) = .ok rules := by decide +kernel
  have defined : rules.tag? "amp-img" = some rule := by decide +kernel
  have reported : freshlyTurned.Reports rules.inspector "amp-img" ⟨[("data-src", "a.png")]⟩
      .mutuallyExclusiveAttrs := by decide +kernel
  have several := (agree _ rules _ rule freshlyTurned _ compiled defined rfl rfl).mp reported
  revert several
  decide +kernel

end RuleSet

end MarkupAudit
