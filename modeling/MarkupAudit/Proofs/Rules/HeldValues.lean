/-
# Values that are held to patterns

An attribute of a rule may have a pattern for its values. The value of an attribute that is given is
held to the first attribute of the rule that has its name as a spelling, and to no other; but whether
a mandatory attribute is there is asked of each attribute by its own spellings. So an attribute that
shares a spelling with an earlier one may count as given, with a value that has not been held to its
pattern.

This is the only way round a pattern. An attribute is held to its pattern under all of its spellings
exactly if what it refuses is also refused by what is found first under these spellings, and in
particular if it shares none of them.
-/

import MarkupAudit.Proofs.Rules.Respelling

namespace MarkupAudit

open Violation (withCode)

namespace TagRule

/-- What a rule finds first under a name does not allow a value. -/
def Refuses (rule : TagRule) (name value : String) : Prop :=
  ∃ first ∈ rule.attribute? name, first.allows value = false

instance (rule : TagRule) (name value : String) : Decidable (rule.Refuses name value) :=
  decidable_of_iff ((rule.attribute? name).any (fun first => !first.allows value) = true) <| by
    simp only [Option.any_eq_true, Bool.not_eq_true', Refuses, Option.mem_def]

theorem refuses_iff_of_found {rule : TagRule} {name : String} {first : AttributeRule}
    (found : rule.attribute? name = some first) (value : String) :
    rule.Refuses name value ↔ first.allows value = false := by
  simp only [Refuses, found, Option.mem_some_iff, exists_eq_left']

variable (rules : RuleSet) (rule : TagRule) (context : Context) (tag : String)

/-- Of an attribute that the rule defines, the value is reported if it is not allowed. -/
theorem withCode_invalid_knownAttributeFindings (known : AttributeRule) (name value : String) :
    withCode .invalidAttrValue (knownAttributeFindings context tag known name value) =
      if known.allows value = false then
        [Violation.found context .invalidAttrValue [name, tag, value]] else [] := by
  rw [knownAttributeFindings, Violation.withCode_append]
  cases known.definition.replacement <;> cases known.allows value <;> simp [withCode]

/-- A value is reported if what is found first under its name refuses it. -/
theorem withCode_invalid_attributeFindings (name value : String) :
    withCode .invalidAttrValue (attributeFindings rules rule context tag name value) =
      if rule.Refuses name value then
        [Violation.found context .invalidAttrValue [name, tag, value]] else [] := by
  cases found : rule.attribute? name with
  | none =>
      have accepted : ¬rule.Refuses name value := by simp [Refuses, found]
      rw [attributeFindings, found, if_neg accepted]
      dsimp only
      split <;> simp [withCode]
  | some first =>
      simp only [attributeFindings, found, withCode_invalid_knownAttributeFindings,
        refuses_iff_of_found found]

/-! ### Rules for paragraphs -/

/-- The width of a paragraph, which may be spelled in other ways. -/
def width (others : List String) : AttributeRule :=
  ⟨{ AttributeDefinition.attr "width" with alternatives := others }, none⟩

/-- The height of a paragraph, which must be given and has one digit. -/
def height : AttributeRule where
  definition :=
    { AttributeDefinition.attr "height" with
      alternatives := ["size"]
      mandatory := true
      valuePattern := some "[0-9]" }
  pattern := some ⟨.seq (.anchor .textStart) (.seq (.one ⟨[⟨48, 57⟩]⟩) (.anchor .textEnd))⟩

/-- The rule for paragraphs with a width and a height. -/
def measured (others : List String) : TagRule :=
  ⟨{ TagDefinition.plain "p" with attributes := [(width others).definition, height.definition] },
    [width others, height]⟩

end TagRule

/-! ## What is reported -/

namespace RuleSet

open Run (freshlyTurned)
open TagRule (height measured)

/-- Whatever attributes an element has, a value that is given under a spelling of this attribute and
that this attribute does not allow is reported. -/
def HoldsTo (rules : RuleSet) (run : Run Tally) (tag : String) (known : AttributeRule) : Prop :=
  ∀ attributes : AttributeSet, ∀ entry ∈ attributes.entries,
    entry.1 ∈ known.definition.spellings → known.allows entry.2 = false →
      run.Tells rules.inspector tag attributes .invalidAttrValue [entry.1, tag, entry.2]

variable (rules : RuleSet) {tag : String} {rule : TagRule}
  (defined : rules.tag? tag = some rule) {run : Run Tally}
  (isLocal : run.context.phase = .local) (isOpen : run.audit.isClosed = false)

section Reports

include defined isLocal isOpen

/-- The values that are reported are those that are given and refused. -/
theorem tells_invalid_iff (attributes : AttributeSet) (name value : String) :
    run.Tells rules.inspector tag attributes .invalidAttrValue [name, tag, value] ↔
      (name, value) ∈ attributes.entries ∧ rule.Refuses name value := by
  have reported : withCode .invalidAttrValue (run.appended rules.inspector tag attributes) =
      (attributes.entries.flatMap fun entry =>
        if rule.Refuses entry.1 entry.2 then
          [Violation.found run.context .invalidAttrValue [entry.1, tag, entry.2]]
        else []).map (·.documentedAt rule.definition.specUrl) := by
    rw [rules.appended_of_defined defined isLocal isOpen, TagRule.withCode_findings]
    simp only [reduceCtorEq, if_false, List.append_nil, List.nil_append,
      Violation.withCode_flatMap, TagRule.withCode_invalid_attributeFindings]
  constructor
  · rintro ⟨violation, listed, tells⟩
    have invalid := Violation.mem_withCode.mpr ⟨listed, tells.code_eq⟩
    rw [reported] at invalid
    obtain ⟨bare, isBare, rfl⟩ := List.mem_map.mp invalid
    obtain ⟨entry, given, found⟩ := List.mem_flatMap.mp isBare
    split at found
    · rename_i refused
      have params := tells.params_eq
      rw [List.mem_singleton.mp found,
        ((Violation.tells_found _ _ _).documentedAt _).params_eq] at params
      simp only [List.cons.injEq, true_and, and_true] at params
      rw [← params.1, ← params.2]
      exact ⟨given, refused⟩
    · cases found
  · rintro ⟨given, refused⟩
    refine ⟨(Violation.found run.context .invalidAttrValue [name, tag, value]).documentedAt
      rule.definition.specUrl, ?_, (Violation.tells_found _ _ _).documentedAt _⟩
    have invalid : (Violation.found run.context .invalidAttrValue [name, tag, value]).documentedAt
        rule.definition.specUrl ∈
          withCode .invalidAttrValue (run.appended rules.inspector tag attributes) := by
      rw [reported]
      refine List.mem_map_of_mem (List.mem_flatMap.mpr ⟨(name, value), given, ?_⟩)
      rw [if_pos refused]
      exact List.mem_singleton_self _
    exact (Violation.mem_withCode.mp invalid).1

/-- A mandatory attribute is reported missing if none of its spellings is given. -/
theorem tells_missing_of_lacking {attributes : AttributeSet} {wanted : AttributeRule}
    (lacks : wanted ∈ rule.lacking attributes) :
    run.Tells rules.inspector tag attributes .mandatoryAttrMissing [wanted.definition.name, tag] := by
  refine ⟨(Violation.found run.context .mandatoryAttrMissing
    [wanted.definition.name, tag]).documentedAt rule.definition.specUrl, ?_,
    (Violation.tells_found _ _ _).documentedAt _⟩
  rw [rules.appended_of_defined defined isLocal isOpen]
  have found : Violation.found run.context .mandatoryAttrMissing [wanted.definition.name, tag] ∈
      rule.missingFindings run.context tag attributes :=
    List.mem_map.mpr ⟨wanted, lacks, rfl⟩
  refine List.mem_map_of_mem ?_
  simp [found]

/-- An attribute is held to its pattern exactly if what it refuses is also refused by what is found
first under its spellings. -/
theorem holdsTo_iff (known : AttributeRule) :
    rules.HoldsTo run tag known ↔
      ∀ name ∈ known.definition.spellings, ∀ value, known.allows value = false →
        rule.Refuses name value := by
  constructor
  · intro holds name spells value refused
    have reported := holds ⟨[(name, value)]⟩ (name, value) (List.mem_singleton_self _) spells refused
    exact ((rules.tells_invalid_iff defined isLocal isOpen _ name value).mp reported).2
  · intro refuses attributes entry given spells refused
    exact (rules.tells_invalid_iff defined isLocal isOpen attributes entry.1 entry.2).mpr
      ⟨given, refuses entry.1 spells entry.2 refused⟩

theorem holdsTo_of_distinguishes {known : AttributeRule} (isKnown : known ∈ rule.attributes)
    (alone : rule.Distinguishes known) : rules.HoldsTo run tag known := by
  rw [rules.holdsTo_iff defined isLocal isOpen]
  intro name spells value refused
  exact (TagRule.refuses_iff_of_found (alone.attribute?_eq_some isKnown spells) value).mpr refused

/-- A mandatory attribute is reported missing, or it is given under one of its spellings. -/
theorem tells_missing_or_given {known : AttributeRule} (isKnown : known ∈ rule.attributes)
    (mandatory : known.definition.mandatory = true) (attributes : AttributeSet) :
    run.Tells rules.inspector tag attributes .mandatoryAttrMissing [known.definition.name, tag] ∨
      ∃ entry ∈ attributes.entries, entry.1 ∈ known.definition.spellings := by
  by_cases given : attributes.names.any known.definition.hasName = true
  · obtain ⟨name, isGiven, spells⟩ := List.any_eq_true.mp given
    obtain ⟨entry, listed, rfl⟩ := List.mem_map.mp isGiven
    exact .inr ⟨entry, listed, (known.definition.hasName_iff entry.1).mp spells⟩
  · have lacks : known ∈ rule.lacking attributes :=
      List.mem_filter.mpr ⟨isKnown, by simp [mandatory, Bool.eq_false_iff.mpr given]⟩
    exact .inl (rules.tells_missing_of_lacking defined isLocal isOpen lacks)

/-- The values that are reported are those that are given and refused by what is found first under
their names. An attribute of the rule is held to its pattern exactly if what it refuses is refused
there as well, and therefore if it shares no spelling. Then, if it is mandatory and not reported
missing, it is given with a value that it allows or that is reported. -/
theorem askTag_holdsToPatterns :
    (∀ attributes name value,
      run.Tells rules.inspector tag attributes .invalidAttrValue [name, tag, value] ↔
        (name, value) ∈ attributes.entries ∧ rule.Refuses name value) ∧
      ∀ known ∈ rule.attributes,
        (rules.HoldsTo run tag known ↔
          ∀ name ∈ known.definition.spellings, ∀ value, known.allows value = false →
            rule.Refuses name value) ∧
        (rule.Distinguishes known → rules.HoldsTo run tag known) ∧
        (rules.HoldsTo run tag known → known.definition.mandatory = true → ∀ attributes,
          run.Tells rules.inspector tag attributes .mandatoryAttrMissing
              [known.definition.name, tag] ∨
            ∃ entry ∈ attributes.entries, entry.1 ∈ known.definition.spellings ∧
              (known.allows entry.2 = true ∨
                run.Tells rules.inspector tag attributes .invalidAttrValue
                  [entry.1, tag, entry.2])) := by
  refine ⟨rules.tells_invalid_iff defined isLocal isOpen, fun known isKnown =>
    ⟨rules.holdsTo_iff defined isLocal isOpen known,
      rules.holdsTo_of_distinguishes defined isLocal isOpen isKnown, ?checked⟩⟩
  case checked =>
    intro holds mandatory attributes
    refine (rules.tells_missing_or_given defined isLocal isOpen isKnown mandatory attributes).imp_right
      fun given => ?_
    obtain ⟨entry, listed, spells⟩ := given
    refine ⟨entry, listed, spells, ?_⟩
    cases allowed : known.allows entry.2 with
    | true => exact .inl rfl
    | false => exact .inr (holds attributes entry listed spells allowed)

end Reports

/-- A height that is spelled otherwise is held to its pattern. -/
theorem askTag_holdsToPatterns_height :
    let table : RuleTable := ⟨"measured", none, [], [(measured []).definition]⟩
    ∃ rules, compile table = .ok rules ∧ rules.tag? "p" = some (measured []) ∧
      freshlyTurned.context.phase = .local ∧ freshlyTurned.audit.isClosed = false ∧
      height ∈ (measured []).attributes ∧ (measured []).Distinguishes height ∧
      height.definition.mandatory = true ∧
      freshlyTurned.Tells rules.inspector "p" ⟨[("size", "x")]⟩ .invalidAttrValue
        ["size", "p", "x"] := by
  let rules : RuleSet := ⟨"measured", none, [], [measured []]⟩
  have defined : rules.tag? "p" = some (measured []) := by decide +kernel
  have isKnown : height ∈ (measured []).attributes := by decide +kernel
  have alone : (measured []).Distinguishes height := by decide +kernel
  have isLocal : freshlyTurned.context.phase = .local := rfl
  have isOpen : freshlyTurned.audit.isClosed = false := rfl
  obtain ⟨_, held⟩ := rules.askTag_holdsToPatterns defined isLocal isOpen
  obtain ⟨_, holds, _⟩ := held height isKnown
  have reported := holds alone ⟨[("size", "x")]⟩ ("size", "x") (List.mem_singleton_self _)
    (by decide +kernel) (by decide +kernel)
  exact ⟨rules, by decide +kernel, defined, isLocal, isOpen, isKnown, alone, rfl, reported⟩

/-- Not every table holds the values of all attributes to their patterns: if the width comes first and
shares a spelling with the height, this spelling counts as a height with any value. -/
theorem height_not_held :
    ¬∀ (table : RuleTable) (rules : RuleSet) (tag : String) (rule : TagRule) (run : Run Tally)
      (known : AttributeRule), compile table = .ok rules → rules.tag? tag = some rule →
        run.context.phase = .local → run.audit.isClosed = false → known ∈ rule.attributes →
          rules.HoldsTo run tag known := by
  intro holds
  let table : RuleTable := ⟨"measured", none, [], [(measured ["size"]).definition]⟩
  let rules : RuleSet := ⟨"measured", none, [], [measured ["size"]]⟩
  have compiled : compile table = .ok rules := by decide +kernel
  have defined : rules.tag? "p" = some (measured ["size"]) := by decide +kernel
  have held := holds table rules "p" _ freshlyTurned height compiled defined rfl rfl
    (by decide +kernel)
  have reported := held ⟨[("size", "x")]⟩ ("size", "x") (List.mem_singleton_self _)
    (by decide +kernel) (by decide +kernel)
  -- Nothing at all is reported.
  obtain ⟨violation, listed, _⟩ := reported
  have nothing : freshlyTurned.appended rules.inspector "p" ⟨[("size", "x")]⟩ = [] := by
    decide +kernel
  rw [nothing] at listed
  cases listed

end RuleSet

end MarkupAudit
