/-
# Giving an attribute under another spelling

What is reported of an element when one of its attributes is given under another spelling, with its
value and in its place. The codes that are reported stay the same, in their order, if no other
attribute of the rule shares a spelling with this one and the lists of the rule name it by its proper
name alone.

In general the codes stay the same exactly if each of the checks comes to the same. The checks report
under different codes and one after the other, so what one of them reports more cannot be made up for
by what another reports less.
-/

import MarkupAudit.Proofs.Rules.Exclusion

namespace MarkupAudit

open Violation (attributeCodes)

/-- Two lists are the same if their parts are, provided that a property tells the items of the first
parts from those of the second parts. -/
theorem append_eq_append_iff_of_apart {α : Type} (property : α → Prop) [DecidablePred property]
    {first other rest others : List α}
    (inFirst : ∀ item ∈ first, property item) (inOther : ∀ item ∈ other, property item)
    (notRest : ∀ item ∈ rest, ¬property item) (notOthers : ∀ item ∈ others, ¬property item) :
    first ++ rest = other ++ others ↔ first = other ∧ rest = others := by
  have firstPart {part remainder : List α} (inPart : ∀ item ∈ part, property item)
      (notRemainder : ∀ item ∈ remainder, ¬property item) :
      (part ++ remainder).filter property = part := by
    rw [List.filter_append, List.filter_eq_self.mpr (by simpa using inPart),
      List.filter_eq_nil_iff.mpr (by simpa using notRemainder), List.append_nil]
  constructor
  · intro same
    have parts := congrArg (List.filter property) same
    rw [firstPart inFirst notRest, firstPart inOther notOthers] at parts
    subst parts
    exact ⟨rfl, List.append_cancel_left same⟩
  · rintro ⟨rfl, rfl⟩
    rfl

/-- Attributes in a row, one of them singled out. -/
def AttributeSet.around (before : List (String × String)) (name value : String)
    (after : List (String × String)) : AttributeSet :=
  ⟨before ++ (name, value) :: after⟩

/-- What holds of both names of an attribute is found among the names of a set with either. -/
theorem AttributeSet.exists_mem_names_around {condition : String → Prop} {first second : String}
    (alike : condition first ↔ condition second) (before : List (String × String)) (value : String)
    (after : List (String × String)) :
    (∃ given ∈ (around before first value after).names, condition given) ↔
      ∃ given ∈ (around before second value after).names, condition given := by
  simp only [names, around, List.map_append, List.map_cons, List.mem_append, List.mem_cons,
    or_and_right, exists_or, exists_eq_left, alike]

namespace TagRule

variable (rule : TagRule)

/-- The lists of the rule name an attribute by its proper name alone. -/
def NamesProperly (known : AttributeRule) : Prop :=
  ∀ entry ∈ rule.definition.oneOf ++ rule.definition.exclusive,
    entry ∈ known.definition.spellings → entry = known.definition.name

instance (known : AttributeRule) : Decidable (rule.NamesProperly known) := by
  unfold NamesProperly
  infer_instance

/-- The attributes that an element must have and lacks. -/
def lacking (attributes : AttributeSet) : List AttributeRule :=
  rule.attributes.filter fun wanted =>
    wanted.definition.mandatory && !attributes.names.any wanted.definition.hasName

/-- Some attributes come to the same as others, in which one is given with its value under a second
name. -/
@[mk_iff]
structure Interchanges (first second value : String) (attributes others : AttributeSet) : Prop where
  /-- The value is allowed under both names or under none. -/
  allows : ∀ one ∈ rule.attribute? first, ∀ other ∈ rule.attribute? second,
    one.allows value = other.allows value
  /-- What is found under either name is deprecated, or none of it. -/
  deprecated : ∀ one ∈ rule.attribute? first, ∀ other ∈ rule.attribute? second,
    one.definition.replacement.isSome = other.definition.replacement.isSome
  lacking : (rule.lacking attributes).length = (rule.lacking others).length
  oneOf : (∃ entry ∈ rule.definition.oneOf, rule.Carries attributes entry) ↔
    ∃ entry ∈ rule.definition.oneOf, rule.Carries others entry
  exclusive : rule.CarriesTwoPlaces attributes ↔ rule.CarriesTwoPlaces others

variable {rule} {known : AttributeRule} {first second : String}

/-! ## Attributes that are told apart and named properly -/

/-- An entry of a list is carried under both spellings or under none. -/
theorem carries_around_iff (isKnown : known ∈ rule.attributes) (alone : rule.Distinguishes known)
    (spellsFirst : first ∈ known.definition.spellings)
    (spellsSecond : second ∈ known.definition.spellings) {entry : String}
    (proper : entry ∈ known.definition.spellings → entry = known.definition.name)
    (before : List (String × String)) (value : String) (after : List (String × String)) :
    rule.Carries (.around before first value after) entry ↔
      rule.Carries (.around before second value after) entry := by
  have named {name : String} (spells : name ∈ known.definition.spellings) :
      name = entry ∨ rule.properName name = entry ↔ known.definition.name = entry := by
    rw [properName_of_attribute?_eq_some (alone.attribute?_eq_some isKnown spells)]
    constructor
    · rintro (rfl | same)
      · exact (proper spells).symm
      · exact same
    · exact .inr
  rw [carries_iff_properName, carries_iff_properName]
  exact AttributeSet.exists_mem_names_around ((named spellsFirst).trans (named spellsSecond).symm)
    before value after

/-- The same mandatory attributes are lacking. -/
theorem lacking_around (alone : rule.Distinguishes known)
    (spellsFirst : first ∈ known.definition.spellings)
    (spellsSecond : second ∈ known.definition.spellings)
    (before : List (String × String)) (value : String) (after : List (String × String)) :
    rule.lacking (.around before first value after) =
      rule.lacking (.around before second value after) := by
  refine List.filter_congr fun wanted isWanted => ?_
  have alike : wanted.definition.hasName first = true ↔ wanted.definition.hasName second = true := by
    rw [AttributeDefinition.hasName_iff, AttributeDefinition.hasName_iff]
    constructor
    · intro spells
      rwa [alone wanted isWanted first spellsFirst spells]
    · intro spells
      rwa [alone wanted isWanted second spellsSecond spells]
  have any : (AttributeSet.around before first value after).names.any wanted.definition.hasName =
      (AttributeSet.around before second value after).names.any wanted.definition.hasName := by
    rw [Bool.eq_iff_iff, List.any_eq_true, List.any_eq_true]
    exact AttributeSet.exists_mem_names_around alike before value after
  rw [any]

/-- Spellings of an attribute that is told apart from the others and named properly come to the
same. -/
theorem Distinguishes.interchanges (alone : rule.Distinguishes known)
    (isKnown : known ∈ rule.attributes) (proper : rule.NamesProperly known)
    (spellsFirst : first ∈ known.definition.spellings)
    (spellsSecond : second ∈ known.definition.spellings)
    (before : List (String × String)) (value : String) (after : List (String × String)) :
    rule.Interchanges first second value (.around before first value after)
      (.around before second value after) := by
  have foundFirst := alone.attribute?_eq_some isKnown spellsFirst
  have foundSecond := alone.attribute?_eq_some isKnown spellsSecond
  have carried {entry : String}
      (listed : entry ∈ rule.definition.oneOf ++ rule.definition.exclusive) :=
    carries_around_iff isKnown alone spellsFirst spellsSecond (proper entry listed) before value after
  constructor
  case allows => simp [foundFirst, foundSecond]
  case deprecated => simp [foundFirst, foundSecond]
  case lacking => rw [lacking_around alone spellsFirst spellsSecond]
  case oneOf =>
    exact exists_congr fun entry => and_congr_right fun listed =>
      carried (List.mem_append_left _ listed)
  case exclusive =>
    refine not_congr (List.Pairwise.iff_of_mem fun {one other} isOne isOther => not_congr ?_)
    rw [carried (List.mem_append_right _ isOne), carried (List.mem_append_right _ isOther)]

/-! ## The codes of an element -/

section Codes

variable (rules : RuleSet) (context : Context) (tag : String) (occurrences : Nat)

/-- The codes under which a rule reports an element, check by check. -/
theorem map_code_findings (attributes : AttributeSet) :
    (rule.findings rules context tag attributes occurrences).map (·.code) =
      (rule.deprecationFindings context tag ++ rule.uniquenessFindings context tag occurrences ++
          rule.parentFindings context tag).map (·.code) ++
        (attributes.entries.flatMap (fun entry =>
            (attributeFindings rules rule context tag entry.1 entry.2).map (·.code)) ++
          ((rule.missingFindings context tag attributes).map (·.code) ++
            ((rule.oneOfFindings context tag attributes).map (·.code) ++
              (rule.exclusiveFindings context tag attributes).map (·.code)))) := by
  simp only [findings, List.map_map, Function.comp_def, Violation.code_documentedAt,
    List.map_append, List.map_flatMap, List.append_assoc]

/-- The codes of one attribute say whether its value is allowed and whether it is deprecated. -/
theorem map_code_attributeFindings {name : String} (found : rule.attribute? name = some known)
    (value : String) :
    (attributeFindings rules rule context tag name value).map (·.code) =
      (if known.allows value then [] else [.invalidAttrValue]) ++
        if known.definition.replacement.isSome then [.deprecatedAttr] else [] := by
  rw [attributeFindings, found]
  dsimp only
  rw [knownAttributeFindings, List.map_append]
  congr 1
  · split <;> simp
  · cases known.definition.replacement <;> simp

/-- The codes of an attribute under two names are the same if its value is allowed under both or under
none, and what is found under either name is deprecated or none of it. -/
theorem map_code_around_eq_iff {one other : AttributeRule}
    (foundFirst : rule.attribute? first = some one) (foundSecond : rule.attribute? second = some other)
    (before : List (String × String)) (value : String) (after : List (String × String)) :
    (AttributeSet.around before first value after).entries.flatMap (fun entry =>
          (attributeFindings rules rule context tag entry.1 entry.2).map (·.code)) =
        (AttributeSet.around before second value after).entries.flatMap (fun entry =>
          (attributeFindings rules rule context tag entry.1 entry.2).map (·.code)) ↔
      one.allows value = other.allows value ∧
        one.definition.replacement.isSome = other.definition.replacement.isSome := by
  simp only [AttributeSet.around, List.flatMap_append, List.flatMap_cons, List.append_right_inj,
    List.append_left_inj]
  rw [map_code_attributeFindings rules context tag foundFirst,
    map_code_attributeFindings rules context tag foundSecond]
  cases one.allows value <;> cases other.allows value <;>
    cases one.definition.replacement.isSome <;> cases other.definition.replacement.isSome <;>
      decide

theorem map_code_missingFindings_eq_iff (attributes others : AttributeSet) :
    (rule.missingFindings context tag attributes).map (·.code) =
        (rule.missingFindings context tag others).map (·.code) ↔
      (rule.lacking attributes).length = (rule.lacking others).length := by
  simp only [missingFindings, List.map_map, Function.comp_def, Violation.code_found,
    List.map_const', List.replicate_inj, or_true, and_true, lacking]

theorem map_code_oneOfFindings_eq_iff (attributes others : AttributeSet) :
    (rule.oneOfFindings context tag attributes).map (·.code) =
        (rule.oneOfFindings context tag others).map (·.code) ↔
      ((∃ entry ∈ rule.definition.oneOf, rule.Carries attributes entry) ↔
        ∃ entry ∈ rule.definition.oneOf, rule.Carries others entry) := by
  simp only [oneOfFindings, Bool.or_eq_true, List.isEmpty_iff, List.any_eq_true, carries_iff]
  by_cases nothing : rule.definition.oneOf = []
  · simp [nothing]
  · simp only [nothing, false_or]
    split <;> split <;> simp [*]

theorem map_code_exclusiveFindings_eq_iff (attributes others : AttributeSet) :
    (rule.exclusiveFindings context tag attributes).map (·.code) =
        (rule.exclusiveFindings context tag others).map (·.code) ↔
      (rule.CarriesTwoPlaces attributes ↔ rule.CarriesTwoPlaces others) := by
  simp only [exclusiveFindings, countP_carries_le_one_iff, ite_not]
  split <;> split <;> simp [*]

/-- The codes of two elements that differ in attributes are the same exactly if those of each check
are, because every check has codes of its own. -/
theorem map_code_findings_eq_iff (attributes others : AttributeSet) :
    (rule.findings rules context tag attributes occurrences).map (·.code) =
        (rule.findings rules context tag others occurrences).map (·.code) ↔
      attributes.entries.flatMap (fun entry =>
          (attributeFindings rules rule context tag entry.1 entry.2).map (·.code)) =
        others.entries.flatMap (fun entry =>
          (attributeFindings rules rule context tag entry.1 entry.2).map (·.code)) ∧
      (rule.missingFindings context tag attributes).map (·.code) =
        (rule.missingFindings context tag others).map (·.code) ∧
      (rule.oneOfFindings context tag attributes).map (·.code) =
        (rule.oneOfFindings context tag others).map (·.code) ∧
      (rule.exclusiveFindings context tag attributes).map (·.code) =
        (rule.exclusiveFindings context tag others).map (·.code) := by
  have given (held : AttributeSet) : ∀ code ∈ held.entries.flatMap (fun entry =>
      (attributeFindings rules rule context tag entry.1 entry.2).map (·.code)),
      code ∈ attributeCodes := by
    intro code listed
    obtain ⟨entry, _, found⟩ := List.mem_flatMap.mp listed
    obtain ⟨violation, isFound, rfl⟩ := List.mem_map.mp found
    exact code_of_mem_attributeFindings rules rule context tag entry.1 entry.2 violation isFound
  have missing (held : AttributeSet) {property : Code → Prop}
      (holds : property .mandatoryAttrMissing) :=
    Violation.forall_mem_map_code (rule.code_of_mem_missingFindings context tag held) holds
  have oneOf (held : AttributeSet) {property : Code → Prop}
      (holds : property .mandatoryOneofAttrMissing) :=
    Violation.forall_mem_map_code (rule.code_of_mem_oneOfFindings context tag held) holds
  have exclusive (held : AttributeSet) {property : Code → Prop}
      (holds : property .mutuallyExclusiveAttrs) :=
    Violation.forall_mem_map_code (rule.code_of_mem_exclusiveFindings context tag held) holds
  have notMissing (held : AttributeSet) : ∀ code ∈
      (rule.oneOfFindings context tag held).map (·.code) ++
        (rule.exclusiveFindings context tag held).map (·.code), code ≠ .mandatoryAttrMissing :=
    List.forall_mem_append.mpr ⟨oneOf held nofun, exclusive held nofun⟩
  have notGiven (held : AttributeSet) : ∀ code ∈
      (rule.missingFindings context tag held).map (·.code) ++
        ((rule.oneOfFindings context tag held).map (·.code) ++
          (rule.exclusiveFindings context tag held).map (·.code)), code ∉ attributeCodes :=
    List.forall_mem_append.mpr ⟨missing held (by decide),
      List.forall_mem_append.mpr ⟨oneOf held (by decide), exclusive held (by decide)⟩⟩
  rw [map_code_findings, map_code_findings, List.append_right_inj,
    append_eq_append_iff_of_apart (· ∈ attributeCodes) (given attributes) (given others)
      (notGiven attributes) (notGiven others),
    append_eq_append_iff_of_apart (· = .mandatoryAttrMissing) (missing attributes rfl)
      (missing others rfl) (notMissing attributes) (notMissing others),
    append_eq_append_iff_of_apart (· = .mandatoryOneofAttrMissing) (oneOf attributes rfl)
      (oneOf others rfl) (exclusive attributes nofun) (exclusive others nofun)]

/-- An attribute that is given under another spelling leaves all codes as they are exactly if the two
come to the same. -/
theorem map_code_findings_around_iff (isKnown : known ∈ rule.attributes)
    (spellsFirst : first ∈ known.definition.spellings)
    (spellsSecond : second ∈ known.definition.spellings)
    (before : List (String × String)) (value : String) (after : List (String × String)) :
    (rule.findings rules context tag (.around before first value after) occurrences).map (·.code) =
        (rule.findings rules context tag (.around before second value after) occurrences).map
          (·.code) ↔
      rule.Interchanges first second value (.around before first value after)
        (.around before second value after) := by
  obtain ⟨one, foundFirst⟩ := exists_attribute?_eq_some isKnown spellsFirst
  obtain ⟨other, foundSecond⟩ := exists_attribute?_eq_some isKnown spellsSecond
  rw [map_code_findings_eq_iff, map_code_around_eq_iff rules context tag foundFirst foundSecond,
    map_code_missingFindings_eq_iff, map_code_oneOfFindings_eq_iff,
    map_code_exclusiveFindings_eq_iff, interchanges_iff]
  simp only [foundFirst, foundSecond, Option.mem_some_iff, forall_eq', and_assoc]

end Codes

end TagRule

/-! ## What is reported -/

namespace RuleSet

open RuleTable (picture pictures pictureAttributes source)
open Run (freshlyTurned)

variable (rules : RuleSet)

/-- An attribute that is given under another of its spellings, with its value and in its place, leaves
the codes that are reported as they are, if no other attribute shares a spelling with it and the lists
of the rule name it by its proper name alone. In general it does so exactly if the two spellings come
to the same in every check. -/
theorem askTag_respelled {tag : String} {rule : TagRule} (defined : rules.tag? tag = some rule)
    {known : AttributeRule} (isKnown : known ∈ rule.attributes) {first second : String}
    (spellsFirst : first ∈ known.definition.spellings)
    (spellsSecond : second ∈ known.definition.spellings) (run : Run Tally)
    (before : List (String × String)) (value : String) (after : List (String × String)) :
    let codes (name : String) : List Code :=
      (run.appended rules.inspector tag (.around before name value after)).map (·.code)
    (rule.Distinguishes known → rule.NamesProperly known → codes first = codes second) ∧
      (run.context.phase = .local → run.audit.isClosed = false →
        (codes first = codes second ↔
          rule.Interchanges first second value (.around before first value after)
            (.around before second value after))) := by
  intro codes
  have exact_iff (isLocal : run.context.phase = .local) (isOpen : run.audit.isClosed = false) :
      codes first = codes second ↔
        rule.Interchanges first second value (.around before first value after)
          (.around before second value after) := by
    have found (name : String) : codes name =
        (rule.findings rules run.context tag (.around before name value after)
          (run.state.count tag + 1)).map (·.code) := by
      simp only [codes, rules.appended_of_defined defined isLocal isOpen]
    rw [found, found]
    exact TagRule.map_code_findings_around_iff rules run.context tag _ isKnown spellsFirst
      spellsSecond before value after
  refine ⟨fun alone proper => ?_, exact_iff⟩
  by_cases asks : run.context.phase = .local ∧ run.audit.isClosed = false
  · exact (exact_iff asks.1 asks.2).mpr
      (alone.interchanges isKnown proper spellsFirst spellsSecond before value after)
  · simp only [codes, rules.appended_of_not_local asks]

/-- A picture has a source and a set of sources, and an attribute that it may not have. In whichever
spelling the source is given, the same is reported. -/
theorem askTag_respelled_source :
    ∃ rules rule known, compile (pictures ["src"] ["src", "srcset"]) = .ok rules ∧
      rules.tag? "amp-img" = some rule ∧ known ∈ rule.attributes ∧
      "src" ∈ known.definition.spellings ∧ "data-src" ∈ known.definition.spellings ∧
      rule.Distinguishes known ∧ rule.NamesProperly known ∧
      ∀ name ∈ ["src", "data-src"], (freshlyTurned.appended rules.inspector "amp-img"
        (.around [("onclick", "x()")] name "a.png" [("srcset", "a.png 1x")])).map (·.code) =
          [.disallowedAttr, .mutuallyExclusiveAttrs] := by
  let known : AttributeRule := ⟨source, none⟩
  let rule : TagRule := ⟨picture ["src"] ["src", "srcset"], pictureAttributes⟩
  let rules : RuleSet := ⟨"pictures", none, [], [rule]⟩
  have defined : rules.tag? "amp-img" = some rule := by decide +kernel
  have isKnown : known ∈ rule.attributes := by decide +kernel
  have spellsFirst : "src" ∈ known.definition.spellings := by decide +kernel
  have spellsSecond : "data-src" ∈ known.definition.spellings := by decide +kernel
  have alone : rule.Distinguishes known := by decide +kernel
  have proper : rule.NamesProperly known := by decide +kernel
  obtain ⟨same, _⟩ := rules.askTag_respelled defined isKnown spellsFirst spellsSecond freshlyTurned
    [("onclick", "x()")] "a.png" [("srcset", "a.png 1x")]
  have reported : (freshlyTurned.appended rules.inspector "amp-img"
      (.around [("onclick", "x()")] "src" "a.png" [("srcset", "a.png 1x")])).map (·.code) =
        [.disallowedAttr, .mutuallyExclusiveAttrs] := by decide +kernel
  refine ⟨rules, rule, known, by decide +kernel, defined, isKnown, spellsFirst, spellsSecond, alone,
    proper, ?_⟩
  rw [List.forall_mem_cons, List.forall_mem_singleton]
  exact ⟨reported, (same alone proper).symm.trans reported⟩

/-- The spellings of an attribute do not in general come to the same: if a picture must have one of
some attributes, and the source is listed among them in its second spelling, a source in the first
one does not count. -/
theorem source_spelled_otherwise :
    ¬∀ (table : RuleTable) (rules : RuleSet) (tag : String) (rule : TagRule) (known : AttributeRule)
      (first second : String) (run : Run Tally) (before after : List (String × String))
      (value : String), compile table = .ok rules → rules.tag? tag = some rule →
        known ∈ rule.attributes → first ∈ known.definition.spellings →
          second ∈ known.definition.spellings →
            (AttributeSet.around before first value after).names.Nodup →
              second ∉ (AttributeSet.around before first value after).names →
                (run.appended rules.inspector tag (.around before first value after)).map (·.code) =
                  (run.appended rules.inspector tag (.around before second value after)).map
                    (·.code) := by
  intro same
  let known : AttributeRule := ⟨source, none⟩
  let rule : TagRule := ⟨picture ["data-src", "srcset"] [], pictureAttributes⟩
  let rules : RuleSet := ⟨"pictures", none, [], [rule]⟩
  have compiled : compile (pictures ["data-src", "srcset"] []) = .ok rules := by decide +kernel
  have alike := same _ rules "amp-img" rule known "src" "data-src" freshlyTurned [] [] "a.png"
    compiled (by decide +kernel) (by decide +kernel) (by decide +kernel) (by decide +kernel)
    (by decide +kernel) (by decide +kernel)
  revert alike
  decide +kernel

end RuleSet

end MarkupAudit
