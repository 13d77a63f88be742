/-
# Why something is found

Every violation in the audit of a validation has a cause: a defect of one of the elements, a tag
that every document must have and this one lacks, or a tag that is lacking although another tag
requires it. A cause is said in terms of the rules and of the document. The code and the parameters
of the violation follow from it, and so does the element that the violation points at.

What holds of everything that a validation can find is therefore proved by cases on causes, without
another look at the checks.
-/

import MarkupAudit.Proofs.Rules.Conformance
import MarkupAudit.Proofs.Rules.Origin

namespace MarkupAudit

/-! ## Defects of elements -/

/-- What can be wrong with an element. -/
inductive Defect where
  /-- Its tag has no rule. -/
  | disallowedTag
  | deprecatedTag (replacement : String)
  /-- Its tag may occur only once, and another element before it has this tag. -/
  | repeatedTag
  | wrongParent (parent expected : String)
  | disallowedAttribute (name : String)
  | invalidValue (name value : String)
  | deprecatedAttribute (name replacement : String)
  /-- It lacks an attribute, given by its proper name. -/
  | missingAttribute (name : String)
  /-- It has none of these attributes, though it must have one. -/
  | missingChoice (names : List String)
  /-- It has more of these attributes than one. -/
  | exclusiveAttributes (names : List String)

namespace Defect

/-- The code under which a defect is reported. -/
def code : Defect → Code
  | disallowedTag => .disallowedTag
  | deprecatedTag _ => .deprecatedTag
  | repeatedTag => .duplicateUniqueTag
  | wrongParent _ _ => .wrongParentTag
  | disallowedAttribute _ => .disallowedAttr
  | invalidValue _ _ => .invalidAttrValue
  | deprecatedAttribute _ _ => .deprecatedAttr
  | missingAttribute _ => .mandatoryAttrMissing
  | missingChoice _ => .mandatoryOneofAttrMissing
  | exclusiveAttributes _ => .mutuallyExclusiveAttrs

/-- The parameters with which a defect of an element with a given tag is reported. -/
def params (tag : String) : Defect → List String
  | disallowedTag => [tag]
  | deprecatedTag replacement => [tag, replacement]
  | repeatedTag => [tag]
  | wrongParent parent expected => [tag, parent, expected]
  | disallowedAttribute name => [name, tag]
  | invalidValue name value => [name, tag, value]
  | deprecatedAttribute name replacement => [name, tag, replacement]
  | missingAttribute name => [name, tag]
  | missingChoice names => [tag, listParam names]
  | exclusiveAttributes names => [tag, listParam names]

/-- The attribute that a defect is about, if it is about a single one. -/
def attribute? : Defect → Option String
  | disallowedAttribute name => some name
  | invalidValue name _ => some name
  | deprecatedAttribute name _ => some name
  | missingAttribute name => some name
  | _ => none

/-- A defect by the rule of a tag: of an element with some attributes, below a parent with a given
name, that is the last of so many with its tag. -/
inductive Breaks (rules : RuleSet) (rule : TagRule) (parent : String) (attributes : AttributeSet)
    (occurrences : Nat) : Defect → Prop where
  | deprecatedTag {replacement : String} : rule.definition.replacement = some replacement →
      Breaks rules rule parent attributes occurrences (.deprecatedTag replacement)
  | repeatedTag : rule.definition.unique = true → 1 < occurrences →
      Breaks rules rule parent attributes occurrences .repeatedTag
  | wrongParent {expected : String} : rule.definition.mandatoryParent = some expected →
      parent ≠ expected →
        Breaks rules rule parent attributes occurrences (.wrongParent parent expected)
  | disallowedAttribute {name value : String} : (name, value) ∈ attributes.entries →
      rule.attribute? name = none → ¬rule.Permits rules name value →
        Breaks rules rule parent attributes occurrences (.disallowedAttribute name)
  | invalidValue {name value : String} {known : AttributeRule} :
      (name, value) ∈ attributes.entries → rule.attribute? name = some known →
        ¬rule.Permits rules name value →
          Breaks rules rule parent attributes occurrences (.invalidValue name value)
  | deprecatedAttribute {name value replacement : String} {known : AttributeRule} :
      (name, value) ∈ attributes.entries → rule.attribute? name = some known →
        known.definition.replacement = some replacement →
          Breaks rules rule parent attributes occurrences (.deprecatedAttribute name replacement)
  | missingAttribute {wanted : AttributeRule} : wanted ∈ rule.attributes →
      wanted.definition.mandatory = true →
        (∀ name ∈ attributes.names, wanted.definition.hasName name = false) →
          Breaks rules rule parent attributes occurrences
            (.missingAttribute wanted.definition.name)
  | missingChoice : rule.definition.oneOf ≠ [] →
      (∀ name ∈ rule.definition.oneOf, ¬rule.Carries attributes name) →
        Breaks rules rule parent attributes occurrences (.missingChoice rule.definition.oneOf)
  | exclusiveAttributes :
      ¬rule.definition.exclusive.Pairwise (fun first second =>
        ¬(rule.Carries attributes first ∧ rule.Carries attributes second)) →
        Breaks rules rule parent attributes occurrences
          (.exclusiveAttributes rule.definition.exclusive)

/-- An element of a document has a defect. -/
inductive Holds (rules : RuleSet) (document : Document) (element : Element) : Defect → Prop where
  | disallowedTag : rules.tag? element.name = none → Holds rules document element .disallowedTag
  | broken {rule : TagRule} {before after : List Element} {defect : Defect} :
      rules.tag? element.name = some rule → document.walk = before ++ element :: after →
        defect.Breaks rules rule (document.parentName element) element.attributes
          ((before.map (·.name)).count element.name + 1) →
          Holds rules document element defect

end Defect

/-! ## Causes -/

/-- Why something is reported of a document. -/
inductive Cause where
  /-- A defect of one of its elements. -/
  | onElement (element : Element) (defect : Defect)
  /-- A tag that every document must have does not occur. -/
  | missingTag (tag : String)
  /-- A tag does not occur that one which occurs requires. -/
  | missingRequirement (missing requiring : String)

namespace Cause

def code : Cause → Code
  | onElement _ defect => defect.code
  | missingTag _ => .mandatoryTagMissing
  | missingRequirement _ _ => .tagRequiredByMissing

def params : Cause → List String
  | onElement element defect => defect.params element.name
  | missingTag tag => [tag]
  | missingRequirement missing requiring => [missing, requiring]

/-- The tag on account of which something is reported: that of the element, or the missing one, or
the one that requires another. -/
def tag : Cause → String
  | onElement element _ => element.name
  | missingTag tag => tag
  | missingRequirement _ requiring => requiring

/-- The attribute that a cause is about, if it is about a single one. -/
def attribute? : Cause → Option String
  | onElement _ defect => defect.attribute?
  | _ => none

/-- What a cause says is true of a document under some rules. -/
inductive Holds (rules : RuleSet) (document : Document) : Cause → Prop where
  | onElement {element : Element} {defect : Defect} : element ∈ document.walk →
      defect.Holds rules document element → Holds rules document (.onElement element defect)
  | missingTag {rule : TagRule} : rule ∈ rules.tags → rule.definition.mandatory = true →
      rule.definition.name ∉ document.walk.map (·.name) →
        Holds rules document (.missingTag rule.definition.name)
  | missingRequirement {element : Element} {rule : TagRule} {missing : String} :
      element ∈ document.walk → rules.tag? element.name = some rule →
        missing ∈ rule.definition.requires → missing ∉ document.walk.map (·.name) →
          Holds rules document (.missingRequirement missing element.name)

end Cause

/-! ## What violations tell -/

namespace Violation

/-- A violation has a given code and given parameters. -/
structure Tells (violation : Violation) (code : Code) (params : List String) : Prop where
  code_eq : violation.code = code
  params_eq : violation.params = params

variable {violation : Violation} {code : Code} {params : List String}

theorem tells_found (context : Context) (code : Code) (params : List String) :
    (found context code params).Tells code params := by
  unfold found
  cases context.phase <;> exact ⟨rfl, rfl⟩

theorem Tells.asWarning (tells : violation.Tells code params) :
    violation.asWarning.Tells code params :=
  ⟨tells.code_eq, tells.params_eq⟩

theorem Tells.documentedAt (tells : violation.Tells code params) (url : Option String) :
    (violation.documentedAt url).Tells code params := by
  cases url with
  | none => exact tells
  | some url => exact ⟨tells.code_eq, tells.params_eq⟩

theorem Tells.categorized (tells : violation.Tells code params) :
    violation.categorized.Tells code params :=
  ⟨tells.code_eq, tells.params_eq⟩

/-- Every one of some violations tells of a defect, one of a kind, of an element with a given
tag. -/
def TellOf (tag : String) (kind : Defect → Prop) (violations : List Violation) : Prop :=
  ∀ violation ∈ violations, ∃ defect, kind defect ∧ violation.Tells defect.code (defect.params tag)

variable {tag : String} {kind : Defect → Prop}

theorem tellOf_nil : TellOf tag kind [] := by
  intro violation listed
  cases listed

theorem tellOf_singleton {defect : Defect} (isKind : kind defect)
    (tells : violation.Tells defect.code (defect.params tag)) : TellOf tag kind [violation] :=
  List.forall_mem_singleton.mpr ⟨defect, isKind, tells⟩

theorem TellOf.append {first second : List Violation} (earlier : TellOf tag kind first)
    (later : TellOf tag kind second) : TellOf tag kind (first ++ second) :=
  List.forall_mem_append.mpr ⟨earlier, later⟩

end Violation

/-! ## What the checks find -/

namespace TagRule

open Defect (Breaks)
open Violation (TellOf tellOf_nil tellOf_singleton tells_found)

variable (rules : RuleSet) (rule : TagRule) (context : Context) (tag : String)
  (attributes : AttributeSet) (occurrences : Nat)

/-- The defects by a rule of an element that is being checked in a context. -/
def Defects : Defect → Prop :=
  Breaks rules rule (context.parent.getD noParent) attributes occurrences

theorem tellOf_deprecationFindings :
    TellOf tag (rule.Defects rules context attributes occurrences)
      (rule.deprecationFindings context tag) := by
  unfold deprecationFindings
  split
  · exact tellOf_nil
  · rename_i deprecated
    exact tellOf_singleton (.deprecatedTag deprecated) (tells_found _ _ _).asWarning

theorem tellOf_uniquenessFindings :
    TellOf tag (rule.Defects rules context attributes occurrences)
      (rule.uniquenessFindings context tag occurrences) := by
  unfold uniquenessFindings
  split
  · rename_i repeated
    exact tellOf_singleton (.repeatedTag repeated.1 repeated.2) (tells_found _ _ _)
  · exact tellOf_nil

theorem tellOf_parentFindings :
    TellOf tag (rule.Defects rules context attributes occurrences)
      (rule.parentFindings context tag) := by
  unfold parentFindings
  split
  · exact tellOf_nil
  · rename_i expected placed
    dsimp only
    split
    · exact tellOf_nil
    · rename_i other
      exact tellOf_singleton (.wrongParent placed other) (tells_found _ _ _)

theorem tellOf_attributeFindings {name value : String}
    (given : (name, value) ∈ attributes.entries) :
    TellOf tag (rule.Defects rules context attributes occurrences)
      (attributeFindings rules rule context tag name value) := by
  unfold attributeFindings
  split
  · rename_i known defined
    apply TellOf.append
    · split
      · exact tellOf_nil
      · rename_i refused
        rw [← permits_of_known rules rule defined value] at refused
        exact tellOf_singleton (.invalidValue given defined refused) (tells_found _ _ _)
    · split
      · exact tellOf_nil
      · rename_i deprecated
        exact tellOf_singleton (.deprecatedAttribute given defined deprecated)
          (tells_found _ _ _).asWarning
  · rename_i undefined
    split
    · exact tellOf_nil
    · rename_i refused
      rw [← permits_of_unknown rules rule undefined value] at refused
      exact tellOf_singleton (.disallowedAttribute given undefined refused) (tells_found _ _ _)

theorem tellOf_missingFindings :
    TellOf tag (rule.Defects rules context attributes occurrences)
      (rule.missingFindings context tag attributes) := by
  intro violation listed
  obtain ⟨wanted, chosen, rfl⟩ := List.mem_map.mp listed
  obtain ⟨defined, needed⟩ := List.mem_filter.mp chosen
  rw [Bool.and_eq_true, Bool.not_eq_true', List.any_eq_false] at needed
  refine ⟨_, .missingAttribute defined needed.1 fun name given => ?_, tells_found _ _ _⟩
  exact Bool.eq_false_iff.mpr (needed.2 name given)

theorem tellOf_oneOfFindings :
    TellOf tag (rule.Defects rules context attributes occurrences)
      (rule.oneOfFindings context tag attributes) := by
  unfold oneOfFindings
  dsimp only
  split
  · exact tellOf_nil
  · rename_i lacking
    rw [Bool.or_eq_true, not_or, List.isEmpty_iff, List.any_eq_true] at lacking
    refine tellOf_singleton (.missingChoice lacking.1 fun name listed carried => ?_)
      (tells_found _ _ _)
    exact lacking.2 ⟨name, listed, (rule.carries_iff attributes name).mpr carried⟩

theorem tellOf_exclusiveFindings :
    TellOf tag (rule.Defects rules context attributes occurrences)
      (rule.exclusiveFindings context tag attributes) := by
  unfold exclusiveFindings
  dsimp only
  split
  · exact tellOf_nil
  · rename_i several
    rw [countP_le_one_iff] at several
    simp only [carries_iff] at several
    exact tellOf_singleton (.exclusiveAttributes several) (tells_found _ _ _)

/-- Whatever is found on account of a rule tells of a defect by this rule. -/
theorem tellOf_findings :
    TellOf tag (rule.Defects rules context attributes occurrences)
      (rule.findings rules context tag attributes occurrences) := by
  have attributeFindings : TellOf tag (rule.Defects rules context attributes occurrences)
      (attributes.entries.flatMap fun entry =>
        attributeFindings rules rule context tag entry.1 entry.2) := by
    intro violation listed
    obtain ⟨entry, given, found⟩ := List.mem_flatMap.mp listed
    exact tellOf_attributeFindings rules rule context tag attributes occurrences given _ found
  have all := (rule.tellOf_deprecationFindings rules context tag attributes occurrences)
    |>.append (rule.tellOf_uniquenessFindings rules context tag attributes occurrences)
    |>.append (rule.tellOf_parentFindings rules context tag attributes occurrences)
    |>.append attributeFindings
    |>.append (rule.tellOf_missingFindings rules context tag attributes occurrences)
    |>.append (rule.tellOf_oneOfFindings rules context tag attributes occurrences)
    |>.append (rule.tellOf_exclusiveFindings rules context tag attributes occurrences)
  intro violation listed
  obtain ⟨origin, found, rfl⟩ := List.mem_map.mp listed
  obtain ⟨defect, isDefect, tells⟩ := all origin found
  exact ⟨defect, isDefect, tells.documentedAt _⟩

end TagRule

/-! ## Everything that is found has a cause -/

namespace Cause

/-- A violation tells of its cause, and points at the element that has the defect or, if none has
one, at the document. -/
structure Explains (cause : Cause) (violation : Violation) : Prop where
  tells : violation.Tells cause.code cause.params
  place : match cause with
    | onElement element _ => violation.IsOn element
    | _ => violation.IsOnDocument

theorem Explains.categorized {cause : Cause} {violation : Violation}
    (explains : cause.Explains violation) : cause.Explains violation.categorized := by
  refine ⟨explains.tells.categorized, ?_⟩
  have place := explains.place
  cases cause with
  | onElement => exact place.categorized
  | missingTag => exact place.categorized
  | missingRequirement => exact place.categorized

end Cause

namespace RuleSet

variable (rules : RuleSet) (document : Document)

/-- What is found on elements in a row is found on one of them, which comes after others. -/
theorem mem_visitFindings {before : List String} {elements : List Element} {violation : Violation}
    (listed : violation ∈ rules.visitFindings document before elements) :
    ∃ earlier element later, elements = earlier ++ element :: later ∧
      violation ∈ rules.elementFindings document element
        ((before ++ earlier.map (·.name)).count element.name + 1) := by
  induction elements generalizing before with
  | nil => cases listed
  | cons first rest ih =>
      rcases List.mem_append.mp listed with here | there
      · exact ⟨[], first, rest, rfl, by simpa using here⟩
      · obtain ⟨earlier, element, later, split, found⟩ := ih there
        refine ⟨first :: earlier, element, later, by rw [split, List.cons_append], ?_⟩
        rwa [List.map_cons, List.append_cons]

theorem exists_cause_of_mem_visitFindings {violation : Violation}
    (listed : violation ∈ rules.visitFindings document [] document.walk) :
    ∃ cause : Cause, cause.Holds rules document ∧ cause.Explains violation := by
  obtain ⟨earlier, element, later, split, found⟩ := rules.mem_visitFindings document listed
  have inside : element ∈ document.walk := split ▸ List.mem_append_right _ List.mem_cons_self
  have place := rules.isOn_elementFindings document element _ violation found
  rw [List.nil_append] at found
  unfold elementFindings tagFindings at found
  split at found
  · rename_i undefined
    obtain rfl := List.mem_singleton.mp found
    exact ⟨.onElement element .disallowedTag, .onElement inside (.disallowedTag undefined),
      Violation.tells_found _ _ _, place⟩
  · rename_i rule defined
    obtain ⟨defect, breaks, tells⟩ := TagRule.tellOf_findings _ _ _ _ _ _ violation found
    exact ⟨.onElement element defect, .onElement inside (.broken defined split breaks), tells,
      place⟩

theorem exists_cause_of_mem_documentFindings {violation : Violation}
    (listed : violation ∈ rules.documentFindings (document.walk.map (·.name))) :
    ∃ cause : Cause, cause.Holds rules document ∧ cause.Explains violation := by
  have place := rules.isOnDocument_documentFindings _ violation listed
  have absent {tag : String}
      (uncounted : ((Tally.ofNames (document.walk.map (·.name))).count tag == 0) = true) :
      tag ∉ document.walk.map (·.name) := by
    rwa [Tally.count_ofNames, beq_iff_eq, List.count_eq_zero] at uncounted
  rcases List.mem_append.mp listed with missing | required
  · obtain ⟨rule, chosen, rfl⟩ := List.mem_map.mp missing
    obtain ⟨defined, needed⟩ := List.mem_filter.mp chosen
    rw [Bool.and_eq_true] at needed
    exact ⟨.missingTag rule.definition.name, .missingTag defined needed.1 (absent needed.2),
      (Violation.tells_found _ _ _).documentedAt _, place⟩
  · obtain ⟨tag, seen, found⟩ := List.mem_flatMap.mp required
    split at found
    · cases found
    · rename_i rule defined
      obtain ⟨name, chosen, rfl⟩ := List.mem_map.mp found
      obtain ⟨demanded, unseen⟩ := List.mem_filter.mp chosen
      obtain ⟨element, inside, rfl⟩ := List.mem_map.mp ((Tally.mem_tags_ofNames _ _).mp seen)
      exact ⟨.missingRequirement name element.name,
        .missingRequirement inside defined demanded (absent unseen),
        (Violation.tells_found _ _ _).documentedAt _, place⟩

/-- Every violation in the audit of a validation has a cause, and its category has been assigned. -/
theorem exists_cause_validate :
    ∃ audit, rules.validate document = .ok audit ∧
      ∀ violation ∈ audit.violations.toList, ∃ cause : Cause, cause.Holds rules document ∧
        cause.Explains violation ∧
          violation.category = some (Category.of cause.code cause.params) := by
  obtain ⟨audit, validated, found, _⟩ := rules.validate_eq_ok document
  refine ⟨audit, validated, fun violation listed => ?_⟩
  rw [found] at listed
  obtain ⟨origin, isFinding, rfl⟩ := List.mem_map.mp listed
  obtain ⟨cause, holds, explains⟩ : ∃ cause : Cause, cause.Holds rules document ∧
      cause.Explains origin := by
    rcases List.mem_append.mp isFinding with visit | whole
    · exact rules.exists_cause_of_mem_visitFindings document visit
    · exact rules.exists_cause_of_mem_documentFindings document whole
  refine ⟨cause, holds, explains.categorized, ?_⟩
  rw [← explains.tells.code_eq, ← explains.tells.params_eq]
  rfl

/-! ### A page with defects -/

/-- Rules for pages with navigation, whose paragraphs have a width. -/
def sized : RuleSet where
  name := "sized"
  version := none
  globalAttributes := ["lang"]
  tags := [
    ⟨TagDefinition.plain "html", []⟩,
    ⟨{ TagDefinition.plain "p" with requires := ["nav"] },
      [⟨{ AttributeDefinition.attr "width" with mandatory := true }, none⟩]⟩]

/-- A paragraph has no width. -/
def widthMissing (id : ElementId) : Violation :=
  Violation.categorized
    { Violation.ofDocument .mandatoryAttrMissing ["width", "p"] with
      phase := .local, element := some id, line := 2, heading := "p" }

/-- The two paragraphs of the page have no width, and there is no navigation. -/
theorem validate_sized :
    sized.validate .page =
      .ok ⟨.fail,
        #[widthMissing ⟨1⟩, widthMissing ⟨2⟩,
          (Violation.ofDocument .tagRequiredByMissing ["nav", "p"]).categorized], 3, false⟩ := by
  decide +kernel

end RuleSet

end MarkupAudit
