/-
# Conformance

What it means for a document to keep the rules, said of the document as a whole and without a
walk, counters or violations: every tag has a rule, every element is where and as its rule wants
it, unique tags occur once, and the tags that have to occur do. Deprecation is not part of it.

A validation passes exactly the documents that conform. For every kind of check there is one
lemma that says when it finds no error, and the sum of these is the theorem.
-/

import Mathlib.Data.List.Pairwise
import Mathlib.Tactic.MkIffOfInductiveProp
import MarkupAudit.Proofs.Rules.Findings
import MarkupAudit.Rules.Builtin

namespace MarkupAudit

open Violation (AllWarnings)

/-! ## The rules for one element -/

/-- The name of the parent of an element; an element without one has a name of its own for it. -/
def Document.parentName (document : Document) (element : Element) : String :=
  (element.parent.bind fun id => (document.get? id).map (·.name)).getD noParent

namespace TagRule

/-- Some attributes carry the one named: under this name, or under another name of the attribute
whose proper name it is. -/
def Carries (rule : TagRule) (attributes : AttributeSet) (name : String) : Prop :=
  ∃ given ∈ attributes.names,
    given = name ∨ ∃ known ∈ rule.attribute? given, known.definition.name = name

/-- A tag may have an attribute with a given value: it is defined for the tag and the value
matches its pattern, or it is undefined and allowed on every tag. -/
def Permits (rules : RuleSet) (rule : TagRule) (name value : String) : Prop :=
  match rule.attribute? name with
  | some known => ∀ pattern ∈ known.pattern, pattern.accepts value = true
  | none => name ∈ rules.globalAttributes ∨ dataStart.toList <+: name.toList

/-- An element with some attributes, below a parent with a given name, keeps the rule of its
tag. -/
@[mk_iff]
structure Admits (rules : RuleSet) (rule : TagRule) (parent : String)
    (attributes : AttributeSet) : Prop where
  /-- It is where it has to be. -/
  parent_eq : ∀ expected ∈ rule.definition.mandatoryParent, parent = expected
  /-- It has no attribute that it may not have. -/
  permitted : ∀ entry ∈ attributes.entries, rule.Permits rules entry.1 entry.2
  /-- It has every attribute that it must have, under one of its names. -/
  complete : ∀ wanted ∈ rule.attributes, wanted.definition.mandatory = true →
    ∃ name ∈ attributes.names,
      wanted.definition.name = name ∨ name ∈ wanted.definition.alternatives
  /-- It has one of the attributes of which it must have one. -/
  oneOf : rule.definition.oneOf ≠ [] →
    ∃ name ∈ rule.definition.oneOf, rule.Carries attributes name
  /-- Of the list of attributes that exclude each other, no two places are carried. -/
  exclusive : rule.definition.exclusive.Pairwise fun first second =>
    ¬(rule.Carries attributes first ∧ rule.Carries attributes second)

end TagRule

/-- A document keeps the rules. -/
@[mk_iff]
structure Conforms (rules : RuleSet) (document : Document) : Prop where
  /-- Every element has a tag with a rule, and keeps it. -/
  admitted : ∀ element ∈ document.elements, ∃ rule ∈ rules.tag? element.name,
    rule.Admits rules (document.parentName element) element.attributes
  /-- No other element has the tag of an element whose tag is unique. -/
  unique : ∀ element ∈ document.elements, ∀ rule ∈ rules.tag? element.name,
    rule.definition.unique = true →
      ∀ other ∈ document.elements, other.name = element.name → other.id = element.id
  /-- Every mandatory tag occurs. -/
  mandatory : ∀ rule ∈ rules.tags, rule.definition.mandatory = true →
    ∃ element ∈ document.elements, element.name = rule.definition.name
  /-- Every tag occurs that a tag which occurs requires. -/
  required : ∀ element ∈ document.elements, ∀ rule ∈ rules.tag? element.name,
    ∀ name ∈ rule.definition.requires, ∃ other ∈ document.elements, other.name = name

/-! ## When a check finds no error -/

namespace Violation

@[simp]
theorem severity_found (context : Context) (code : Code) (params : List String) :
    (found context code params).severity = .error := by
  unfold found
  cases context.phase <;> rfl

@[simp]
theorem severity_asWarning (violation : Violation) : violation.asWarning.severity = .warning :=
  rfl

@[simp]
theorem severity_documentedAt (violation : Violation) (url : Option String) :
    (violation.documentedAt url).severity = violation.severity := by
  cases url <;> rfl

/-- Reports of errors are all warnings only if there are none. -/
theorem allWarnings_map_errors {α : Type} {report : α → Violation}
    (errors : ∀ item, (report item).severity = .error) (items : List α) :
    AllWarnings (items.map report) ↔ items = [] := by
  cases items with
  | nil => simp
  | cons item rest => simp [errors]

end Violation

/-- Of some places at most one is counted exactly if no two of them are. -/
theorem countP_le_one_iff {α : Type} (counted : α → Bool) (items : List α) :
    items.countP counted ≤ 1 ↔
      items.Pairwise fun first second => ¬(counted first = true ∧ counted second = true) := by
  induction items with
  | nil => simp
  | cons item rest ih =>
      rw [List.pairwise_cons, ← ih]
      by_cases here : counted item = true
      · rw [List.countP_cons_of_pos here]
        constructor
        · intro few
          have nothing : rest.countP counted = 0 := by omega
          have others := List.countP_eq_zero.mp nothing
          exact ⟨fun other listed both => others other listed both.2, by omega⟩
        · rintro ⟨apart, _⟩
          have nothing : rest.countP counted = 0 :=
            List.countP_eq_zero.mpr fun other listed counts => apart other listed ⟨here, counts⟩
          omega
      · rw [List.countP_cons_of_neg here]
        exact ⟨fun few => ⟨fun _ _ both => here both.1, few⟩, fun both => both.2⟩

namespace TagRule

variable (rules : RuleSet) (rule : TagRule) (context : Context) (tag : String)
  (attributes : AttributeSet)

theorem carries_iff (name : String) :
    rule.carries attributes name = true ↔ rule.Carries attributes name := by
  simp only [carries, Carries, List.any_eq_true, Bool.or_eq_true, beq_iff_eq, Option.any_eq_true,
    Option.mem_def]

instance (name : String) : Decidable (rule.Carries attributes name) :=
  decidable_of_iff _ (carries_iff rule attributes name)

instance (name value : String) : Decidable (rule.Permits rules name value) := by
  unfold Permits
  cases rule.attribute? name <;> infer_instance

instance (parent : String) : Decidable (rule.Admits rules parent attributes) :=
  decidable_of_iff' _ (admits_iff rules rule parent attributes)

theorem allWarnings_deprecationFindings :
    AllWarnings (rule.deprecationFindings context tag) := by
  unfold deprecationFindings
  split <;> simp

theorem allWarnings_uniquenessFindings (occurrences : Nat) :
    AllWarnings (rule.uniquenessFindings context tag occurrences) ↔
      (rule.definition.unique = true → occurrences ≤ 1) := by
  unfold uniquenessFindings
  split
  · rename_i repeated
    have many : ¬occurrences ≤ 1 := Nat.not_le.mpr repeated.2
    simp [repeated.1, many]
  · rename_i single
    refine iff_of_true Violation.allWarnings_nil fun isUnique => ?_
    exact Nat.not_lt.mp fun many => single ⟨isUnique, many⟩

theorem allWarnings_parentFindings :
    AllWarnings (rule.parentFindings context tag) ↔
      ∀ expected ∈ rule.definition.mandatoryParent, context.parent.getD noParent = expected := by
  unfold parentFindings
  cases rule.definition.mandatoryParent with
  | none => simp
  | some expected =>
      dsimp only
      split <;> simp_all

/-- An attribute that the tag defines may have the values that its pattern allows. -/
theorem permits_of_known {name : String} {known : AttributeRule}
    (defined : rule.attribute? name = some known) (value : String) :
    rule.Permits rules name value ↔ known.allows value = true := by
  rw [Permits, defined, AttributeRule.allows, Option.all_eq_true]
  rfl

/-- Any other attribute may be there if every tag may have it. -/
theorem permits_of_unknown {name : String} (undefined : rule.attribute? name = none)
    (value : String) :
    rule.Permits rules name value ↔
      (rules.isGlobal name || Category.startsWith dataStart name) = true := by
  rw [Permits, undefined, Bool.or_eq_true, RuleSet.isGlobal, List.contains_iff_mem,
    Category.startsWith, List.isPrefixOf_iff_prefix]

theorem allWarnings_attributeFindings (name value : String) :
    AllWarnings (attributeFindings rules rule context tag name value) ↔
      rule.Permits rules name value := by
  unfold attributeFindings
  split
  · rename_i known defined
    rw [permits_of_known rules rule defined, knownAttributeFindings]
    cases known.definition.replacement <;> split <;> simp_all
  · rename_i undefined
    rw [permits_of_unknown rules rule undefined]
    split <;> simp_all

theorem allWarnings_missingFindings :
    AllWarnings (rule.missingFindings context tag attributes) ↔
      ∀ wanted ∈ rule.attributes, wanted.definition.mandatory = true →
        ∃ name ∈ attributes.names,
          wanted.definition.name = name ∨ name ∈ wanted.definition.alternatives := by
  rw [missingFindings, Violation.allWarnings_map_errors fun _ => Violation.severity_found _ _ _,
    List.filter_eq_nil_iff]
  refine forall₂_congr fun wanted _ => ?_
  rw [Bool.and_eq_true, not_and, Bool.not_eq_true', Bool.not_eq_false, List.any_eq_true]
  simp only [AttributeDefinition.hasName, Bool.or_eq_true, beq_iff_eq, List.contains_iff_mem]

theorem allWarnings_oneOfFindings :
    AllWarnings (rule.oneOfFindings context tag attributes) ↔
      (rule.definition.oneOf ≠ [] →
        ∃ name ∈ rule.definition.oneOf, rule.Carries attributes name) := by
  have carried : rule.definition.oneOf.any (rule.carries attributes) = true ↔
      ∃ name ∈ rule.definition.oneOf, rule.Carries attributes name := by
    simp only [List.any_eq_true, carries_iff]
  unfold oneOfFindings
  rw [← carried]
  dsimp only
  split
  · rename_i fine
    rw [Bool.or_eq_true, List.isEmpty_iff] at fine
    exact iff_of_true Violation.allWarnings_nil fun listed => fine.resolve_left listed
  · simp_all

theorem allWarnings_exclusiveFindings :
    AllWarnings (rule.exclusiveFindings context tag attributes) ↔
      rule.definition.exclusive.Pairwise fun first second =>
        ¬(rule.Carries attributes first ∧ rule.Carries attributes second) := by
  simp only [← carries_iff, ← countP_le_one_iff]
  unfold exclusiveFindings
  dsimp only
  split <;> simp_all

/-- Nothing but warnings is found on an element exactly if it keeps its rule and is not a further
occurrence of a unique tag. -/
theorem allWarnings_findings (occurrences : Nat) :
    AllWarnings (rule.findings rules context tag attributes occurrences) ↔
      rule.Admits rules (context.parent.getD noParent) attributes ∧
        (rule.definition.unique = true → occurrences ≤ 1) := by
  have keeps (violation : Violation) :
      (violation.documentedAt rule.definition.specUrl).severity = violation.severity :=
    Violation.severity_documentedAt violation _
  rw [findings, Violation.allWarnings_map keeps]
  simp only [Violation.allWarnings_append, allWarnings_deprecationFindings,
    allWarnings_uniquenessFindings, allWarnings_parentFindings,
    Violation.allWarnings_flatMap, allWarnings_attributeFindings, allWarnings_missingFindings,
    allWarnings_oneOfFindings, allWarnings_exclusiveFindings]
  constructor
  · rintro ⟨⟨⟨⟨⟨⟨_, single⟩, placed⟩, permitted⟩, complete⟩, oneOf⟩, exclusive⟩
    exact ⟨⟨placed, permitted, complete, oneOf, exclusive⟩, single⟩
  · rintro ⟨admits, single⟩
    exact ⟨⟨⟨⟨⟨⟨trivial, single⟩, admits.parent_eq⟩, admits.permitted⟩, admits.complete⟩,
      admits.oneOf⟩, admits.exclusive⟩

end TagRule

/-- Whether a document conforms can be looked up. -/
instance (rules : RuleSet) (document : Document) : Decidable (Conforms rules document) :=
  decidable_of_iff' _ (conforms_iff rules document)

/-! ## When a validation finds no error -/

/-- The elements of a list are told apart by their handles, so a name is counted at most once
exactly if no other element has it. -/
theorem count_name_le_one_iff {elements : List Element} (distinct : (elements.map (·.id)).Nodup)
    {element : Element} (listed : element ∈ elements) :
    (elements.map (·.name)).count element.name ≤ 1 ↔
      ∀ other ∈ elements, other.name = element.name → other.id = element.id := by
  let shared : Element → Bool := fun held => held.name == element.name
  have counted : (elements.map (·.name)).count element.name = elements.countP shared := by
    rw [List.count, List.countP_map]
    rfl
  have symmetric : Std.Symm fun first second => ¬(shared first = true ∧ shared second = true) :=
    ⟨fun _ _ apart both => apart both.symm⟩
  rw [counted, countP_le_one_iff]
  constructor
  · intro apart other isElement sameName
    by_contra otherId
    have different : other ≠ element := fun same => otherId (congrArg (·.id) same)
    exact apart.forall isElement listed different
      ⟨beq_iff_eq.mpr sameName, beq_iff_eq.mpr rfl⟩
  · intro only
    refine (List.Nodup.of_map _ distinct).pairwise_of_forall_ne ?_
    intro first isFirst second isSecond different both
    have sameId : first.id = second.id :=
      (only first isFirst (beq_iff_eq.mp both.1)).trans
        (only second isSecond (beq_iff_eq.mp both.2)).symm
    exact different (List.inj_on_of_nodup_map distinct isFirst isSecond sameId)

namespace RuleSet

variable (rules : RuleSet) (document : Document)

/-- Nothing but warnings is found on an element exactly if its tag has a rule that it keeps, and
it is not a further occurrence of a unique tag. -/
theorem allWarnings_elementFindings (element : Element) (occurrences : Nat) :
    AllWarnings (rules.elementFindings document element occurrences) ↔
      ∃ rule ∈ rules.tag? element.name,
        rule.Admits rules (document.parentName element) element.attributes ∧
          (rule.definition.unique = true → occurrences ≤ 1) := by
  unfold elementFindings tagFindings
  cases rules.tag? element.name with
  | none => simp
  | some rule =>
      dsimp only
      rw [TagRule.allWarnings_findings]
      simp only [Option.mem_some_iff, exists_eq_left']
      rfl

/-- Nothing but warnings is found on elements in a row exactly if each of them keeps a rule, and
those with a unique tag are the only ones of their name. -/
theorem allWarnings_visitFindings (before : List String) (elements : List Element) :
    AllWarnings (rules.visitFindings document before elements) ↔
      ∀ element ∈ elements, ∃ rule ∈ rules.tag? element.name,
        rule.Admits rules (document.parentName element) element.attributes ∧
          (rule.definition.unique = true →
            (before ++ elements.map (·.name)).count element.name ≤ 1) := by
  induction elements generalizing before with
  | nil => simp [visitFindings]
  | cons element rest ih =>
      rw [visitFindings, Violation.allWarnings_append, ih, allWarnings_elementFindings,
        List.forall_mem_cons, List.map_cons, ← List.append_cons]
      refine and_congr_left fun later => ?_
      refine exists_congr fun rule => and_congr_right fun hasRule => and_congr_right fun _ =>
        forall_congr' fun isUnique => ?_
      rw [List.count_append, List.count_cons_self]
      constructor
      · intro first
        -- Another element of the name would be a further occurrence itself.
        have absent : element.name ∉ rest.map (·.name) := by
          intro again
          obtain ⟨other, listed, same⟩ := List.mem_map.mp again
          obtain ⟨otherRule, hasOther, _, single⟩ := later other listed
          rw [same] at hasOther single
          obtain rfl := Option.mem_unique hasRule hasOther
          have twice := single isUnique
          have positive := List.count_pos_iff.mpr again
          rw [List.count_append, List.count_cons_self] at twice
          omega
        rw [List.count_eq_zero.mpr absent]
        omega
      · omega

/-- Nothing is found on a document as a whole exactly if the mandatory tags occur, and those that
the occurring ones require. -/
theorem allWarnings_documentFindings (names : List String) :
    AllWarnings (rules.documentFindings names) ↔
      (∀ rule ∈ rules.tags, rule.definition.mandatory = true → rule.definition.name ∈ names) ∧
        ∀ tag ∈ names, ∀ rule ∈ rules.tag? tag,
          ∀ name ∈ rule.definition.requires, name ∈ names := by
  have absent (name : String) : ((Tally.ofNames names).count name == 0) = true ↔ name ∉ names := by
    rw [beq_iff_eq, Tally.count_ofNames, List.count_eq_zero]
  rw [documentFindings, Violation.allWarnings_append]
  refine and_congr ?_ ?_
  · rw [missingTagFindings, Violation.allWarnings_map_errors (by simp), List.filter_eq_nil_iff]
    refine forall₂_congr fun rule _ => ?_
    rw [Bool.and_eq_true, absent, not_and, not_not]
  · rw [requirementFindings, Violation.allWarnings_flatMap]
    refine forall_congr' fun tag => imp_congr (Tally.mem_tags_ofNames names tag) ?_
    cases rules.tag? tag with
    | none => simp
    | some rule =>
        dsimp only
        rw [Violation.allWarnings_map_errors (by simp), List.filter_eq_nil_iff]
        simp only [absent, not_not, Option.mem_some_iff, forall_eq']

/-- All findings on a document are warnings exactly if it conforms. -/
theorem allWarnings_allFindings_iff {document : Document} (wellFormed : document.WellFormed) :
    AllWarnings (rules.allFindings document) ↔ Conforms rules document := by
  have ordered := wellFormed.preorder_walk
  have only {element : Element} (listed : element ∈ document.elements) :
      (document.walk.map (·.name)).count element.name ≤ 1 ↔
        ∀ other ∈ document.elements, other.name = element.name → other.id = element.id := by
    rw [count_name_le_one_iff (wellFormed.nodup_ids ordered)
      ((wellFormed.mem_walk_iff element).mpr listed)]
    simp only [wellFormed.mem_walk_iff]
  rw [allFindings, Violation.allWarnings_append, allWarnings_visitFindings,
    allWarnings_documentFindings]
  simp only [wellFormed.mem_walk_iff, wellFormed.mem_names_walk_iff, List.nil_append]
  constructor
  · rintro ⟨visited, mandatory, required⟩
    constructor
    case admitted =>
      intro element listed
      obtain ⟨rule, hasRule, admits, _⟩ := visited element listed
      exact ⟨rule, hasRule, admits⟩
    case unique =>
      intro element listed rule hasRule isUnique
      obtain ⟨sameRule, hasSame, _, single⟩ := visited element listed
      obtain rfl := Option.mem_unique hasRule hasSame
      exact (only listed).mp (single isUnique)
    case mandatory => exact mandatory
    case required =>
      exact fun element listed => required element.name ⟨element, listed, rfl⟩
  · intro conforms
    refine ⟨fun element listed => ?_, conforms.mandatory, ?_⟩
    · obtain ⟨rule, hasRule, admits⟩ := conforms.admitted element listed
      exact ⟨rule, hasRule, admits, fun isUnique =>
        (only listed).mpr (conforms.unique element listed rule hasRule isUnique)⟩
    · rintro _ ⟨element, listed, rfl⟩
      exact conforms.required element listed

/-- A validation passes a document that conforms, and fails one that does not. It has no other
outcome. -/
theorem validate_pass_iff_conforms {document : Document} (reachable : document.Reachable) :
    ∃ audit, rules.validate document = .ok audit ∧
      (audit.status = .pass ↔ Conforms rules document) ∧
      (audit.status = .fail ↔ ¬Conforms rules document) := by
  obtain ⟨audit, validated, _, status, _⟩ := rules.validate_eq_ok document
  refine ⟨audit, validated, ?_⟩
  rw [← rules.allWarnings_allFindings_iff reachable.wellFormed, status]
  split
  · rename_i fine
    exact ⟨iff_of_true rfl fine, iff_of_false nofun (not_not.mpr fine)⟩
  · rename_i bad
    exact ⟨iff_of_false nofun bad, iff_of_true rfl bad⟩

/-- Rules for pages that consist of paragraphs. -/
def paragraphs : RuleSet where
  name := "paragraphs"
  version := none
  globalAttributes := []
  tags := [
    ⟨{ TagDefinition.plain "html" with mandatory := true, unique := true, requires := ["p"] },
      [⟨AttributeDefinition.attr "lang", none⟩]⟩,
    ⟨{ TagDefinition.plain "p" with mandatoryParent := some "html" }, []⟩]

/-- The page has paragraphs alone, and passes. -/
theorem validate_paragraphs_page :
    Document.page.Reachable ∧
      ∃ audit, paragraphs.validate Document.page = .ok audit ∧ audit.status = .pass := by
  obtain ⟨audit, validated, passes, _⟩ :=
    paragraphs.validate_pass_iff_conforms Document.reachable_page
  exact ⟨Document.reachable_page, audit, validated, passes.mpr (by decide)⟩

end RuleSet

end MarkupAudit
