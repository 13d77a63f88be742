/-
# Spellings of attributes

An attribute may be given under its proper name or under another one that the rule of the tag
allows for it. The checks look names up in different ways: the value of an attribute is held to the
first attribute of the rule that has the name as a spelling; whether an attribute is there is asked
of the attribute itself; and an entry of a list is carried by an attribute of that name or by one
whose proper name it is. The three come to the same for an attribute that shares no spelling with
another one, as long as the lists name it properly.
-/

import MarkupAudit.Proofs.Rules.Conformance

namespace MarkupAudit

namespace AttributeDefinition

/-- The names under which the attribute may be given: its proper name, and then the others. -/
def spellings (definition : AttributeDefinition) : List String :=
  definition.name :: definition.alternatives

theorem hasName_iff (definition : AttributeDefinition) (name : String) :
    definition.hasName name = true ↔ name ∈ definition.spellings := by
  rw [hasName, Bool.or_eq_true, beq_iff_eq, List.contains_iff_mem, spellings, List.mem_cons,
    @eq_comm _ definition.name]

end AttributeDefinition

namespace TagRule

variable (rule : TagRule)

/-- No other attribute of the rule has a spelling of this one. -/
def Distinguishes (known : AttributeRule) : Prop :=
  ∀ other ∈ rule.attributes, ∀ name ∈ known.definition.spellings,
    name ∈ other.definition.spellings → other = known

/-- No two attributes of the rule have a spelling in common. -/
def IsUnambiguous : Prop :=
  ∀ known ∈ rule.attributes, rule.Distinguishes known

instance (known : AttributeRule) : Decidable (rule.Distinguishes known) := by
  unfold Distinguishes
  infer_instance

instance : Decidable rule.IsUnambiguous := by
  unfold IsUnambiguous
  infer_instance

/-- The proper name of the attribute that is given under a name; a name that the rule does not
define stands for itself. -/
def properName (name : String) : String :=
  ((rule.attribute? name).map (·.definition.name)).getD name

/-- Two names under which one and the same attribute is given. -/
def SameAttribute (first second : String) : Prop :=
  first = second ∨ rule.attribute? first ≠ none ∧ rule.attribute? first = rule.attribute? second

instance (first second : String) : Decidable (rule.SameAttribute first second) := by
  unfold SameAttribute
  infer_instance

variable {rule} {known : AttributeRule} {name : String}

/-- What is found under a name is an attribute with this spelling. -/
theorem mem_of_attribute?_eq_some (found : rule.attribute? name = some known) :
    known ∈ rule.attributes ∧ name ∈ known.definition.spellings := by
  have named : known.definition.hasName name = true := by
    simpa only using List.find?_some found
  exact ⟨List.mem_of_find?_eq_some found, (known.definition.hasName_iff name).mp named⟩

/-- Under a spelling of an attribute something is found. -/
theorem exists_attribute?_eq_some (isKnown : known ∈ rule.attributes)
    (spells : name ∈ known.definition.spellings) : ∃ first, rule.attribute? name = some first :=
  Option.isSome_iff_exists.mp <| List.find?_isSome.mpr
    ⟨known, isKnown, (known.definition.hasName_iff name).mpr spells⟩

/-- An attribute that shares no spelling is found under each of its own. -/
theorem Distinguishes.attribute?_eq_some (alone : rule.Distinguishes known)
    (isKnown : known ∈ rule.attributes) (spells : name ∈ known.definition.spellings) :
    rule.attribute? name = some known := by
  obtain ⟨first, found⟩ := exists_attribute?_eq_some isKnown spells
  have isFirst := mem_of_attribute?_eq_some found
  rw [found, alone first isFirst.1 name spells isFirst.2]

theorem properName_of_attribute?_eq_some (found : rule.attribute? name = some known) :
    rule.properName name = known.definition.name := by
  rw [properName, found]
  rfl

/-- An entry of a list is carried by an attribute given under this name, and by one whose proper
name it is. -/
theorem carries_iff_properName (attributes : AttributeSet) (entry : String) :
    rule.Carries attributes entry ↔
      ∃ given ∈ attributes.names, given = entry ∨ rule.properName given = entry := by
  refine exists_congr fun given => and_congr_right fun _ => ?_
  unfold properName
  cases rule.attribute? given <;> simp

namespace SameAttribute

variable {first second third : String}

theorem refl (name : String) : rule.SameAttribute name name :=
  .inl rfl

theorem symm (same : rule.SameAttribute first second) : rule.SameAttribute second first := by
  rcases same with rfl | ⟨isDefined, found⟩
  · exact .refl first
  · exact .inr ⟨found ▸ isDefined, found.symm⟩

theorem trans (same : rule.SameAttribute first second) (next : rule.SameAttribute second third) :
    rule.SameAttribute first third := by
  rcases same with rfl | ⟨isDefined, found⟩
  · exact next
  · rcases next with rfl | ⟨_, foundNext⟩
    · exact .inr ⟨isDefined, found⟩
    · exact .inr ⟨isDefined, found.trans foundNext⟩

/-- Spellings of one attribute have one proper name. -/
theorem properName_eq (same : rule.SameAttribute first second) :
    rule.properName first = rule.properName second := by
  rcases same with rfl | ⟨isDefined, found⟩
  · rfl
  · obtain ⟨known, isFound⟩ := Option.ne_none_iff_exists'.mp isDefined
    rw [properName_of_attribute?_eq_some isFound,
      properName_of_attribute?_eq_some (found ▸ isFound)]

end SameAttribute

/-- If no two attributes share a spelling, a name and its proper name give the same attribute. -/
theorem IsUnambiguous.sameAttribute_properName (unambiguous : rule.IsUnambiguous) (name : String) :
    rule.SameAttribute name (rule.properName name) := by
  cases found : rule.attribute? name with
  | none =>
      refine .inl ?_
      rw [properName, found]
      rfl
  | some known =>
      have isKnown := (mem_of_attribute?_eq_some found).1
      have proper : known.definition.name ∈ known.definition.spellings := List.mem_cons_self
      rw [properName_of_attribute?_eq_some found]
      refine .inr ⟨?_, ?_⟩
      · rw [found]
        exact Option.some_ne_none known
      · rw [found, (unambiguous known isKnown).attribute?_eq_some isKnown proper]

end TagRule

/-! ## Rules for pictures -/

namespace RuleTable

/-- The source of a picture, which has two spellings. -/
def source : AttributeDefinition :=
  { AttributeDefinition.attr "src" with alternatives := ["data-src"] }

/-- The rule for pictures, with a list of attributes of which a picture must have one and a list of
those of which it may have only one. -/
def picture (oneOf exclusive : List String) : TagDefinition :=
  { TagDefinition.plain "amp-img" with
    oneOf
    exclusive
    attributes := [source, AttributeDefinition.attr "srcset"] }

/-- The attributes of pictures may have any value. -/
def pictureAttributes : List AttributeRule :=
  (picture [] []).attributes.map fun definition => ⟨definition, none⟩

/-- A table with nothing but pictures. -/
def pictures (oneOf exclusive : List String) : RuleTable :=
  ⟨"pictures", none, [], [picture oneOf exclusive]⟩

end RuleTable

end MarkupAudit
