/-
# Outlines as objects

How a forest is written down, and that reading gives it back. A node is an object. Its members may
stand in any order, and what has its default value may be left out. Any members with other keys may
be added, also several with one key. The text of the object may be any text that spells it.

A forest is a list of nodes; one tree may also stand alone. No node is taken for a list, and no
list of nodes for a node, because a node that is itself a list begins with its name.
-/

import Mathlib.Data.Option.Basic
import MarkupAudit.Document.Load
import MarkupAudit.Proofs.Json.Reading

namespace MarkupAudit.Outline

/-! ## How outlines are written -/

/-- The member with a given key and value, as far as it is written: a default may be left out. -/
inductive IsMember (key : String) (value : Json) (isDefault : Prop) :
    List (String × Json) → Prop where
  | written : IsMember key value isDefault [(key, value)]
  | leftOut : isDefault → IsMember key value isDefault []

/-- Attributes as a list of pairs. -/
def attributesJson (attributes : List (String × String)) : Json :=
  .array (attributes.map fun pair => .array [.string pair.1, .string pair.2])

mutual

/-- A value is an outline in the form of an object. -/
inductive IsObject : Outline → Json → Prop where
  | object {name : String} {line : Nat} {attributes : List (String × String)}
      {children : List Outline} {nodes : List Json}
      {lineMember attributesMember childrenMember others members : List (String × Json)} :
      IsMember "line" (.natural line) (line = 0) lineMember →
      IsMember "attributes" (attributesJson attributes) (attributes = []) attributesMember →
      AreObjects children nodes →
      IsMember "children" (.array nodes) (children = []) childrenMember →
      (∀ member ∈ others, member.1 ∉ knownKeys) →
      members.Perm (("name", .string name) ::
        (lineMember ++ attributesMember ++ childrenMember ++ others)) →
      IsObject (node name line attributes children) (.object members)

/-- Some values are the outlines of a forest, each in the form of an object. -/
inductive AreObjects : List Outline → List Json → Prop where
  | nil : AreObjects [] []
  | cons {outline : Outline} {outlines : List Outline} {value : Json} {values : List Json} :
      IsObject outline value → AreObjects outlines values →
        AreObjects (outline :: outlines) (value :: values)

end

/-- A text describes a forest by objects. -/
inductive Describes : List Outline → String → Prop where
  | list {forest : List Outline} {values : List Json} {text : String} :
      AreObjects forest values → (Json.array values).SpellsPadded text.toList →
        (Json.array values).depth ≤ 127 → Describes forest text
  /-- One tree needs no brackets. -/
  | alone {tree : Outline} {value : Json} {text : String} :
      IsObject tree value → value.SpellsPadded text.toList → value.depth ≤ 127 →
        Describes [tree] text

/-! ## Members -/

/-- The members with one key, if there is at most one of them, are found in any order. -/
theorem filter_eq_of_perm {members sorted : List (String × Json)} (same : members.Perm sorted)
    (key : String) (once : (sorted.filter (·.1 == key)).length ≤ 1) :
    members.filter (·.1 == key) = sorted.filter (·.1 == key) := by
  have filtered := same.filter (·.1 == key)
  cases found : sorted.filter (·.1 == key) with
  | nil =>
      rw [found] at filtered
      exact filtered.eq_nil
  | cons member rest =>
      rw [found, List.length_cons] at once
      obtain rfl := List.length_eq_zero_iff.mp (Nat.le_zero.mp (Nat.le_of_succ_le_succ once))
      rw [found] at filtered
      exact filtered.eq_singleton

theorem lookup_eq_head? (members : List (String × Json)) (key : String) :
    members.lookup key = (members.filter (·.1 == key)).head?.map Prod.snd := by
  induction members with
  | nil => rfl
  | cons member members ih =>
      obtain ⟨other, value⟩ := member
      rw [List.lookup_cons, List.filter_cons, BEq.comm]
      cases other == key with
      | false => exact ih
      | true => rfl

theorem childrenIn?_eq (members : List (String × Json)) :
    childrenIn? members = member? members "children" (some []) listOf? := by
  induction members with
  | nil =>
      rw [childrenIn?]
      rfl
  | cons member members ih =>
      obtain ⟨key, value⟩ := member
      rw [childrenIn?, member?, List.lookup_cons]
      by_cases same : key = "children"
      · subst same
        rfl
      · rw [if_neg same, ih, member?, beq_false_of_ne (Ne.symm same)]

/-- What is left out is read as its default, that is as if it were written. -/
theorem IsMember.member?_eq {α : Type} {key : String} {value : Json} {isDefault : Prop}
    {part members : List (String × Json)} (isMember : IsMember key value isDefault part)
    (found : members.filter (·.1 == key) = part) {default : Option α} {read : Json → Option α}
    (ofDefault : isDefault → default = read value) :
    member? members key default read = read value := by
  rw [member?, lookup_eq_head?, found]
  cases isMember with
  | written => rfl
  | leftOut isDefault => exact ofDefault isDefault

theorem IsMember.filter_eq {key : String} {value : Json} {isDefault : Prop}
    {part : List (String × Json)} (isMember : IsMember key value isDefault part) (other : String) :
    part.filter (·.1 == other) = if key = other then part else [] := by
  cases isMember with
  | written => by_cases same : key = other <;> simp [same]
  | leftOut => simp

theorem IsMember.length_le {key : String} {value : Json} {isDefault : Prop}
    {part : List (String × Json)} (isMember : IsMember key value isDefault part) :
    part.length ≤ 1 := by
  cases isMember <;> simp

theorem lineOf?_natural (line : Nat) :
    lineOf? (.natural line) = if line < Nat.pow 2 64 then some line else none :=
  rfl

theorem attributesOf?_attributesJson (attributes : List (String × String)) :
    attributesOf? (attributesJson attributes) = some attributes := by
  rw [attributesJson, attributesOf?]
  induction attributes with
  | nil => rfl
  | cons pair attributes ih =>
      rw [List.map_cons, List.mapM_cons, ih]
      rfl

/-! ## Reading -/

mutual

/-- The nodes of a tree, each before those below it. -/
def nodes : Outline → List Outline
  | node name line attributes children =>
      node name line attributes children :: nodesOfAll children

/-- The nodes of some trees in turn. -/
def nodesOfAll : List Outline → List Outline
  | [] => []
  | outline :: outlines => nodes outline ++ nodesOfAll outlines

end

theorem forall_mem_nodesOfAll_cons {holds : Outline → Prop} {tree : Outline}
    {trees : List Outline} :
    (∀ node ∈ nodesOfAll (tree :: trees), holds node) ↔
      (∀ node ∈ nodes tree, holds node) ∧ ∀ node ∈ nodesOfAll trees, holds node := by
  rw [nodesOfAll, List.forall_mem_append]

/-- The members of an object that count, wherever they stand in it. -/
theorem filter_members {name : String} {line attributes children : Json}
    {noLine noAttributes noChildren : Prop}
    {lineMember attributesMember childrenMember others members : List (String × Json)}
    (isLine : IsMember "line" line noLine lineMember)
    (isAttributes : IsMember "attributes" attributes noAttributes attributesMember)
    (isChildren : IsMember "children" children noChildren childrenMember)
    (unknown : ∀ member ∈ others, member.1 ∉ knownKeys)
    (same : members.Perm (("name", .string name) ::
      (lineMember ++ attributesMember ++ childrenMember ++ others))) :
    members.filter (·.1 == "name") = [("name", .string name)] ∧
      members.filter (·.1 == "line") = lineMember ∧
        members.filter (·.1 == "attributes") = attributesMember ∧
          members.filter (·.1 == "children") = childrenMember := by
  have passedOver {key : String} (known : key ∈ knownKeys) : others.filter (·.1 == key) = [] := by
    refine List.filter_eq_nil_iff.mpr fun member listed isKey => ?_
    exact unknown member listed (beq_iff_eq.mp isKey ▸ known)
  have found {key : String} (known : key ∈ knownKeys) {part : List (String × Json)}
      (isPart : ((if "name" = key then [("name", Json.string name)] else []) ++
        ((if "line" = key then lineMember else []) ++
          (if "attributes" = key then attributesMember else []) ++
            (if "children" = key then childrenMember else []))) = part)
      (few : part.length ≤ 1) : members.filter (·.1 == key) = part := by
    have sorted : (("name", Json.string name) ::
        (lineMember ++ attributesMember ++ childrenMember ++ others)).filter (·.1 == key) =
          part := by
      rw [← isPart, ← List.singleton_append, List.filter_append, List.filter_append,
        List.filter_append, List.filter_append, isLine.filter_eq, isAttributes.filter_eq,
        isChildren.filter_eq, passedOver known, List.append_nil]
      congr 1
      by_cases isName : "name" = key <;> simp [isName]
    rw [filter_eq_of_perm same key (by rwa [sorted]), sorted]
  refine ⟨found (by decide) (by simp) (by simp), found (by decide) (by simp) isLine.length_le,
    found (by decide) (by simp) isAttributes.length_le,
    found (by decide) (by simp) isChildren.length_le⟩

/-- The members of an object are read one by one, wherever they stand, and with the values below
the children as they are. -/
theorem ofJson?_object {name : String} {line : Nat} {attributes : List (String × String)}
    {nodes : List Json}
    {lineMember attributesMember childrenMember others members : List (String × Json)}
    (isLine : IsMember "line" (.natural line) (line = 0) lineMember)
    (isAttributes :
      IsMember "attributes" (attributesJson attributes) (attributes = []) attributesMember)
    (isChildren : IsMember "children" (.array nodes) (nodes = []) childrenMember)
    (unknown : ∀ member ∈ others, member.1 ∉ knownKeys)
    (same : members.Perm (("name", .string name) ::
      (lineMember ++ attributesMember ++ childrenMember ++ others))) :
    ofJson? (.object members) =
      if line < Nat.pow 2 64 then (itemsOf? nodes).map (node name line attributes) else none := by
  obtain ⟨nameFound, lineFound, attributesFound, childrenFound⟩ :=
    filter_members isLine isAttributes isChildren unknown same
  have unique : hasUniqueKeys members = true := by
    simp only [hasUniqueKeys, knownKeys, List.all_cons, List.all_nil, nameFound, lineFound,
      attributesFound, childrenFound, isLine.length_le, isAttributes.length_le,
      isChildren.length_le, List.length_singleton]
    decide
  have nameRead : member? members "name" none nameOf? = some name := by
    rw [member?, lookup_eq_head?, nameFound]
    rfl
  have lineRead : member? members "line" (some 0) lineOf? = lineOf? (.natural line) :=
    isLine.member?_eq lineFound (by rintro rfl; rfl)
  have attributesRead : member? members "attributes" (some []) attributesOf? = some attributes := by
    rw [isAttributes.member?_eq attributesFound (by rintro rfl; rfl),
      attributesOf?_attributesJson]
  have childrenRead : childrenIn? members = itemsOf? nodes := by
    rw [childrenIn?_eq, isChildren.member?_eq childrenFound, listOf?]
    rintro rfl
    rw [listOf?, itemsOf?]
  rw [ofJson?, unique, nameRead, lineRead, attributesRead, childrenRead, lineOf?_natural]
  split
  · cases itemsOf? nodes <;> rfl
  · rfl

theorem AreObjects.eq_nil_iff {outlines : List Outline} {values : List Json}
    (areObjects : AreObjects outlines values) : outlines = [] ↔ values = [] := by
  cases areObjects <;> simp

mutual

/-- An object is read as the outline that it is. -/
theorem ofJson?_of_isObject {outline : Outline} {value : Json} (isObject : IsObject outline value)
    (small : ∀ node ∈ nodes outline, node.line < Nat.pow 2 64) : ofJson? value = some outline := by
  cases isObject with
  | @object name line attributes _ _ _ _ _ _ _ isLine isAttributes areObjects isChildren unknown
      same =>
      rw [areObjects.eq_nil_iff] at isChildren
      have smallLine : line < Nat.pow 2 64 := small _ List.mem_cons_self
      rw [ofJson?_object isLine isAttributes isChildren unknown same, if_pos smallLine,
        itemsOf?_of_areObjects areObjects fun node listed =>
          small node (List.mem_cons_of_mem _ listed)]
      rfl

theorem itemsOf?_of_areObjects {outlines : List Outline} {values : List Json}
    (areObjects : AreObjects outlines values)
    (small : ∀ node ∈ nodesOfAll outlines, node.line < Nat.pow 2 64) :
    itemsOf? values = some outlines := by
  cases areObjects with
  | nil => rw [itemsOf?]
  | cons isObject areObjects =>
      obtain ⟨smallFirst, smallOthers⟩ := forall_mem_nodesOfAll_cons.mp small
      rw [itemsOf?, ofJson?_of_isObject isObject smallFirst,
        itemsOf?_of_areObjects areObjects smallOthers]
      rfl

end

/-- An array that does not begin with a string is no node. -/
theorem ofJson?_array_eq_none {first : Json} (unnamed : nameOf? first = none) (rest : List Json) :
    ofJson? (.array (first :: rest)) = none := by
  rcases rest with _ | ⟨second, _ | ⟨third, _ | ⟨fourth, _ | ⟨fifth, more⟩⟩⟩⟩ <;>
    simp [ofJson?, unnamed]

/-- A list of objects is no node. -/
theorem ofJson?_of_areObjects {outlines : List Outline} {values : List Json}
    (areObjects : AreObjects outlines values) : ofJson? (.array values) = none := by
  cases areObjects with
  | nil => simp [ofJson?]
  | cons isObject =>
      obtain ⟨_⟩ := isObject
      exact ofJson?_array_eq_none rfl _

end MarkupAudit.Outline

namespace MarkupAudit.Document

open Outline

/-- What a text is read as depends on the value in it alone, if nothing but white space follows. -/
theorem readOutlines_of_read {value : Json} {text : String} {rest : List Char}
    (read : Json.read text.toList = .ok (value, rest)) (ended : Json.skipSpace rest = []) :
    readOutlines text = (forestOf? value).elim (.error .shape) .ok := by
  rw [readOutlines, read]
  dsimp only
  rw [ended]
  cases forestOf? value <;> rfl

theorem readOutlines_of_spells {value : Json} {text : String}
    (spells : value.SpellsPadded text.toList) (shallow : value.depth ≤ 127) :
    readOutlines text = (forestOf? value).elim (.error .shape) .ok := by
  obtain ⟨after, isSpace, read⟩ := Json.read_of_spellsPadded spells shallow
  exact readOutlines_of_read read (Json.skipSpace_of_isSpace isSpace)

/-- A text is read as the forest that it describes. -/
theorem readOutlines_of_describes {forest : List Outline} {text : String}
    (describes : Describes forest text)
    (small : ∀ node ∈ nodesOfAll forest, node.line < Nat.pow 2 64) :
    readOutlines text = .ok forest := by
  cases describes with
  | list areObjects spells shallow =>
      rw [readOutlines_of_spells spells shallow, forestOf?, ofJson?_of_areObjects areObjects]
      dsimp only
      rw [listOf?, itemsOf?_of_areObjects areObjects small]
      rfl
  | alone isObject spells shallow =>
      rw [readOutlines_of_spells spells shallow, forestOf?,
        ofJson?_of_isObject isObject (forall_mem_nodesOfAll_cons.mp small).1]
      rfl

end MarkupAudit.Document
