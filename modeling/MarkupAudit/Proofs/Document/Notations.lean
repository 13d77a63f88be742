/-
# Two notations for a node

A node is written as an object or as an array. The array holds the name, the line, the attributes
and the children in this order, and the last ones may be left out as far as they have their default
values. Both notations may be mixed freely in one text, at any depth.

A value that is read as a node is in one of the notations, and what it is read as depends on its
fields alone. So a forest may be written once more, with any of its nodes in the other notation, and
it is loaded or refused as before.

An array may also be a list of nodes, at the top of a text and below a node. Nothing is both: a node
that is an array begins with a string, and a string is no node.
-/

import Mathlib.Data.List.Basic
import MarkupAudit.Proofs.Document.ObjectForm
import MarkupAudit.Proofs.Json.Printing

namespace MarkupAudit.Outline

/-! ## Writing a node -/

/-- The fields of a node as the items of an array. The nodes below are given by their values. -/
inductive AreFields (name : String) (line : Nat) (attributes : List (String × String))
    (nodes : List Json) : List Json → Prop where
  | all : AreFields name line attributes nodes
      [.string name, .natural line, attributesJson attributes, .array nodes]
  | childless : nodes = [] → AreFields name line attributes nodes
      [.string name, .natural line, attributesJson attributes]
  | bare : nodes = [] → attributes = [] → AreFields name line attributes nodes
      [.string name, .natural line]
  | named : nodes = [] → attributes = [] → line = 0 → AreFields name line attributes nodes
      [.string name]

/-- A value is a node with given fields, in either notation. The nodes below are given by their
values, which may be anything. -/
inductive Writes (name : String) (line : Nat) (attributes : List (String × String))
    (nodes : List Json) : Json → Prop where
  | object {lineMember attributesMember childrenMember others members : List (String × Json)} :
      IsMember "line" (.natural line) (line = 0) lineMember →
      IsMember "attributes" (attributesJson attributes) (attributes = []) attributesMember →
      IsMember "children" (.array nodes) (nodes = []) childrenMember →
      (∀ member ∈ others, member.1 ∉ knownKeys) →
      members.Perm (("name", .string name) ::
        (lineMember ++ attributesMember ++ childrenMember ++ others)) →
      Writes name line attributes nodes (.object members)
  | array {fields : List Json} : AreFields name line attributes nodes fields →
      Writes name line attributes nodes (.array fields)

mutual

/-- A node is written once more. It and every node below it may keep its notation or change it. -/
inductive Rewrites : Json → Json → Prop where
  | node {name : String} {line : Nat} {attributes : List (String × String)}
      {nodes others : List Json} {value other : Json} :
      Writes name line attributes nodes value → RewritesAll nodes others →
        Writes name line attributes others other → Rewrites value other

/-- Some nodes are written once more, each in its place. -/
inductive RewritesAll : List Json → List Json → Prop where
  | nil : RewritesAll [] []
  | cons {value other : Json} {values others : List Json} : Rewrites value other →
      RewritesAll values others → RewritesAll (value :: values) (other :: others)

end

/-- The top of a text is written once more: a node, or a list of nodes. -/
inductive RewritesTop : Json → Json → Prop where
  | tree {value other : Json} : Rewrites value other → RewritesTop value other
  | forest {values others : List Json} : RewritesAll values others →
      RewritesTop (.array values) (.array others)

/-! ## The fields decide -/

variable {name : String} {line : Nat} {attributes : List (String × String)} {nodes : List Json}
  {value other : Json}

/-- A node in either notation is read by its fields, unless its line is too great. -/
theorem Writes.ofJson?_eq (writes : Writes name line attributes nodes value) :
    ofJson? value =
      if line < Nat.pow 2 64 then (itemsOf? nodes).map (node name line attributes) else none := by
  cases writes with
  | object isLine isAttributes isChildren unknown same =>
      exact ofJson?_object isLine isAttributes isChildren unknown same
  | array areFields =>
      cases areFields with
      | all =>
          rw [ofJson?, nameOf?, lineOf?_natural, attributesOf?_attributesJson, listOf?]
          split
          · cases itemsOf? nodes <;> rfl
          · rfl
      | childless none =>
          rw [ofJson?, nameOf?, lineOf?_natural, attributesOf?_attributesJson, none, itemsOf?]
          split <;> rfl
      | bare none noAttributes =>
          rw [ofJson?, nameOf?, lineOf?_natural, none, noAttributes, itemsOf?]
          split <;> rfl
      | named none noAttributes noLine =>
          rw [ofJson?, nameOf?, none, noAttributes, noLine, itemsOf?]
          rfl

mutual

/-- A node that is written once more is read as before. -/
theorem Rewrites.ofJson?_eq {value other : Json} :
    Rewrites value other → ofJson? other = ofJson? value
  | .node writes below again => by
      rw [writes.ofJson?_eq, again.ofJson?_eq, below.itemsOf?_eq]

theorem RewritesAll.itemsOf?_eq {values others : List Json} :
    RewritesAll values others → itemsOf? others = itemsOf? values
  | .nil => rfl
  | .cons first rest => by rw [itemsOf?, itemsOf?, first.ofJson?_eq, rest.itemsOf?_eq]

end

/-! ## What is read is written so -/

theorem nameOf?_eq_some {value : Json} (read : nameOf? value = some name) :
    value = .string name := by
  cases value <;> simp_all [nameOf?]

theorem lineOf?_eq_some {value : Json} (read : lineOf? value = some line) :
    value = .natural line := by
  cases value with
  | number numeral =>
      obtain ⟨negative, whole, fraction, exponent⟩ := numeral
      rw [lineOf?, Numeral.natural?] at read
      split at read
      · contradiction
      · simp_all [Json.natural, Numeral.ofNat]
  | _ => simp [lineOf?] at read

theorem attributeOf?_eq_some {value : Json} {pair : String × String}
    (read : attributeOf? value = some pair) :
    value = .array [.string pair.1, .string pair.2] := by
  unfold attributeOf? at read
  split at read
  · cases read
    rfl
  · contradiction

theorem attributesOf?_eq_some {value : Json} (read : attributesOf? value = some attributes) :
    value = attributesJson attributes := by
  cases value with
  | array items =>
      rw [attributesOf?] at read
      rw [attributesJson]
      induction items generalizing attributes with
      | nil =>
          cases read
          rfl
      | cons item items ih =>
          simp only [List.mapM_cons, Option.bind_eq_bind, Option.bind_eq_some_iff] at read
          obtain ⟨pair, first, pairs, rest, last⟩ := read
          cases last
          rw [attributeOf?_eq_some first, (Json.array.inj (ih rest)), List.map_cons]
  | _ => simp [attributesOf?] at read

theorem listOf?_eq_some {value : Json} {children : List Outline}
    (read : listOf? value = some children) :
    ∃ nodes, value = .array nodes ∧ itemsOf? nodes = some children := by
  cases value with
  | array nodes => exact ⟨nodes, rfl, by rwa [listOf?] at read⟩
  | _ => simp [listOf?] at read

/-- Members may be sorted by their keys, those with other keys last. -/
theorem perm_sorted {keys : List String} (apart : keys.Nodup) (members : List (String × Json)) :
    members.Perm (keys.flatMap (fun key => members.filter (·.1 == key)) ++
      members.filter (!keys.contains ·.1)) := by
  induction keys generalizing members with
  | nil => exact .of_eq (List.filter_eq_self.mpr fun _ _ => rfl).symm
  | cons key keys ih =>
      obtain ⟨new, apart⟩ := List.nodup_cons.mp apart
      have others : keys.flatMap (fun other =>
          (members.filter (!·.1 == key)).filter (·.1 == other)) =
            keys.flatMap (fun other => members.filter (·.1 == other)) := by
        refine List.flatMap_congr fun other listed => ?_
        rw [List.filter_filter]
        refine List.filter_congr fun member _ => ?_
        by_cases same : member.1 = other
        · have differs : other ≠ key := fun same => new (same ▸ listed)
          simp [same, differs]
        · simp [same]
      have unknown : (members.filter (!·.1 == key)).filter (!keys.contains ·.1) =
          members.filter (!(key :: keys).contains ·.1) := by
        rw [List.filter_filter]
        refine List.filter_congr fun member _ => ?_
        rw [List.contains_cons, Bool.not_or, Bool.and_comm]
      have rest := ih apart (members.filter (!·.1 == key))
      rw [others, unknown] at rest
      rw [List.flatMap_cons, List.append_assoc]
      exact (List.filter_append_perm (·.1 == key) members).symm.trans (rest.append_left _)

/-- A member that is read is written, or it is left out and its default is taken. -/
theorem exists_isMember {α : Type} {members : List (String × Json)} {key : String}
    (once : (members.filter (·.1 == key)).length ≤ 1) {default : Option α}
    {read : Json → Option α} {meaning : α}
    (found : member? members key default read = some meaning) :
    (members.filter (·.1 == key) = [] ∧ default = some meaning) ∨
      ∃ value, members.filter (·.1 == key) = [(key, value)] ∧ read value = some meaning := by
  rw [member?, lookup_eq_head?] at found
  cases filtered : members.filter (·.1 == key) with
  | nil =>
      rw [filtered] at found
      exact .inl ⟨rfl, found⟩
  | cons member rest =>
      rw [filtered] at found once
      obtain ⟨other, value⟩ := member
      obtain rfl : rest = [] := List.eq_nil_of_length_eq_zero (by simpa using once)
      have isKey : (other, value) ∈ members.filter (·.1 == key) := filtered ▸ List.mem_cons_self
      have same : other = key := by simpa using (List.mem_filter.mp isKey).2
      exact .inr ⟨value, by rw [same], found⟩

/-- An object that is read as a node writes it, in whatever order its members stand. -/
theorem exists_writes_object {members : List (String × Json)} {children : List Outline}
    (unique : hasUniqueKeys members = true)
    (nameRead : member? members "name" none nameOf? = some name)
    (lineRead : member? members "line" (some 0) lineOf? = some line)
    (attributesRead : member? members "attributes" (some []) attributesOf? = some attributes)
    (childrenRead : childrenIn? members = some children) :
    ∃ nodes, Writes name line attributes nodes (.object members) ∧
      itemsOf? nodes = some children := by
  have once {key : String} (known : key ∈ knownKeys) :
      (members.filter (·.1 == key)).length ≤ 1 :=
    of_decide_eq_true (List.all_eq_true.mp unique key known)
  have isName : members.filter (·.1 == "name") = [("name", .string name)] := by
    obtain ⟨_, default⟩ | ⟨value, filtered, read⟩ := exists_isMember (once (by decide)) nameRead
    · contradiction
    · rw [filtered, nameOf?_eq_some read]
  have isLine : IsMember "line" (.natural line) (line = 0) (members.filter (·.1 == "line")) := by
    obtain ⟨filtered, default⟩ | ⟨value, filtered, read⟩ :=
      exists_isMember (once (by decide)) lineRead
    · rw [filtered]
      exact .leftOut (Option.some.inj default).symm
    · rw [filtered, lineOf?_eq_some read]
      exact .written
  have isAttributes : IsMember "attributes" (attributesJson attributes) (attributes = [])
      (members.filter (·.1 == "attributes")) := by
    obtain ⟨filtered, default⟩ | ⟨value, filtered, read⟩ :=
      exists_isMember (once (by decide)) attributesRead
    · rw [filtered]
      exact .leftOut (Option.some.inj default).symm
    · rw [filtered, attributesOf?_eq_some read]
      exact .written
  obtain ⟨nodes, isChildren, below⟩ : ∃ nodes, IsMember "children" (.array nodes) (nodes = [])
      (members.filter (·.1 == "children")) ∧ itemsOf? nodes = some children := by
    rw [childrenIn?_eq] at childrenRead
    obtain ⟨filtered, default⟩ | ⟨value, filtered, read⟩ :=
      exists_isMember (once (by decide)) childrenRead
    · refine ⟨[], filtered ▸ .leftOut rfl, ?_⟩
      rwa [itemsOf?]
    · obtain ⟨nodes, rfl, below⟩ := listOf?_eq_some read
      exact ⟨nodes, filtered ▸ .written, below⟩
  have sorted := perm_sorted (by decide : knownKeys.Nodup) members
  have known : knownKeys.flatMap (fun key => members.filter (·.1 == key)) =
      ("name", .string name) :: (members.filter (·.1 == "line") ++
        members.filter (·.1 == "attributes") ++ members.filter (·.1 == "children")) := by
    simp [knownKeys, isName]
  rw [known] at sorted
  refine ⟨nodes, .object isLine isAttributes isChildren ?_ sorted, below⟩
  intro member other
  simpa using (List.mem_filter.mp other).2

/-- A value that is read as a node is this node in one of the notations. -/
theorem exists_writes {children : List Outline}
    (read : ofJson? value = some (node name line attributes children)) :
    ∃ nodes, Writes name line attributes nodes value ∧ itemsOf? nodes = some children := by
  have none : itemsOf? [] = some [] := by rw [itemsOf?]
  unfold ofJson? at read
  split at read
  all_goals simp only [Option.bind_eq_bind, Option.bind_eq_some_iff, Option.some.injEq, node.injEq,
    reduceCtorEq] at read
  case h_1 members =>
    obtain ⟨_, unique, _, nameRead, _, lineRead, _, attributesRead, _, childrenRead, rfl, rfl, rfl,
      rfl⟩ := read
    refine exists_writes_object ?_ nameRead lineRead attributesRead childrenRead
    by_contra twice
    simp [guard, twice] at unique
  case h_2 =>
    obtain ⟨_, nameRead, rfl, rfl, rfl, rfl⟩ := read
    rw [nameOf?_eq_some nameRead]
    exact ⟨[], .array (.named rfl rfl rfl), none⟩
  case h_3 =>
    obtain ⟨_, nameRead, _, lineRead, rfl, rfl, rfl, rfl⟩ := read
    rw [nameOf?_eq_some nameRead, lineOf?_eq_some lineRead]
    exact ⟨[], .array (.bare rfl rfl), none⟩
  case h_4 =>
    obtain ⟨_, nameRead, _, lineRead, _, attributesRead, rfl, rfl, rfl, rfl⟩ := read
    rw [nameOf?_eq_some nameRead, lineOf?_eq_some lineRead, attributesOf?_eq_some attributesRead]
    exact ⟨[], .array (.childless rfl), none⟩
  case h_5 =>
    obtain ⟨_, nameRead, _, lineRead, _, attributesRead, _, childrenRead, rfl, rfl, rfl, rfl⟩ :=
      read
    obtain ⟨nodes, rfl, below⟩ := listOf?_eq_some childrenRead
    rw [nameOf?_eq_some nameRead, lineOf?_eq_some lineRead, attributesOf?_eq_some attributesRead]
    exact ⟨nodes, .array .all, below⟩

mutual

/-- What is read as a tree is written out of nodes in the two notations, and so can be written once
more. -/
theorem rewrites_self : ∀ {value : Json} (tree : Outline), ofJson? value = some tree →
    Rewrites value value
  | _, node _ _ _ children, read => by
      obtain ⟨_, writes, below⟩ := exists_writes read
      exact .node writes (rewritesAll_self children below) writes

theorem rewritesAll_self : ∀ {values : List Json} (trees : List Outline),
    itemsOf? values = some trees → RewritesAll values values
  | [], _, _ => .nil
  | value :: values, trees, read => by
      rw [itemsOf?] at read
      simp only [Option.bind_eq_bind, Option.bind_eq_some_iff, Option.some.injEq] at read
      obtain ⟨tree, first, others, rest, rfl⟩ := read
      exact .cons (rewrites_self tree first) (rewritesAll_self others rest)

end

/-! ## Nodes and lists of nodes -/

/-- What begins with a string is no list of nodes. -/
theorem listOf?_string (name : String) (fields : List Json) :
    listOf? (.array (.string name :: fields)) = none := by
  simp [listOf?, itemsOf?, ofJson?]

/-- A node in either notation is no list of nodes. -/
theorem Writes.listOf?_eq (writes : Writes name line attributes nodes value) :
    listOf? value = none := by
  cases writes with
  | object => simp [listOf?]
  | array areFields => cases areFields <;> exact listOf?_string name _

/-- A node in either notation is no string. -/
theorem Writes.nameOf?_eq (writes : Writes name line attributes nodes value) :
    nameOf? value = none := by
  cases writes <;> rfl

/-- No value can be read both as a node and as a list of nodes. -/
theorem ofJson?_eq_none_or (value : Json) : ofJson? value = none ∨ listOf? value = none := by
  cases read : ofJson? value with
  | none => exact .inl rfl
  | some tree =>
      obtain ⟨name, line, attributes, children⟩ := tree
      obtain ⟨nodes, writes, -⟩ := exists_writes read
      exact .inr writes.listOf?_eq

/-- At the top of a text, a node in either notation is read as the only tree. -/
theorem Writes.forestOf?_eq (writes : Writes name line attributes nodes value) :
    forestOf? value = (ofJson? value).map ([·]) := by
  rw [forestOf?, writes.listOf?_eq]
  cases ofJson? value <;> rfl

mutual

theorem Rewrites.symm : ∀ {value other : Json}, Rewrites value other → Rewrites other value
  | _, _, .node writes below again => .node again below.symm writes

theorem RewritesAll.symm : ∀ {values others : List Json}, RewritesAll values others →
    RewritesAll others values
  | _, _, .nil => .nil
  | _, _, .cons first rest => .cons first.symm rest.symm

end

/-- A node can be written once more in either notation, whatever becomes of the nodes below. -/
theorem Rewrites.exists_notations (rewrites : Rewrites value other) :
    (∃ members, Rewrites value (.object members)) ∧ ∃ fields, Rewrites value (.array fields) := by
  obtain @⟨name, line, attributes, _, others, _, _, writes, below, -⟩ := rewrites
  have object : Writes name line attributes others (.object
      [("name", .string name), ("line", .natural line),
        ("attributes", attributesJson attributes), ("children", .array others)]) :=
    .object .written .written .written (List.forall_mem_nil _) (.refl _)
  exact ⟨⟨_, .node writes below object⟩, _, .node writes below (.array .all)⟩

/-- At the top of a text, nodes in either notation are read as a list. -/
theorem RewritesAll.forestOf?_eq {values others : List Json}
    (rewrites : RewritesAll values others) : forestOf? (.array values) = itemsOf? values := by
  have noNode : ofJson? (.array values) = none := by
    cases rewrites with
    | nil => simp [ofJson?]
    | cons first =>
        obtain ⟨writes, -, -⟩ := first
        exact ofJson?_array_eq_none writes.nameOf?_eq _
  rw [forestOf?, noNode]
  dsimp only
  rw [listOf?]

/-- The top of a text that is written once more is read as before. -/
theorem RewritesTop.forestOf?_eq (rewrites : RewritesTop value other) :
    forestOf? other = forestOf? value := by
  cases rewrites with
  | tree rewrites =>
      have same := rewrites.ofJson?_eq
      obtain ⟨writes, -, again⟩ := rewrites
      rw [writes.forestOf?_eq, again.forestOf?_eq, same]
  | forest rewrites =>
      rw [rewrites.forestOf?_eq, rewrites.symm.forestOf?_eq, rewrites.itemsOf?_eq]

/-- Whatever is read as a forest can be written once more. -/
theorem rewritesTop_self {forest : List Outline} (read : forestOf? value = some forest) :
    RewritesTop value value := by
  rw [forestOf?] at read
  split at read
  case h_1 tree first => exact .tree (rewrites_self tree first)
  case h_2 =>
    obtain ⟨nodes, rfl, items⟩ := listOf?_eq_some read
    exact .forest (rewritesAll_self forest items)

end MarkupAudit.Outline

namespace MarkupAudit.Document

open Outline

/-- The top of a text is a node or a list of nodes, and no value can be taken for both. Whatever is
read consists of nodes in the two notations, and each of them can be written in either. If a text is
written once more, with any nodes in the other notation, at any depth, and with any white space and
escapes, then it is loaded as the same document or refused for the same reason, as long as it is not
nested too deeply. -/
theorem load_rewrites :
    (∀ value, ofJson? value = none ∨ listOf? value = none) ∧
      (∀ value forest, forestOf? value = some forest → RewritesTop value value) ∧
      (∀ value other, Rewrites value other →
        (∃ members, Rewrites value (.object members)) ∧ ∃ fields, Rewrites value (.array fields)) ∧
      ∀ (value other : Json) (text again : String) (rest : List Char),
        Json.read text.toList = .ok (value, rest) → Json.skipSpace rest = [] →
          RewritesTop value other → other.SpellsPadded again.toList → other.depth ≤ 127 →
            load again = load text := by
  refine ⟨ofJson?_eq_none_or, fun value forest => rewritesTop_self,
    fun value other => Rewrites.exists_notations, ?_⟩
  intro value other text again rest read ended rewrites spells shallow
  rw [load, load, readOutlines_of_read read ended, readOutlines_of_spells spells shallow,
    rewrites.forestOf?_eq]

/-- A list with two items, the first of them as an array. -/
def menu : Json :=
  .object
    [("name", .string "ul"),
     ("children", .array
       [.array [.string "li", .natural 2, attributesJson [("id", "a")]],
        .object [("line", .natural 3), ("name", .string "li")]])]

/-- The list with all its nodes in the other notation. -/
def turnedMenu : Json :=
  .array
    [.string "ul", .natural 0, attributesJson [],
     .array
       [.object
         [("note", .null), ("name", .string "li"), ("line", .natural 2),
          ("attributes", attributesJson [("id", "a")])],
        .array [.string "li", .natural 3]]]

theorem rewritesTop_menu : RewritesTop menu turnedMenu := by
  have unknown : ∀ member ∈ [("note", Json.null)], member.1 ∉ knownKeys := by
    simp [knownKeys]
  have first : Rewrites (.array [.string "li", .natural 2, attributesJson [("id", "a")]]) _ :=
    .node (.array (.childless rfl)) .nil (.object .written .written (.leftOut rfl) unknown
      (@List.perm_append_comm _ [_] [_, _, _]))
  have second : Rewrites (.object [("line", .natural 3), ("name", .string "li")]) _ :=
    .node (.object .written (.leftOut rfl) (.leftOut rfl) (List.forall_mem_nil _)
      (@List.perm_append_comm _ [_] [_])) .nil (.array (.bare rfl rfl))
  exact .tree (.node
    (.object (.leftOut rfl) (.leftOut rfl) .written (List.forall_mem_nil _) (.refl _))
    (.cons first (.cons second .nil)) (.array .all))

theorem isLegal_menu : menu.IsLegal ∧ turnedMenu.IsLegal := by
  have small {n : Nat} (small : n < 4) : (Json.natural n).IsLegal :=
    Json.isLegal_natural (Nat.lt_trans small (by decide))
  simp [menu, turnedMenu, attributesJson, Json.IsLegal, Json.AreLegal, Json.HaveLegalValues, small]

/-- Both texts of the list are loaded, as one document. -/
theorem load_rewrites_menu :
    RewritesTop menu turnedMenu ∧ load turnedMenu.compact = load menu.compact ∧
      (load menu.compact).isOk = true := by
  have read := Json.read_of_spells (Json.spells_compact isLegal_menu.1) (by decide)
  have isForest : forestOf? menu = some
      [node "ul" 0 [] [node "li" 2 [("id", "a")] [], node "li" 3 [] []]] := by
    simp [menu, forestOf?, ofJson?, childrenIn?, member?, listOf?, itemsOf?, nameOf?,
      lineOf?_natural, attributesOf?_attributesJson, hasUniqueKeys, knownKeys, guard,
      List.lookup_cons]
  refine ⟨rewritesTop_menu, ?_, ?_⟩
  · exact load_rewrites.2.2.2 _ _ _ _ _ read rfl rewritesTop_menu
      (Json.spells_compact isLegal_menu.2).padded (by decide)
  · rw [load, readOutlines_of_read read rfl, isForest]
    decide

end MarkupAudit.Document
