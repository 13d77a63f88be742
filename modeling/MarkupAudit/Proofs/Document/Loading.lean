/-
# Loading what is written

A forest that is written down is loaded as the document that shows it: one element for each node,
numbered in document order, with the tag name trimmed and in lower case, and with the line, the
attributes, the parent and the children of the node. However the forest is written, the document
is the same. It is enough that no name is blank, that lines lie below 2^64 and that no node has two
attributes of one name; then nothing is refused.

The elements of a tree are first written out as a list, by recursion over the tree. A step of
loading changes one element of the arena and adds others at its end, so what is known of the arena
is kept as a list with that element in the middle.
-/

import MarkupAudit.Proofs.Document.ObjectForm
import MarkupAudit.Proofs.Document.Preorder

namespace MarkupAudit

/-! ## The elements of a forest -/

namespace Outline

/-- The attributes as they were handed over. -/
def attributes : Outline → List (String × String)
  | node _ _ attributes _ => attributes

/-- The nodes below. -/
def children : Outline → List Outline
  | node _ _ _ children => children

/-- A node that is not refused, wherever it stands. -/
structure IsSound (node : Outline) : Prop where
  /-- The name is more than white space. -/
  filled : ∃ c ∈ node.name.toList, Text.isBlank c = false
  line_lt : node.line < Nat.pow 2 64
  /-- No two attributes have one name. -/
  names_nodup : (node.attributes.map Prod.fst).Nodup

/-- The handles of some trees, if the first of them begins with a given number. -/
def handles (first : Nat) : List Outline → List ElementId
  | [] => []
  | tree :: trees => ⟨first⟩ :: handles (first + (nodes tree).length) trees

mutual

/-- The elements of a tree that begins with a given number. -/
def elementsOf (parent : Option ElementId) (first : Nat) : Outline → List Element
  | node name line attributes children =>
      ⟨⟨first⟩, Text.lowercase (Text.trim name), ⟨attributes⟩, line, parent,
        handles (first + 1) children⟩ :: elementsOfAll (some ⟨first⟩) (first + 1) children

/-- The elements of some trees, if the first of them begins with a given number. -/
def elementsOfAll (parent : Option ElementId) (first : Nat) : List Outline → List Element
  | [] => []
  | tree :: trees =>
      elementsOf parent first tree ++ elementsOfAll parent (first + (nodes tree).length) trees

end

end Outline

/-- An element shows a node, as far as its name, its line and its attributes go. -/
structure Element.Shows (element : Element) (node : Outline) : Prop where
  name_eq : element.name = Text.lowercase (Text.trim node.name)
  line_eq : element.line = node.line
  attributes_eq : element.attributes.entries = node.attributes

namespace Document

open Outline

/-- At some handles a document has some trees, below a given parent. -/
inductive Carries (document : Document) :
    Option ElementId → List ElementId → List Outline → Prop where
  | nil {parent : Option ElementId} : Carries document parent [] []
  | cons {parent : Option ElementId} {id : ElementId} {element : Element} {ids : List ElementId}
      {tree : Outline} {trees : List Outline} :
      document.get? id = some element → element.Shows tree → element.parent = parent →
        Carries document (some id) element.children tree.children →
          Carries document parent ids trees → Carries document parent (id :: ids) (tree :: trees)

/-- A document is a forest, node for node. -/
structure Depicts (document : Document) (forest : List Outline) : Prop where
  /-- The roots are the trees, and below every element is what is below its node. -/
  carries : document.Carries none document.roots forest
  /-- The element with a given number shows the node with this number in document order. -/
  shows : List.Forall₂ Element.Shows document.elements.toList (nodesOfAll forest)
  id_eq : ∀ {id element}, document.get? id = some element → element.id = id
  /-- Going down from the roots, the elements come in the order of their numbers. -/
  walk_eq : document.walk = document.elements.toList

end Document

/-! ## Blank names -/

namespace Text

theorem mem_dropWhile {chars : List Char} {c : Char} (inside : c ∈ chars)
    (visible : isBlank c = false) : c ∈ chars.dropWhile isBlank := by
  rw [← List.takeWhile_append_dropWhile (p := isBlank) (l := chars)] at inside
  refine (List.mem_append.mp inside).resolve_left fun skipped => ?_
  rw [List.all_eq_true.mp List.all_takeWhile c skipped] at visible
  contradiction

/-- What is more than white space is not trimmed to nothing. -/
theorem isEmpty_trim {text : String} (filled : ∃ c ∈ text.toList, isBlank c = false) :
    (trim text).isEmpty = false := by
  obtain ⟨c, inside, visible⟩ := filled
  have inFront := List.mem_reverse.mpr (mem_dropWhile inside visible)
  have kept : c ∈ trimChars text.toList := List.mem_reverse.mpr (mem_dropWhile inFront visible)
  refine Bool.eq_false_iff.mpr fun empty => ?_
  rw [String.isEmpty_iff, trim, String.ofList_eq_empty_iff] at empty
  rw [empty] at kept
  contradiction

end Text

/-! ## Changing one element -/

namespace AttributeSet

/-- A new name goes to the end. -/
theorem setEntry_of_notMem {name : String} (value : String) {entries : List (String × String)}
    (new : name ∉ entries.map Prod.fst) :
    setEntry name value entries = entries ++ [(name, value)] := by
  induction entries with
  | nil => rfl
  | cons entry entries ih =>
      rw [List.map_cons, List.mem_cons, not_or] at new
      rw [setEntry, if_neg (Ne.symm new.1), ih new.2, List.cons_append]

theorem contains_eq_false {attributes : AttributeSet} {name : String}
    (new : name ∉ attributes.names) : attributes.contains name = false := by
  rw [contains, get?, Option.isSome_eq_false_iff, Option.isNone_iff_eq_none,
    List.lookup_eq_none_iff]
  intro entry listed
  refine bne_iff_ne.mpr fun same => new ?_
  exact List.mem_map.mpr ⟨entry, listed, same.symm⟩

end AttributeSet

namespace Document

variable (before : List Element) (element : Element) (after : List Element)
  (roots : List ElementId)

theorem get?_middle :
    (Document.mk (before ++ element :: after).toArray roots).get? ⟨before.length⟩ =
      some element := by
  simp [get?]

theorem modify_middle (change : Element → Element) :
    (Document.mk (before ++ element :: after).toArray roots).modify ⟨before.length⟩ change =
      ⟨(before ++ change element :: after).toArray, roots⟩ := by
  simp [modify, List.modify_eq_set_getElem?]

theorem length_lt_size :
    before.length < (Document.mk (before ++ element :: after).toArray roots).size := by
  simp [size]

/-- Attributes with different names are all set, in their order. -/
theorem addAttributes_middle (line : Nat) (pairs : List (String × String))
    (apart : ((element.attributes.entries ++ pairs).map Prod.fst).Nodup) :
    (Document.mk (before ++ element :: after).toArray roots).addAttributes ⟨before.length⟩ line
        pairs =
      .ok ⟨(before ++ { element with attributes := ⟨element.attributes.entries ++ pairs⟩ } ::
        after).toArray, roots⟩ := by
  induction pairs generalizing element with
  | nil => rw [addAttributes, List.append_nil]
  | cons pair pairs ih =>
      obtain ⟨name, value⟩ := pair
      have new : name ∉ element.attributes.names := by
        rw [List.map_append, List.nodup_append] at apart
        exact fun listed => apart.2.2 name listed name (by simp) rfl
      have inside := length_lt_size before element after roots
      have entered : element.attributes.set name value =
          ⟨element.attributes.entries ++ [(name, value)]⟩ := by
        rw [AttributeSet.set, AttributeSet.setEntry_of_notMem value new]
      rw [addAttributes, get?_middle, Option.any_some, AttributeSet.contains_eq_false new,
        if_neg Bool.false_ne_true, setAttribute, if_neg (Nat.not_le.mpr inside), modify_middle,
        Json.ok_bind, entered, ih]
      · rw [List.append_assoc, List.singleton_append]
      · rwa [List.append_assoc, List.singleton_append]

/-- An element is added at the end of the arena. -/
theorem push_eq {name : String} (filled : ∃ c ∈ name.toList, Text.isBlank c = false) (line : Nat)
    (parent : Option ElementId) :
    (Document.mk before.toArray roots).push name line parent =
      .ok (⟨(before ++ [fresh ⟨before.length⟩ name line parent]).toArray, roots⟩,
        ⟨before.length⟩) := by
  rw [push, Text.isEmpty_trim filled, if_neg Bool.false_ne_true]
  simp [size, fresh]

theorem appendChild_middle {name : String} (filled : ∃ c ∈ name.toList, Text.isBlank c = false)
    (line : Nat) :
    (Document.mk (before ++ element :: after).toArray roots).appendChild ⟨before.length⟩ name
        line =
      .ok (⟨(before ++ { element with
            children := element.children ++ [⟨before.length + 1 + after.length⟩] } ::
          after ++ [fresh ⟨before.length + 1 + after.length⟩ name line
            (some ⟨before.length⟩)]).toArray, roots⟩,
        ⟨before.length + 1 + after.length⟩) := by
  have count : (before ++ element :: after).length = before.length + 1 + after.length := by
    rw [List.length_append, List.length_cons]
    omega
  have inside := length_lt_size before element after roots
  rw [appendChild, if_neg (Nat.not_le.mpr inside), push_eq _ _ filled, Json.ok_bind, count]
  dsimp only
  rw [List.append_assoc, List.cons_append, modify_middle, List.append_assoc, List.cons_append]

end Document

/-! ## Adding trees -/

namespace Outline

mutual

theorem length_elementsOf (parent : Option ElementId) (first : Nat) (tree : Outline) :
    (elementsOf parent first tree).length = (nodes tree).length := by
  obtain ⟨name, line, attributes, children⟩ := tree
  rw [elementsOf, nodes, List.length_cons, List.length_cons, length_elementsOfAll]

theorem length_elementsOfAll (parent : Option ElementId) (first : Nat) (trees : List Outline) :
    (elementsOfAll parent first trees).length = (nodesOfAll trees).length := by
  cases trees with
  | nil => rw [elementsOfAll, nodesOfAll, List.length_nil, List.length_nil]
  | cons tree trees =>
      rw [elementsOfAll, nodesOfAll, List.length_append, List.length_append, length_elementsOf,
        length_elementsOfAll]

end

theorem mem_nodes_self (tree : Outline) : tree ∈ nodes tree := by
  obtain ⟨name, line, attributes, children⟩ := tree
  exact List.mem_cons_self

end Outline

namespace Document

open Outline

mutual

/-- Filling the last element makes it the tree that it was made for. -/
theorem fill_last (tree : Outline) (sound : ∀ node ∈ nodes tree, node.IsSound)
    (before : List Element) (parent : Option ElementId) (roots : List ElementId) :
    (Document.mk (before ++ [fresh ⟨before.length⟩ tree.name tree.line parent]).toArray
        roots).fill ⟨before.length⟩ tree =
      .ok ⟨(before ++ elementsOf parent before.length tree).toArray, roots⟩ := by
  obtain ⟨name, line, attributes, children⟩ := tree
  have apart := (sound _ List.mem_cons_self).names_nodup
  have added := addAttributes_middle before (fresh ⟨before.length⟩ name line parent) [] roots line
    attributes apart
  have soundChildren : ∀ node ∈ nodesOfAll children, node.IsSound :=
    fun node listed => sound node (List.mem_cons_of_mem _ listed)
  rw [fill]
  refine (congrArg (· >>= _) added).trans ?_
  rw [Json.ok_bind, fillChildren_middle children soundChildren before _ [] roots]
  rfl

/-- Filling in trees puts them at the end of the arena, and their tops at the end of the
children. -/
theorem fillChildren_middle (trees : List Outline) (sound : ∀ node ∈ nodesOfAll trees, node.IsSound)
    (before : List Element) (element : Element) (after : List Element) (roots : List ElementId) :
    (Document.mk (before ++ element :: after).toArray roots).fillChildren ⟨before.length⟩ trees =
      .ok ⟨(before ++ { element with
            children := element.children ++ handles (before.length + 1 + after.length) trees } ::
          (after ++ elementsOfAll (some ⟨before.length⟩) (before.length + 1 + after.length)
            trees)).toArray, roots⟩ := by
  cases trees with
  | nil => rw [fillChildren, handles, elementsOfAll, List.append_nil, List.append_nil]
  | cons tree trees =>
      obtain ⟨soundTree, soundTrees⟩ := forall_mem_nodesOfAll_cons.mp sound
      have filled := (soundTree tree (mem_nodes_self tree)).filled
      generalize number : before.length + 1 + after.length = first
      generalize held : ({ element with children := element.children ++ [⟨first⟩] } : Element) =
        holder
      have count : (before ++ holder :: after).length = first := by
        rw [List.length_append, List.length_cons]
        omega
      have added := fill_last tree soundTree (before ++ holder :: after) (some ⟨before.length⟩)
        roots
      rw [count] at added
      have others := fillChildren_middle trees soundTrees before holder
        (after ++ elementsOf (some ⟨before.length⟩) first tree) roots
      rw [fillChildren, appendChild_middle before element after roots filled, Json.ok_bind]
      dsimp only
      -- The tree is now at the end of the arena, and the other trees come after it.
      rw [number, held, added, Json.ok_bind, List.append_assoc, List.cons_append, others]
      have further : before.length + 1 + (after ++ elementsOf (some ⟨before.length⟩) first
          tree).length = first + (nodes tree).length := by
        rw [List.length_append, length_elementsOf]
        omega
      rw [further, handles, elementsOfAll, ← held, List.append_assoc, List.append_assoc,
        List.singleton_append]

end

/-- Roots are added as trees at the end of the arena. -/
theorem addRoots_eq (trees : List Outline) (sound : ∀ node ∈ nodesOfAll trees, node.IsSound)
    (before : List Element) (roots : List ElementId) :
    (Document.mk before.toArray roots).addRoots trees =
      .ok ⟨(before ++ elementsOfAll none before.length trees).toArray,
        roots ++ handles before.length trees⟩ := by
  induction trees generalizing before roots with
  | nil => rw [addRoots, handles, elementsOfAll, List.append_nil, List.append_nil]
  | cons tree trees ih =>
      obtain ⟨soundTree, soundTrees⟩ := forall_mem_nodesOfAll_cons.mp sound
      have filled := (soundTree tree (mem_nodes_self tree)).filled
      rw [addRoots, addRoot, push_eq _ _ filled, Json.ok_bind]
      dsimp only
      rw [Json.ok_bind]
      dsimp only
      rw [fill_last tree soundTree, Json.ok_bind, ih soundTrees, handles, elementsOfAll,
        List.length_append, length_elementsOf, List.append_assoc, List.append_assoc,
        List.singleton_append]

/-- The document of a forest whose nodes are sound. -/
theorem ofOutlines_eq {forest : List Outline} (sound : ∀ node ∈ nodesOfAll forest, node.IsSound) :
    ofOutlines forest = .ok ⟨(elementsOfAll none 0 forest).toArray, handles 0 forest⟩ :=
  addRoots_eq forest sound [] []

/-! ## What is found in the document -/

mutual

/-- The elements of a tree show its nodes, in the same order. -/
theorem shows_elementsOf (parent : Option ElementId) (first : Nat) (tree : Outline) :
    List.Forall₂ Element.Shows (elementsOf parent first tree) (nodes tree) := by
  obtain ⟨name, line, attributes, children⟩ := tree
  rw [elementsOf, nodes]
  exact .cons ⟨rfl, rfl, rfl⟩ (shows_elementsOfAll _ _ children)

theorem shows_elementsOfAll (parent : Option ElementId) (first : Nat) (trees : List Outline) :
    List.Forall₂ Element.Shows (elementsOfAll parent first trees) (nodesOfAll trees) := by
  cases trees with
  | nil =>
      rw [elementsOfAll, nodesOfAll]
      exact .nil
  | cons tree trees =>
      rw [elementsOfAll, nodesOfAll]
      exact List.rel_append (shows_elementsOf _ _ tree) (shows_elementsOfAll _ _ trees)

end

/-- Where the elements of some trees stand in the arena, the document carries these trees, and has
the elements below their handles in this order. -/
theorem carries_of_elements {document : Document} (trees : List Outline)
    (before after : List Element) (parent : Option ElementId)
    (whole : document.elements.toList =
      before ++ (elementsOfAll parent before.length trees ++ after)) :
    document.Carries parent (handles before.length trees) trees ∧
      document.Preorder (handles before.length trees)
        (elementsOfAll parent before.length trees) := by
  match trees with
  | [] =>
      rw [handles, elementsOfAll]
      exact ⟨.nil, .nil⟩
  | node name line attributes children :: trees =>
      let tree := node name line attributes children
      let element : Element := ⟨⟨before.length⟩, Text.lowercase (Text.trim name), ⟨attributes⟩,
        line, parent, handles (before.length + 1) children⟩
      let below := elementsOfAll (some ⟨before.length⟩) (before.length + 1) children
      let others := elementsOfAll parent (before.length + (nodes tree).length) trees
      have split : elementsOf parent before.length tree = element :: below := by rw [elementsOf]
      have splitAll : elementsOfAll parent before.length (tree :: trees) =
          element :: below ++ others := by
        rw [elementsOfAll, split]
      have size : (element :: below).length = (nodes tree).length := by
        rw [← split, length_elementsOf]
      have found : document.get? ⟨before.length⟩ = some element := by
        have placed := get?_middle before element (below ++ others ++ after) document.roots
        rwa [← List.cons_append, ← List.cons_append, ← splitAll, ← whole] at placed
      -- What is below the first tree stands right behind its top, and the other trees after that.
      obtain ⟨carriesBelow, orderedBelow⟩ := carries_of_elements children (before ++ [element])
        (others ++ after) (some ⟨before.length⟩) (by
          rw [List.length_append, List.length_singleton, whole, splitAll]
          simp [below])
      obtain ⟨carriesOthers, orderedOthers⟩ := carries_of_elements trees
        (before ++ (element :: below)) after parent (by
          rw [List.length_append, size, whole, splitAll]
          simp [others])
      rw [List.length_append, List.length_singleton] at carriesBelow orderedBelow
      rw [List.length_append, size] at carriesOthers orderedOthers
      rw [splitAll, handles]
      exact ⟨.cons found ⟨rfl, rfl, rfl⟩ rfl carriesBelow carriesOthers,
        .cons found orderedBelow orderedOthers⟩

/-- Whatever describes a forest of sound nodes is loaded, all as one document, and that is the
forest, node for node. -/
theorem load_described (forest : List Outline) (sound : ∀ node ∈ nodesOfAll forest, node.IsSound) :
    ∃ document : Document, (∀ text, Describes forest text → load text = .ok document) ∧
      document.Depicts forest := by
  have made := ofOutlines_eq sound
  have wellFormed := (Reachable.empty.addRoots made).wellFormed
  let document : Document := ⟨(elementsOfAll none 0 forest).toArray, handles 0 forest⟩
  have whole : document.elements.toList = [] ++ (elementsOfAll none 0 forest ++ []) := by
    rw [List.nil_append, List.append_nil]
  obtain ⟨carries, ordered⟩ := carries_of_elements forest [] [] none whole
  refine ⟨document, fun text describes => ?_, carries, shows_elementsOfAll none 0 forest,
    wellFormed.id_eq, wellFormed.preorder_walk.unique ordered⟩
  rw [load, readOutlines_of_describes describes fun node listed => (sound node listed).line_lt]
  exact made

/-- A page with one paragraph. -/
def sketch : Outline :=
  node " HTML" 1 [("lang", "\u00e9")] [node "p" 0 [] []]

/-- The page as an object: turned round, with a member that does not count. -/
def sketchValue : Json :=
  .object
    [("attributes", .array [.array [.string "lang", .string "\u00e9"]]),
     ("children", .array [.object [("name", .string "p")]]),
     ("note", .null),
     ("name", .string " HTML"),
     ("line", .natural 1)]

/-- A text for the page, in which two letters are escaped. -/
def sketchText : String :=
  "\x7b\"attributes\":[[\"lang\",\"\\u00E9\"]],\"children\":[\x7b\"name\":\"p\"\x7d]," ++
    "\"note\":null,\"n\\u0061me\":\" HTML\",\"line\":1\x7d\n"

theorem isSound_sketch : ∀ node ∈ nodesOfAll [sketch], node.IsSound := by
  intro node listed
  simp only [sketch, nodesOfAll, nodes, List.cons_append, List.nil_append, List.mem_cons,
    List.not_mem_nil, or_false] at listed
  rcases listed with rfl | rfl
  · exact ⟨⟨'H', by decide, by decide⟩, by decide, by decide⟩
  · exact ⟨⟨'p', by decide, by decide⟩, by decide, by decide⟩

theorem isObject_sketch : IsObject sketch sketchValue := by
  have paragraph : IsObject (node "p" 0 [] []) (.object [("name", .string "p")]) :=
    .object (.leftOut rfl) (.leftOut rfl) .nil (.leftOut rfl) (by simp) (.refl _)
  have unknown : ∀ member ∈ [("note", Json.null)], member.1 ∉ knownKeys := by
    simp [knownKeys]
  exact .object .written .written (.cons paragraph .nil) .written unknown
    (@List.perm_append_comm _ [_, _, _] [_, _])

theorem spells_sketch : sketchValue.SpellsPadded sketchText.toList := by
  have plain (string : String) (isPlain : string.toList.all Json.isPlain = true) :
      Json.SpellsString string ('"' :: string.toList ++ ['"']) :=
    .quoted (Json.spellsChars_self isPlain)
  have member {key : String} {value : Json} {name text : List Char}
      (isKey : Json.SpellsString key name) (spells : value.Spells text) :
      Json.SpellsMember (key, value) ([] ++ name ++ [] ++ ':' :: text) :=
    .member Json.isSpace_nil isKey Json.isSpace_nil spells.padded
  have accent : Json.SpellsChars "\u00e9".toList ("\\u00E9".toList ++ []) :=
    .cons (.unit (.digits (by decide) (.inl rfl) (.inl rfl) (.inr rfl) (.inl rfl))) .nil
  have name : Json.SpellsChars "name".toList (['n'] ++ ("\\u0061".toList ++ "me".toList)) :=
    .cons (.plain (by decide) (by decide) (by decide))
      (.cons (.unit (.digits (by decide) (.inl rfl) (.inl rfl) (.inl rfl) (.inl rfl)))
        (Json.spellsChars_self (by decide)))
  have lang := Json.Spells.array (.cons (Json.Spells.string (plain "lang" (by decide))).padded
    (.last (Json.Spells.string (.quoted accent)).padded))
  have paragraph := Json.Spells.object
    (.last (member (plain "name" (by decide)) (.string (plain "p" (by decide)))))
  have one : (Json.natural 1).Spells _ := Json.spells_natural (by decide)
  have ended : Json.IsSpace ['\n'] := by simp [Json.IsSpace]
  exact .padded Json.isSpace_nil
    (.object
      (.cons (member (plain "attributes" (by decide)) (.array (.last lang.padded)))
        (.cons (member (plain "children" (by decide)) (.array (.last paragraph.padded)))
          (.cons (member (plain "note" (by decide)) .null)
            (.cons (member (.quoted name) (.string (plain " HTML" (by decide))))
              (.last (member (plain "line" (by decide)) one)))))))
    ended

/-- The page is loaded, from this text and from any other that describes it. -/
theorem load_sketch : ∃ document, load sketchText = .ok document ∧ document.Depicts [sketch] := by
  obtain ⟨document, loaded, depicts⟩ := load_described [sketch] isSound_sketch
  exact ⟨document, loaded sketchText (.alone isObject_sketch spells_sketch (by decide)), depicts⟩

end Document

end MarkupAudit
