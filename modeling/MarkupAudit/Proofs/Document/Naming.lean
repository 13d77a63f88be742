/-
# The names under which elements are added

An element has the name under which it is added, trimmed and in lower case, whether it is added as a
root or as a child or comes out of a text, and it keeps this name whatever is done to the document
later.

The names of all elements are kept in the order in which these were added. An operation that adds
an element adds its name at the end, and the other operations leave the names alone, so loading
adds the names of the nodes in document order.
-/

import MarkupAudit.Proofs.Document.Editing
import MarkupAudit.Proofs.Document.Loading

namespace MarkupAudit.Document

open Outline (nodes nodesOfAll)

variable {document next : Document}

/-- The name of an element that is added under a given name. -/
def nameFor (name : String) : String :=
  Text.lowercase (Text.trim name)

/-- The names of the elements, in the order in which these were added. -/
def names (document : Document) : List String :=
  document.elements.toList.map (·.name)

theorem getElem?_names (document : Document) (place : Nat) :
    document.names[place]? = (document.get? ⟨place⟩).map (·.name) := by
  rw [names, List.getElem?_map, Array.getElem?_toList]
  rfl

theorem length_names (document : Document) : document.names.length = document.size := by
  rw [names, List.length_map, Array.length_toList]
  rfl

/-! ## One operation -/

/-- A document that grows has one more name, at the end. -/
theorem Grows.names_eq {name : String} {line : Nat} {parent : Option ElementId}
    (grows : document.Grows next name line parent) :
    next.names = document.names ++ [nameFor name] := by
  apply List.ext_getElem?
  intro place
  by_cases new : place = document.names.length
  · have isNext : (⟨place⟩ : ElementId) = document.nextId := by
      rw [new, length_names]
      rfl
    rw [getElem?_names, grows.get?_eq, if_pos isNext, new, List.getElem?_concat_length]
    rfl
  · have notNext : (⟨place⟩ : ElementId) ≠ document.nextId := fun same =>
      new ((congrArg ElementId.index same).trans document.length_names.symm)
    have kept : next.names[place]? = document.names[place]? := by
      rw [getElem?_names, getElem?_names, grows.get?_eq, if_neg notNext, Option.map_map]
      rfl
    rw [kept]
    rcases Nat.lt_or_gt_of_ne new with inside | behind
    · rw [List.getElem?_append_left inside]
    · rw [List.getElem?_eq_none (Nat.le_of_lt behind), List.getElem?_eq_none]
      rwa [List.length_append, List.length_singleton]

theorem names_setAttribute {id : ElementId} {name value : String}
    (set : document.setAttribute id name value = .ok next) : next.names = document.names := by
  apply List.ext_getElem?
  intro place
  rw [getElem?_names, getElem?_names, (setAttribute_eq_ok set).2]
  split
  · rw [Option.map_map]
    rfl
  · rfl

/-! ## Loading -/

theorem names_addAttributes {id : ElementId} {line : Nat} {pairs : List (String × String)}
    (added : document.addAttributes id line pairs = .ok next) : next.names = document.names := by
  induction pairs generalizing document with
  | nil =>
      cases added
      rfl
  | cons pair rest ih =>
      obtain ⟨name, value⟩ := pair
      unfold addAttributes at added
      split at added
      · contradiction
      · cases set : document.setAttribute id name value with
        | error failure => rw [set] at added; contradiction
        | ok changed =>
            rw [set] at added
            rw [ih added, names_setAttribute set]

theorem map_nodesOfAll_cons {α : Type} (key : Outline → α) (tree : Outline) (trees : List Outline) :
    (nodesOfAll (tree :: trees)).map key =
      key tree :: (nodesOfAll tree.children).map key ++ (nodesOfAll trees).map key := by
  obtain ⟨name, line, attributes, children⟩ := tree
  rw [nodesOfAll, nodes, List.map_append, List.map_cons]
  rfl

mutual

/-- Filling an element adds the names below its node. -/
theorem names_fill {document next : Document} {id : ElementId} {outline : Outline}
    (filled : document.fill id outline = .ok next) :
    next.names = document.names ++ (nodesOfAll outline.children).map (nameFor ·.name) := by
  obtain ⟨name, line, attributes, children⟩ := outline
  unfold fill at filled
  cases added : document.addAttributes id line attributes with
  | error failure => rw [added] at filled; contradiction
  | ok changed =>
      rw [added, Json.ok_bind] at filled
      rw [names_fillChildren filled, names_addAttributes added]
      rfl

theorem names_fillChildren {document next : Document} {parent : ElementId} {outlines : List Outline}
    (filled : document.fillChildren parent outlines = .ok next) :
    next.names = document.names ++ (nodesOfAll outlines).map (nameFor ·.name) := by
  cases outlines with
  | nil =>
      unfold fillChildren at filled
      cases filled
      rw [nodesOfAll, List.map_nil, List.append_nil]
  | cons outline rest =>
      unfold fillChildren at filled
      cases added : document.appendChild parent outline.name outline.line with
      | error failure => rw [added] at filled; contradiction
      | ok result =>
          obtain ⟨grown, id⟩ := result
          rw [added] at filled
          change (grown.fill id outline >>= _) = _ at filled
          cases inner : grown.fill id outline with
          | error failure => rw [inner] at filled; contradiction
          | ok changed =>
              rw [inner, Json.ok_bind] at filled
              rw [names_fillChildren filled, names_fill inner, (appendChild_eq_ok added).2.names_eq,
                map_nodesOfAll_cons, List.append_assoc, List.append_assoc]
              rfl

end

theorem names_addRoots {outlines : List Outline} (added : document.addRoots outlines = .ok next) :
    next.names = document.names ++ (nodesOfAll outlines).map (nameFor ·.name) := by
  induction outlines generalizing document with
  | nil =>
      cases added
      rw [nodesOfAll, List.map_nil, List.append_nil]
  | cons outline rest ih =>
      unfold addRoots at added
      cases root : document.addRoot outline.name outline.line with
      | error failure => rw [root] at added; contradiction
      | ok result =>
          obtain ⟨grown, id⟩ := result
          rw [root] at added
          change (grown.fill id outline >>= _) = _ at added
          cases inner : grown.fill id outline with
          | error failure => rw [inner] at added; contradiction
          | ok changed =>
              rw [inner, Json.ok_bind] at added
              rw [ih added, names_fill inner, (addRoot_eq_ok root).2.names_eq, map_nodesOfAll_cons,
                List.append_assoc, List.append_assoc]
              rfl

/-- A document that is loaded has the names of the nodes, in document order. -/
theorem names_load {text : String} {outlines : List Outline}
    (read : readOutlines text = .ok outlines) (loaded : load text = .ok document) :
    document.names = (nodesOfAll outlines).map (nameFor ·.name) := by
  rw [load, read] at loaded
  exact names_addRoots loaded

/-! ## Elements and the names they were given -/

/-- The element with a given handle was added under a given name: as a root, as a child, or as a
node of a text. After that, any calls of the editing operations may have been made. -/
inductive Entered (name : String) (id : ElementId) : Document → Prop where
  | addRoot {document next : Document} {line : Nat} : document.Reachable →
      document.addRoot name line = .ok (next, id) → Entered name id next
  | appendChild {document next : Document} {parent : ElementId} {line : Nat} :
      document.Reachable → document.appendChild parent name line = .ok (next, id) →
        Entered name id next
  | load {document : Document} {text : String} {outlines : List Outline} {node : Outline} :
      readOutlines text = .ok outlines → load text = .ok document →
        (nodesOfAll outlines)[id.index]? = some node → node.name = name →
          Entered name id document
  | edit {document : Document} (edits : List Edit) : Entered name id document →
      Entered name id (Edit.performAll edits document).2

/-- A call of an editing operation leaves the names that are there. -/
theorem names_isPrefix_apply (edit : Edit) {id : Option ElementId}
    (applied : edit.apply document = .ok (next, id)) : document.names <+: next.names := by
  cases edit with
  | addRoot name line =>
      obtain ⟨⟨grown, handle⟩, added, same⟩ := Edit.exists_of_map_eq_ok applied
      cases same
      rw [(addRoot_eq_ok added).2.names_eq]
      exact List.prefix_append _ _
  | appendChild parent name line =>
      obtain ⟨⟨grown, handle⟩, added, same⟩ := Edit.exists_of_map_eq_ok applied
      cases same
      rw [(appendChild_eq_ok added).2.names_eq]
      exact List.prefix_append _ _
  | setAttribute id name value =>
      obtain ⟨changed, set, same⟩ := Edit.exists_of_map_eq_ok applied
      cases same
      exact (names_setAttribute set).symm ▸ List.prefix_rfl

theorem names_isPrefix_performAll (edits : List Edit) (document : Document) :
    document.names <+: (Edit.performAll edits document).2.names := by
  induction edits generalizing document with
  | nil => exact List.prefix_rfl
  | cons edit rest ih =>
      rw [Edit.performAll, Edit.perform_eq_outcome]
      cases applied : edit.apply document with
      | error failure => exact ih document
      | ok made => exact (names_isPrefix_apply edit applied).trans (ih made.1)

namespace Entered

variable {name : String} {id : ElementId}

theorem reachable (entered : document.Entered name id) : document.Reachable := by
  induction entered with
  | addRoot reachable added => exact reachable.addRoot added
  | appendChild reachable added => exact reachable.appendChild added
  | load _ loaded _ _ => exact reachable_of_load loaded
  | edit edits _ reachable => exact (Edit.reachable_performAll edits reachable).1

theorem getElem?_names_eq (entered : document.Entered name id) :
    document.names[id.index]? = some (nameFor name) := by
  induction entered with
  | addRoot _ added =>
      obtain ⟨rfl, grows⟩ := addRoot_eq_ok added
      rw [grows.names_eq, ← List.getElem?_concat_length, length_names]
      rfl
  | appendChild _ added =>
      obtain ⟨rfl, grows⟩ := appendChild_eq_ok added
      rw [grows.names_eq, ← List.getElem?_concat_length, length_names]
      rfl
  | load read loaded isNode named =>
      rw [names_load read loaded, List.getElem?_map, isNode, Option.map_some, named]
  | edit edits _ kept =>
      obtain ⟨inside, _⟩ := List.getElem?_eq_some_iff.mp kept
      obtain ⟨later, extended⟩ := names_isPrefix_performAll edits _
      rw [← extended, List.getElem?_append_left inside, kept]

/-- The element has the name that it was given, trimmed and in lower case. -/
theorem exists_element (entered : document.Entered name id) :
    ∃ element, document.get? id = some element ∧ element.name = nameFor name := by
  have found := entered.getElem?_names_eq
  rw [getElem?_names] at found
  exact Option.map_eq_some_iff.mp found

end Entered

end MarkupAudit.Document
