/-
# The first offence

A forest can be read and still make no document: a name may be blank, and a node may have two
attributes of one name. Nothing else stops the loading of a forest, and what stops it is the first
node in document order that offends, whatever is wrong further on or further below. Of one node the
name is looked at first, then its attributes in turn.

The loops of loading are not in this order themselves. The name of a node is checked by the loop
over its siblings, and its attributes are checked one call further down. So the statement about a
loop is an equation on the failure with which it ends: this is what is found first along the nodes
that the loop is about. Such equations are put together as the lists of nodes are.
-/

import Mathlib.Data.List.Nodup
import Mathlib.Data.List.TakeWhile
import MarkupAudit.Proofs.Document.Naming
import MarkupAudit.Proofs.Json.Printing

namespace MarkupAudit

/-! ## What an offence is -/

namespace Outline

/-- A name of nothing but white space. -/
def IsBlank (name : String) : Prop := ∀ c ∈ name.toList, Text.isBlank c = true

/-- The first name in a row that stands in it once more. -/
def RepeatsFirst (names : List String) (name : String) : Prop :=
  ∃ earlier later, names = earlier ++ name :: later ∧ earlier.Nodup ∧ name ∈ earlier

/-- A node cannot be loaded, and this is how it is refused. -/
inductive Offends (node : Outline) : Failure → Prop where
  | blankName : IsBlank node.name → Offends node (.blankName node.line)
  | repeatedAttribute {name : String} : ¬IsBlank node.name →
      RepeatsFirst (node.attributes.map Prod.fst) name →
        Offends node (.repeatedAttribute name node.line)

/-- The first node of a forest that offends, in document order, is refused so. -/
def OffendsFirst (forest : List Outline) (failure : Failure) : Prop :=
  ∃ before node after, nodesOfAll forest = before ++ node :: after ∧
    (∀ earlier ∈ before, ∀ other, ¬earlier.Offends other) ∧ node.Offends failure

end Outline

/-! ## Looking for offences -/

namespace Text

/-- What is trimmed to nothing is white space. -/
theorem isEmpty_trim_iff (text : String) :
    (trim text).isEmpty = true ↔ ∀ c ∈ text.toList, isBlank c = true := by
  constructor
  · intro empty c inside
    by_contra visible
    have filled := isEmpty_trim ⟨c, inside, Bool.eq_false_iff.mpr visible⟩
    rw [filled] at empty
    contradiction
  · intro blank
    rw [String.isEmpty_iff, trim, String.ofList_eq_empty_iff, trimChars,
      List.dropWhile_eq_nil_iff.mpr blank]
    rfl

end Text

namespace Outline

/-- The first of some names that is among them before, or among some other names. -/
def repetition? (seen : List String) : List String → Option String
  | [] => none
  | name :: names => if name ∈ seen then some name else repetition? (seen ++ [name]) names

/-- How a node is refused, if its attributes are looked at alone. -/
def repetitionFailure? (node : Outline) : Option Failure :=
  (repetition? [] (node.attributes.map Prod.fst)).map (.repeatedAttribute · node.line)

/-- How a node is refused. -/
def offence? (node : Outline) : Option Failure :=
  if (Text.trim node.name).isEmpty then some (.blankName node.line) else node.repetitionFailure?

theorem repetition?_eq_some_iff {seen names : List String} {name : String} (apart : seen.Nodup) :
    repetition? seen names = some name ↔
      ∃ earlier later, names = earlier ++ name :: later ∧ (seen ++ earlier).Nodup ∧
        name ∈ seen ++ earlier := by
  induction names generalizing seen with
  | nil => simp [repetition?]
  | cons first names ih =>
      rw [repetition?]
      split
      case isTrue known =>
        constructor
        · rintro ⟨⟩
          exact ⟨[], names, rfl, by simpa using apart, by simpa using known⟩
        · rintro ⟨earlier, later, split, apartAll, inside⟩
          cases earlier with
          | nil => rw [(List.cons.inj split).1]
          | cons other earlier =>
              rw [(List.cons.inj split).1] at known
              exact absurd rfl ((List.nodup_append.mp apartAll).2.2 _ known _ List.mem_cons_self)
      case isFalse new =>
        have apartMore : (seen ++ [first]).Nodup :=
          List.concat_eq_append ▸ List.Nodup.concat new apart
        rw [ih apartMore]
        constructor
        · rintro ⟨earlier, later, rfl, apartAll, inside⟩
          refine ⟨first :: earlier, later, rfl, ?_, ?_⟩
          · rwa [List.append_assoc, List.singleton_append] at apartAll
          · rwa [List.append_assoc, List.singleton_append] at inside
        · rintro ⟨earlier, later, split, apartAll, inside⟩
          cases earlier with
          | nil =>
              rw [← (List.cons.inj split).1, List.append_nil] at inside
              exact absurd inside new
          | cons other earlier =>
              obtain ⟨rfl, rfl⟩ := List.cons.inj split
              refine ⟨earlier, later, rfl, ?_, ?_⟩
              · rwa [List.append_assoc, List.singleton_append]
              · rwa [List.append_assoc, List.singleton_append]

/-- Names of which none is repeated are different. -/
theorem repetition?_eq_none_iff {seen names : List String} (apart : seen.Nodup) :
    repetition? seen names = none ↔ (seen ++ names).Nodup := by
  induction names generalizing seen with
  | nil => simpa [repetition?] using apart
  | cons first names ih =>
      rw [repetition?]
      split
      case isTrue known =>
        refine ⟨nofun, fun apartAll => ?_⟩
        exact absurd rfl ((List.nodup_append.mp apartAll).2.2 _ known _ List.mem_cons_self)
      case isFalse new =>
        have apartMore : (seen ++ [first]).Nodup :=
          List.concat_eq_append ▸ List.Nodup.concat new apart
        rw [ih apartMore, List.append_assoc, List.singleton_append]

theorem offence?_eq_some_iff (node : Outline) (failure : Failure) :
    node.offence? = some failure ↔ node.Offends failure := by
  have blankIff := Text.isEmpty_trim_iff node.name
  rw [offence?]
  split
  case isTrue empty =>
    have blank : IsBlank node.name := blankIff.mp empty
    constructor
    · rintro ⟨⟩
      exact .blankName blank
    · rintro (_ | ⟨filled, _⟩)
      · rfl
      · exact absurd blank filled
  case isFalse visible =>
    have filled : ¬IsBlank node.name := fun blank => visible (blankIff.mpr blank)
    rw [repetitionFailure?, Option.map_eq_some_iff]
    simp only [repetition?_eq_some_iff List.nodup_nil, List.nil_append]
    constructor
    · rintro ⟨name, repeats, rfl⟩
      exact .repeatedAttribute filled repeats
    · rintro (blank | ⟨_, repeats⟩)
      · exact absurd blank filled
      · exact ⟨_, repeats, rfl⟩

theorem offence?_eq_none_iff (node : Outline) :
    node.offence? = none ↔
      ¬(IsBlank node.name ∨ ¬(node.attributes.map Prod.fst).Nodup) := by
  have blankIff : (Text.trim node.name).isEmpty = true ↔ IsBlank node.name :=
    Text.isEmpty_trim_iff node.name
  rw [offence?, not_or, not_not, ← blankIff]
  split
  case isTrue empty => exact ⟨nofun, fun sound => absurd empty sound.1⟩
  case isFalse visible =>
    rw [repetitionFailure?, Option.map_eq_none_iff, repetition?_eq_none_iff List.nodup_nil,
      List.nil_append]
    exact ⟨fun apart => ⟨visible, apart⟩, fun sound => sound.2⟩

/-- What is found first along the nodes is how the first node that offends is refused. -/
theorem findSome?_offence?_eq_some_iff (forest : List Outline) (failure : Failure) :
    (nodesOfAll forest).findSome? offence? = some failure ↔ OffendsFirst forest failure := by
  have noneIff (node : Outline) : node.offence? = none ↔ ∀ other, ¬node.Offends other := by
    simp only [Option.eq_none_iff_forall_ne_some, ne_eq, offence?_eq_some_iff]
  rw [List.findSome?_eq_some_iff]
  simp only [noneIff, offence?_eq_some_iff, OffendsFirst]
  constructor
  · rintro ⟨before, node, after, split, offends, earlier⟩
    exact ⟨before, node, after, split, earlier, offends⟩
  · rintro ⟨before, node, after, split, earlier, offends⟩
    exact ⟨before, node, after, split, offends, earlier⟩

theorem findSome?_nodesOfAll_cons (tree : Outline) (trees : List Outline) :
    (nodesOfAll (tree :: trees)).findSome? offence? =
      (tree.offence?.or ((nodesOfAll tree.children).findSome? offence?)).or
        ((nodesOfAll trees).findSome? offence?) := by
  obtain ⟨name, line, attributes, children⟩ := tree
  rw [nodesOfAll, nodes, List.findSome?_append, List.findSome?_cons]
  cases offence? (node name line attributes children) <;> rfl

end Outline

/-! ## What stops the loops -/

namespace Failure

/-- The failure of an attempt that fails. -/
def of? {α : Type} : Except Failure α → Option Failure
  | .error failure => some failure
  | .ok _ => none

theorem of?_eq_some_iff {α : Type} (attempt : Except Failure α) (failure : Failure) :
    of? attempt = some failure ↔ attempt = .error failure := by
  cases attempt <;> simp [of?]

end Failure

theorem AttributeSet.contains_iff_mem_names (attributes : AttributeSet) (name : String) :
    attributes.contains name = true ↔ name ∈ attributes.names := by
  constructor
  · intro held
    by_contra new
    rw [contains_eq_false new] at held
    contradiction
  · intro listed
    obtain ⟨⟨_, value⟩, inside, rfl⟩ := List.mem_map.mp listed
    rw [contains, get?, Option.isSome_iff_ne_none, ne_eq, List.lookup_eq_none_iff]
    exact fun apart => bne_iff_ne.mp (apart _ inside) rfl

namespace Document

open Outline
open Failure (of?)

variable {document : Document}

/-- The loop over attributes stops at the first name that the element has already. -/
theorem of?_addAttributes {id : ElementId} {element : Element}
    (found : document.get? id = some element) (line : Nat) (pairs : List (String × String)) :
    of? (document.addAttributes id line pairs) =
      (repetition? element.attributes.names (pairs.map Prod.fst)).map
        (.repeatedAttribute · line) := by
  induction pairs generalizing document element with
  | nil => rfl
  | cons pair pairs ih =>
      obtain ⟨name, value⟩ := pair
      rw [addAttributes, found, Option.any_some, List.map_cons, repetition?]
      simp only [AttributeSet.contains_iff_mem_names]
      split
      case isTrue known => rfl
      case isFalse new =>
        have inside := index_lt_size_of_get? found
        cases set : document.setAttribute id name value with
        | error failure =>
            rw [setAttribute, if_neg (Nat.not_le.mpr inside)] at set
            contradiction
        | ok next =>
            have foundNext := (setAttribute_eq_ok set).2 id
            rw [if_pos rfl, found, Option.map_some] at foundNext
            rw [Json.ok_bind, ih foundNext, AttributeSet.names_set, if_neg new]

/-- A blank name alone keeps an element from being added. -/
theorem of?_push (document : Document) (name : String) (line : Nat) (parent : Option ElementId) :
    of? (document.push name line parent) =
      if (Text.trim name).isEmpty then some (.blankName line) else none := by
  unfold push
  dsimp only
  split <;> rfl

theorem of?_addRoot (document : Document) (name : String) (line : Nat) :
    of? (document.addRoot name line) =
      if (Text.trim name).isEmpty then some (.blankName line) else none := by
  rw [← of?_push document name line none, addRoot]
  cases document.push name line none <;> rfl

theorem of?_appendChild {parent : ElementId} (inside : parent.index < document.size)
    (name : String) (line : Nat) :
    of? (document.appendChild parent name line) =
      if (Text.trim name).isEmpty then some (.blankName line) else none := by
  rw [← of?_push document name line (some parent), appendChild, if_neg (Nat.not_le.mpr inside)]
  cases document.push name line (some parent) <;> rfl

theorem Grows.get?_nextId {next : Document} {name : String} {line : Nat}
    {parent : Option ElementId} (grows : document.Grows next name line parent) :
    next.get? document.nextId = some (fresh document.nextId name line parent) := by
  rw [grows.get?_eq, if_pos rfl]

theorem size_le_of_names {next : Document} {names : List String}
    (same : next.names = document.names ++ names) : document.size ≤ next.size := by
  rw [← length_names, ← length_names, same, List.length_append]
  exact Nat.le_add_right _ _

/-- A tree is entered, filled, and then something else is done. This fails first if the tree cannot
be entered, then for what is wrong with its attributes, then for what is wrong below it. -/
theorem of?_enter {tree : Outline} {entered : Except Failure (Document × ElementId)}
    {others : Document → Except Failure Document} {later : Option Failure}
    (refused : of? entered =
      if (Text.trim tree.name).isEmpty then some (.blankName tree.line) else none)
    (filled : ∀ {grown id}, entered = .ok (grown, id) →
      of? (grown.fill id tree) =
        tree.repetitionFailure?.or ((nodesOfAll tree.children).findSome? offence?))
    (goesOn : ∀ {grown id next}, entered = .ok (grown, id) → grown.fill id tree = .ok next →
      of? (others next) = later) :
    of? (entered >>= fun (grown, id) => grown.fill id tree >>= others) =
      (tree.offence?.or ((nodesOfAll tree.children).findSome? offence?)).or later := by
  rw [offence?]
  cases entered with
  | error failure =>
      split at refused
      case isTrue empty =>
        rw [if_pos empty]
        exact refused
      case isFalse => cases refused
  | ok made =>
      obtain ⟨grown, id⟩ := made
      split at refused
      case isTrue => cases refused
      case isFalse visible =>
        rw [if_neg visible, ← filled rfl, Json.ok_bind]
        dsimp only
        cases inner : grown.fill id tree with
        | error failure => rfl
        | ok next =>
            rw [Json.ok_bind, goesOn rfl inner]
            rfl

mutual

/-- Filling an element without attributes stops at the attributes of its node, or else where the
nodes below stop it. -/
theorem of?_fill (tree : Outline) {document : Document} {id : ElementId} {element : Element}
    (found : document.get? id = some element) (bare : element.attributes = AttributeSet.empty) :
    of? (document.fill id tree) =
      tree.repetitionFailure?.or ((nodesOfAll tree.children).findSome? offence?) := by
  obtain ⟨name, line, attributes, children⟩ := tree
  have stopped : of? (document.addAttributes id line attributes) =
      (node name line attributes children).repetitionFailure? := by
    rw [of?_addAttributes found, bare]
    rfl
  rw [← stopped, fill]
  cases added : document.addAttributes id line attributes with
  | error failure => rfl
  | ok next =>
      have size := size_le_of_names ((names_addAttributes added).trans (List.append_nil _).symm)
      have inside := Nat.lt_of_lt_of_le (index_lt_size_of_get? found) size
      exact of?_fillChildren children inside

/-- The loop over children stops at the first node that offends. -/
theorem of?_fillChildren (trees : List Outline) {document : Document} {parent : ElementId}
    (inside : parent.index < document.size) :
    of? (document.fillChildren parent trees) = (nodesOfAll trees).findSome? offence? := by
  cases trees with
  | nil =>
      rw [fillChildren, nodesOfAll]
      rfl
  | cons tree trees =>
      rw [fillChildren, findSome?_nodesOfAll_cons]
      apply of?_enter
      case refused => exact of?_appendChild inside tree.name tree.line
      case filled =>
        intro grown id added
        obtain ⟨rfl, grows⟩ := appendChild_eq_ok added
        exact of?_fill tree grows.get?_nextId rfl
      case goesOn =>
        intro grown id next added filled
        have grew := size_le_of_names (appendChild_eq_ok added).2.names_eq
        have size := size_le_of_names (names_fill filled)
        exact of?_fillChildren trees (Nat.lt_of_lt_of_le inside (Nat.le_trans grew size))

end

/-- The loop over roots stops at the first node that offends. -/
theorem of?_addRoots (document : Document) (trees : List Outline) :
    of? (document.addRoots trees) = (nodesOfAll trees).findSome? offence? := by
  induction trees generalizing document with
  | nil => rfl
  | cons tree trees ih =>
      rw [addRoots, findSome?_nodesOfAll_cons]
      apply of?_enter
      case refused => exact of?_addRoot document tree.name tree.line
      case filled =>
        intro grown id added
        obtain ⟨rfl, grows⟩ := addRoot_eq_ok added
        exact of?_fill tree grows.get?_nextId rfl
      case goesOn =>
        intro grown id next added filled
        exact ih next

/-! ## Loading -/

/-- A forest that is read from a text is loaded unless some node has a blank name or two attributes
of one name. If one has, then the first such node in document order decides how the text is
refused, whatever is wrong with the nodes after it: with its line, for its name if that is blank,
and else for the first of its attributes that has the name of an earlier one. -/
theorem load_offends {text : String} {forest : List Outline}
    (read : readOutlines text = .ok forest) :
    ((∃ failure, load text = .error failure) ↔
      ∃ node ∈ nodesOfAll forest,
        IsBlank node.name ∨ ¬(node.attributes.map Prod.fst).Nodup) ∧
      ∀ failure, load text = .error failure ↔ OffendsFirst forest failure := by
  have stops : of? (load text) = (nodesOfAll forest).findSome? offence? := by
    rw [load, read]
    exact of?_addRoots empty forest
  have refused (failure : Failure) :
      load text = .error failure ↔ (nodesOfAll forest).findSome? offence? = some failure := by
    rw [← stops, Failure.of?_eq_some_iff]
  constructor
  · simp only [refused, ← Option.ne_none_iff_exists', ne_eq, List.findSome?_eq_none_iff,
      offence?_eq_none_iff, not_forall, not_not, exists_prop]
  · intro failure
    rw [refused, findSome?_offence?_eq_some_iff]

/-- A list with two items. The first repeats an attribute, and a name below it is blank, as is the
name of the second. -/
def faultyList : Outline :=
  node "ul" 1 []
    [node "li" 2 [("id", "a"), ("ID", "a"), ("id", "")] [node "\t" 0 [] []], node "" 0 [] []]

/-- The list as a value, in which the nodes are arrays. -/
def faultyListValue : Json :=
  .array
    [.string "ul", .natural 1, attributesJson [],
     .array
       [.array [.string "li", .natural 2, attributesJson [("id", "a"), ("ID", "a"), ("id", "")],
          .array [.array [.string "\t"]]],
        .array [.string ""]]]

theorem readOutlines_faultyList : readOutlines faultyListValue.compact = .ok [faultyList] := by
  have small {n : Nat} (small : n < 4) : (Json.natural n).IsLegal :=
    Json.isLegal_natural (Nat.lt_trans small (by decide))
  have legal : faultyListValue.IsLegal := by
    simp [faultyListValue, attributesJson, Json.IsLegal, Json.AreLegal, small]
  have isForest : forestOf? faultyListValue = some [faultyList] := by
    simp [faultyListValue, faultyList, forestOf?, ofJson?, listOf?, itemsOf?, nameOf?,
      lineOf?_natural, attributesOf?_attributesJson]
  rw [readOutlines_of_spells (Json.spells_compact legal).padded (by decide), isForest]
  rfl

/-- The list is refused for the attribute that comes twice on line 2. -/
theorem load_offends_faultyList :
    readOutlines faultyListValue.compact = .ok [faultyList] ∧
      load faultyListValue.compact = .error (.repeatedAttribute "id" 2) := by
  have first : OffendsFirst [faultyList] (.repeatedAttribute "id" 2) :=
    (findSome?_offence?_eq_some_iff _ _).mp rfl
  exact ⟨readOutlines_faultyList, ((load_offends readOutlines_faultyList).2 _).mpr first⟩

end Document

end MarkupAudit
