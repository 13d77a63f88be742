/-
# Calls that fail and calls that do not

What is left of a document after any calls of the editing operations. It is always a well-formed
forest: the calls that succeed are the steps that make documents, and the calls that fail change
nothing, because each of them looks at all that it is given before it makes its first change.

This is why an operation can be described by the document that it makes, without a word on what
becomes of the old one if it is refused.
-/

import MarkupAudit.Document.Editing
import MarkupAudit.Proofs.Document.Preorder

namespace MarkupAudit

/-! ## Handles -/

namespace Document

variable {document next : Document}

/-- The handles of the elements, in the order in which these were added. -/
def ids (document : Document) : List ElementId :=
  (List.range document.size).map ElementId.mk

theorem ids_of_size_succ (size : next.size = document.size + 1) :
    next.ids = document.ids ++ [document.nextId] := by
  rw [ids, size, List.range_succ, List.map_append]
  rfl

/-- The size of a document is known from the handles that are taken. -/
theorem size_eq_of_get? {size : Nat}
    (taken : ∀ id, (∃ element, next.get? id = some element) ↔ id.index < size) :
    next.size = size := by
  have below (place : Nat) : place < next.size ↔ place < size :=
    (next.index_lt_size_iff ⟨place⟩).trans (taken ⟨place⟩)
  have first := below size
  have second := below next.size
  omega

theorem Grows.size_eq {name : String} {line : Nat} {parent : Option ElementId}
    (grows : document.Grows next name line parent) : next.size = document.size + 1 := by
  apply size_eq_of_get?
  intro id
  rw [grows.get?_eq, Nat.lt_succ_iff_lt_or_eq, document.index_lt_size_iff]
  by_cases new : id = document.nextId
  · simp [new, nextId]
  · have apart : id.index ≠ document.size := fun same => new (congrArg ElementId.mk same)
    simp [new, apart]

theorem size_eq_of_setAttribute {id : ElementId} {name value : String}
    (set : document.setAttribute id name value = .ok next) : next.size = document.size := by
  apply size_eq_of_get?
  intro other
  rw [(setAttribute_eq_ok set).2, document.index_lt_size_iff]
  split <;> simp

namespace WellFormed

/-- The elements of the arena carry the handles in their order. -/
theorem map_id_elements (wellFormed : document.WellFormed) :
    document.elements.toList.map (·.id) = document.ids := by
  apply List.ext_getElem?
  intro place
  rw [List.getElem?_map, ids, List.getElem?_map, Array.getElem?_toList]
  by_cases inside : place < document.size
  · obtain ⟨element, found⟩ := (document.index_lt_size_iff ⟨place⟩).mp inside
    have listed : document.elements[place]? = some element := found
    rw [listed, List.getElem?_range inside, Option.map_some, Option.map_some,
      wellFormed.id_eq found]
  · have outside : document.elements.size ≤ place := Nat.le_of_not_lt inside
    rw [Array.getElem?_eq_none outside, List.getElem?_eq_none]
    · rfl
    · rwa [List.length_range]

/-- Among the roots and the children of all elements, every element is listed exactly once. -/
theorem perm_roots_children (wellFormed : document.WellFormed) :
    (document.roots ++ document.elements.toList.flatMap (·.children)).Perm document.ids := by
  obtain ⟨elements, ordered⟩ := wellFormed.exists_preorder
  have complete := wellFormed.perm_of_preorder ordered
  have listed := ordered.perm_ids wellFormed
  have arena : (elements.map (·.id)).Perm document.ids := by
    rw [← wellFormed.map_id_elements]
    exact complete.map _
  have moved := (complete.flatMap_right (·.children)).append_left document.roots
  exact moved.symm.trans (listed.symm.trans arena)

end WellFormed

end Document

/-! ## One call -/

namespace Editing

variable {α β : Type} {document : Document}

/-- What an operation that makes a new document does to one in place: it is replaced, or kept if
the operation is refused. -/
def outcome (document : Document) :
    Except Failure (Document × α) → EStateM.Result Failure Document α
  | .ok (next, result) => .ok result next
  | .error failure => .error failure document

theorem bind_eq (first : Editing α) (rest : α → Editing β) (document : Document) :
    (first >>= rest) document =
      match first document with
      | .ok result next => rest result next
      | .error failure next => .error failure next := by
  show EStateM.bind first rest document = _
  unfold EStateM.bind
  cases first document <;> rfl

theorem require_of_lt {id : ElementId} (inside : id.index < document.size) :
    require id document = .ok () document := by
  obtain ⟨element, found⟩ := (document.index_lt_size_iff id).mp inside
  unfold require
  rw [bind_eq]
  show (if (document.get? id).isNone = true then _ else _ : Editing Unit) document = _
  rw [found]
  rfl

theorem require_of_le {id : ElementId} (outside : document.size ≤ id.index) :
    require id document = .error (.unknownElement id) document := by
  have missing : document.get? id = none := Array.getElem?_eq_none outside
  unfold require
  rw [bind_eq]
  show (if (document.get? id).isNone = true then _ else _ : Editing Unit) document = _
  rw [missing]
  rfl

theorem push_eq_outcome (document : Document) (name : String) (line : Nat)
    (parent : Option ElementId) :
    push name line parent document = outcome document (document.push name line parent) := by
  unfold push Document.push
  dsimp only
  split
  · rfl
  · rfl

end Editing

namespace Edit

open Editing (outcome bind_eq push_eq_outcome require_of_lt require_of_le)

variable {document : Document}

/-- The document and the handle that a call comes to, if it is not refused. -/
def apply (document : Document) : Edit → Except Failure (Document × Option ElementId)
  | addRoot name line =>
      (document.addRoot name line).map fun made => (made.1, some made.2)
  | appendChild parent name line =>
      (document.appendChild parent name line).map fun made => (made.1, some made.2)
  | setAttribute id name value =>
      (document.setAttribute id name value).map fun made => (made, none)

/-- A call in place does what the operation says, and keeps the document if that is refused. -/
theorem perform_eq_outcome (edit : Edit) (document : Document) :
    edit.perform document = outcome document (edit.apply document) := by
  cases edit with
  | addRoot name line =>
      rw [perform, bind_eq, push_eq_outcome, apply, Document.addRoot]
      cases document.push name line none <;> rfl
  | appendChild parent name line =>
      rw [perform, bind_eq, apply, Document.appendChild]
      by_cases outside : document.size ≤ parent.index
      · rw [require_of_le outside, if_pos outside]
        rfl
      · rw [require_of_lt (Nat.lt_of_not_le outside), if_neg outside]
        dsimp only
        rw [bind_eq, push_eq_outcome]
        cases document.push name line (some parent) <;> rfl
  | setAttribute id name value =>
      rw [perform, bind_eq, apply, Document.setAttribute]
      by_cases outside : document.size ≤ id.index
      · rw [require_of_le outside, if_pos outside]
        rfl
      · rw [require_of_lt (Nat.lt_of_not_le outside), if_neg outside]
        rfl

/-- A call is about an element that does not exist, or would add one with a blank name. -/
inductive Refused (document : Document) : Edit → Failure → Prop where
  | blankRoot {name : String} {line : Nat} :
      (Text.trim name).isEmpty = true → Refused document (addRoot name line) (.blankName line)
  | unknownParent {parent : ElementId} {name : String} {line : Nat} :
      document.size ≤ parent.index →
        Refused document (appendChild parent name line) (.unknownElement parent)
  | blankChild {parent : ElementId} {name : String} {line : Nat} :
      parent.index < document.size → (Text.trim name).isEmpty = true →
        Refused document (appendChild parent name line) (.blankName line)
  | unknownElement {id : ElementId} {name value : String} :
      document.size ≤ id.index →
        Refused document (setAttribute id name value) (.unknownElement id)

theorem exists_of_map_eq_ok {ε α β : Type} {attempt : Except ε α} {change : α → β} {result : β}
    (mapped : attempt.map change = .ok result) :
    ∃ made, attempt = .ok made ∧ change made = result := by
  cases attempt with
  | error reason => contradiction
  | ok made => exact ⟨made, rfl, Except.ok.inj mapped⟩

theorem map_eq_error_iff {ε α β : Type} {attempt : Except ε α} {change : α → β} {reason : ε} :
    attempt.map change = .error reason ↔ attempt = .error reason := by
  cases attempt <;> simp [Except.map]

/-- A call that is not refused makes a document, and adds the next handle to it if it adds an
element. -/
theorem reachable_of_apply (edit : Edit) (reachable : document.Reachable) {next : Document}
    {id : Option ElementId} (applied : edit.apply document = .ok (next, id)) :
    next.Reachable ∧ document.ids ++ id.toList = next.ids := by
  cases edit with
  | addRoot name line =>
      obtain ⟨⟨grown, handle⟩, added, same⟩ := exists_of_map_eq_ok applied
      obtain ⟨rfl, grows⟩ := Document.addRoot_eq_ok added
      cases same
      exact ⟨reachable.addRoot added, (Document.ids_of_size_succ grows.size_eq).symm⟩
  | appendChild parent name line =>
      obtain ⟨⟨grown, handle⟩, added, same⟩ := exists_of_map_eq_ok applied
      obtain ⟨rfl, grows⟩ := Document.appendChild_eq_ok added
      cases same
      exact ⟨reachable.appendChild added, (Document.ids_of_size_succ grows.size_eq).symm⟩
  | setAttribute id name value =>
      obtain ⟨changed, set, same⟩ := exists_of_map_eq_ok applied
      cases same
      refine ⟨reachable.setAttribute set, ?_⟩
      rw [Document.ids, Document.ids, Document.size_eq_of_setAttribute set]
      exact List.append_nil _

theorem push_eq_error_iff (document : Document) (name : String) (line : Nat)
    (parent : Option ElementId) (failure : Failure) :
    document.push name line parent = .error failure ↔
      (Text.trim name).isEmpty = true ∧ failure = .blankName line := by
  unfold Document.push
  dsimp only
  split
  · rename_i blank
    constructor
    · rintro ⟨⟩
      exact ⟨blank, rfl⟩
    · rintro ⟨_, rfl⟩
      rfl
  · rename_i filled
    exact ⟨nofun, fun both => absurd both.1 filled⟩

theorem addRoot_eq_error_iff {name : String} {line : Nat} {failure : Failure} :
    document.addRoot name line = .error failure ↔
      (Text.trim name).isEmpty = true ∧ failure = .blankName line := by
  rw [← push_eq_error_iff document name line none, Document.addRoot]
  cases document.push name line none <;> simp [bind, Except.bind]

theorem appendChild_eq_error_iff {parent : ElementId} {name : String} {line : Nat}
    {failure : Failure} :
    document.appendChild parent name line = .error failure ↔
      (document.size ≤ parent.index ∧ failure = .unknownElement parent) ∨
        (parent.index < document.size ∧ (Text.trim name).isEmpty = true ∧
          failure = .blankName line) := by
  rw [← push_eq_error_iff document name line (some parent), Document.appendChild]
  split
  · rename_i outside
    constructor
    · rintro ⟨⟩
      exact .inl ⟨outside, rfl⟩
    · rintro (⟨_, rfl⟩ | ⟨inside, _⟩)
      · rfl
      · exact absurd outside (Nat.not_le_of_lt inside)
  · rename_i inside
    simp only [inside, Nat.lt_of_not_le inside, false_and, true_and, false_or]
    cases document.push name line (some parent) <;> simp [bind, Except.bind]

/-- The operations are refused exactly for what the calls are refused. -/
theorem apply_eq_error_iff (edit : Edit) (document : Document) (failure : Failure) :
    edit.apply document = .error failure ↔ edit.Refused document failure := by
  cases edit with
  | addRoot name line =>
      rw [apply, map_eq_error_iff, addRoot_eq_error_iff]
      constructor
      · rintro ⟨blank, rfl⟩
        exact .blankRoot blank
      · rintro ⟨blank⟩
        exact ⟨blank, rfl⟩
  | appendChild parent name line =>
      rw [apply, map_eq_error_iff, appendChild_eq_error_iff]
      constructor
      · rintro (⟨outside, rfl⟩ | ⟨inside, blank, rfl⟩)
        · exact .unknownParent outside
        · exact .blankChild inside blank
      · rintro (_ | outside | ⟨inside, blank⟩)
        · exact .inl ⟨outside, rfl⟩
        · exact .inr ⟨inside, blank, rfl⟩
  | setAttribute id name value =>
      rw [apply, map_eq_error_iff, Document.setAttribute]
      constructor
      · intro refused
        split at refused
        · cases refused
          exact .unknownElement ‹_›
        · contradiction
      · rintro (_ | _ | _ | outside)
        rw [if_pos outside]

/-- A call fails exactly if it is refused, and then it leaves the document as it was. -/
theorem perform_eq_error_iff (edit : Edit) (document : Document) (failure : Failure)
    (after : Document) :
    edit.perform document = .error failure after ↔
      edit.Refused document failure ∧ after = document := by
  rw [perform_eq_outcome, ← apply_eq_error_iff]
  cases edit.apply document with
  | error reason => simp [outcome, eq_comm]
  | ok made => simp [outcome]

/-! ## Any number of calls -/

/-- Calls on a document that can be made leave one that can be made, with the elements that they
have added after those that were there. -/
theorem reachable_performAll (edits : List Edit) (reachable : document.Reachable) :
    (performAll edits document).2.Reachable ∧
      document.ids ++ (performAll edits document).1 = (performAll edits document).2.ids := by
  induction edits generalizing document with
  | nil => exact ⟨reachable, List.append_nil _⟩
  | cons edit rest ih =>
      rw [performAll, perform_eq_outcome]
      cases applied : edit.apply document with
      | error failure => exact ih reachable
      | ok made =>
          obtain ⟨next, id⟩ := made
          obtain ⟨reachableNext, added⟩ := reachable_of_apply edit reachable applied
          obtain ⟨reachableLast, later⟩ := ih reachableNext
          refine ⟨reachableLast, ?_⟩
          show document.ids ++ (id.toList ++ _) = _
          rw [← List.append_assoc, added, later]
          rfl

/-- Whatever calls are made on a new document, it stays a well-formed forest, in which the handles
count the elements in the order in which they were added, and every element is listed in exactly
one place. A call fails exactly if it is refused, and then it leaves the document as it was. -/
theorem wellFormed_performAll (edits : List Edit) :
    let handles := (performAll edits Document.empty).1
    let document := (performAll edits Document.empty).2
    document.WellFormed ∧ handles = document.ids ∧
      (document.roots ++ document.elements.toList.flatMap (·.children)).Perm document.ids ∧
      ∀ edit failure after, perform edit document = .error failure after ↔
        edit.Refused document failure ∧ after = document := by
  intro handles document
  obtain ⟨reachable, added⟩ := reachable_performAll edits .empty
  have wellFormed := reachable.wellFormed
  refine ⟨wellFormed, added, wellFormed.perm_roots_children, ?_⟩
  intro edit failure after
  exact perform_eq_error_iff edit document failure after

/-- The calls that make a page, with some in between that are refused. -/
example :
    performAll
      [appendChild ⟨0⟩ "p" 1, addRoot " HTML " 1, addRoot "\t" 1, appendChild ⟨0⟩ "p" 2,
        appendChild ⟨0⟩ "" 2, appendChild ⟨0⟩ "P" 2, setAttribute ⟨3⟩ "lang" "en",
        setAttribute ⟨0⟩ "lang" "en"] Document.empty =
      ([⟨0⟩, ⟨1⟩, ⟨2⟩], Document.page) := by
  rfl

end Edit

end MarkupAudit
