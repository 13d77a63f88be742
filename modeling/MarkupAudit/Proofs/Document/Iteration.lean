/-
# The walk as an iteration

The walk over a document, one request after the other. The state between the requests is the
stack of handles that are still to be visited. A request that gives no element has one of two
reasons: the stack is empty, or the handle on top of it has no element. In a document that editing
has made only the first one occurs, and then every element has been given, once and in document
order. No bound on the number of requests takes part in this.

The invariant of the iteration is that the stack has a document order of its own. What has been
given so far, followed by this, is the order of the whole document.
-/

import MarkupAudit.Proofs.Document.Preorder

namespace MarkupAudit.Document

/-- Request the next element of a walk: what it gives, and the stack that it leaves. -/
def next (document : Document) : List ElementId → Option Element × List ElementId
  | [] => (none, [])
  | id :: stack =>
      match document.get? id with
      | none => (none, stack)
      | some element => (some element, element.children ++ stack)

/-- Requests in a row give some elements and leave a stack. -/
inductive Yields (document : Document) :
    List ElementId → List Element → List ElementId → Prop where
  | stop {stack : List ElementId} : Yields document stack [] stack
  | request {stack rest left : List ElementId} {element : Element} {elements : List Element} :
      document.next stack = (some element, rest) → Yields document rest elements left →
        Yields document stack (element :: elements) left

/-- Some elements are all that a walk over the document gives, and the walk is complete. -/
structure Traverses (document : Document) (elements : List Element) : Prop where
  /-- Requests from the roots on give the elements and use up the stack. -/
  yields : document.Yields document.roots elements []
  /-- What has been given at any time are the first ones, so no walk goes on forever. -/
  initial : ∀ {given : List Element} {stack : List ElementId},
    document.Yields document.roots given stack → given <+: elements
  /-- A request fails only after all elements have been given, and never for want of an
  element. -/
  exhausted : ∀ {given : List Element} {stack : List ElementId},
    document.Yields document.roots given stack → (document.next stack).1 = none →
      stack = [] ∧ given = elements
  /-- The roots come in their order, each element followed by what is below its children. -/
  preorder : document.Preorder document.roots elements
  /-- Every element of the arena is given once. -/
  perm : elements.Perm document.elements.toList
  length_eq : elements.length = document.size

variable {document : Document}

theorem next_cons_of_get? {id : ElementId} {element : Element}
    (found : document.get? id = some element) (stack : List ElementId) :
    document.next (id :: stack) = (some element, element.children ++ stack) := by
  rw [next, found]

theorem Yields.trans {stack middle left : List ElementId} {first second : List Element}
    (yields : document.Yields stack first middle) (later : document.Yields middle second left) :
    document.Yields stack (first ++ second) left := by
  induction yields with
  | stop => exact later
  | request given _ ih => exact .request given (ih later)

namespace Preorder

/-- Document orders from two lists of handles make up one from both. -/
theorem append {first second : List ElementId} {elements others : List Element}
    (ordered : document.Preorder first elements) (after : document.Preorder second others) :
    document.Preorder (first ++ second) (elements ++ others) := by
  induction ordered with
  | nil => exact after
  | cons found below _ _ ih =>
      rw [List.cons_append, List.cons_append, List.append_assoc]
      exact .cons found below ih

/-- Requests give the elements at the top of a stack in document order, and leave the rest of the
stack. -/
theorem yields {ids : List ElementId} {elements : List Element}
    (ordered : document.Preorder ids elements) (stack : List ElementId) :
    document.Yields (ids ++ stack) elements stack := by
  induction ordered generalizing stack with
  | nil => exact .stop
  | @cons id element rest below after found _ _ ihBelow ihAfter =>
      have given := next_cons_of_get? found (rest ++ stack)
      exact .request given ((ihBelow (rest ++ stack)).trans (ihAfter stack))

/-- One request takes the first element from the document order of a stack. -/
theorem of_next {stack rest : List ElementId} {element : Element} {elements : List Element}
    (ordered : document.Preorder stack elements)
    (given : document.next stack = (some element, rest)) :
    ∃ remaining, document.Preorder rest remaining ∧ elements = element :: remaining := by
  cases ordered with
  | nil => cases given
  | cons found below after =>
      rw [next_cons_of_get? found] at given
      cases given
      exact ⟨_, below.append after, rfl⟩

/-- After any number of requests, the document order of the stack is what has not been given. -/
theorem of_yields {stack left : List ElementId} {given elements : List Element}
    (ordered : document.Preorder stack elements) (yields : document.Yields stack given left) :
    ∃ remaining, document.Preorder left remaining ∧ elements = given ++ remaining := by
  induction yields generalizing elements with
  | stop => exact ⟨elements, ordered, rfl⟩
  | request first _ ih =>
      obtain ⟨later, orderedLater, rfl⟩ := ordered.of_next first
      obtain ⟨remaining, orderedLeft, rfl⟩ := ih orderedLater
      exact ⟨remaining, orderedLeft, rfl⟩

/-- A stack with a document order gives an element, unless it is empty. -/
theorem eq_nil_of_next {stack : List ElementId} {elements : List Element}
    (ordered : document.Preorder stack elements) (nothing : (document.next stack).1 = none) :
    stack = [] ∧ elements = [] := by
  cases ordered with
  | nil => exact ⟨rfl, rfl⟩
  | cons found _ _ =>
      rw [next_cons_of_get? found] at nothing
      cases nothing

end Preorder

/-- A walk over a document visits every element once, in document order, and ends only when there
is none left. A larger bound on the visits does not change it. -/
theorem traverses_walk (reachable : document.Reachable) :
    document.Traverses document.walk ∧
      ∀ visits, document.walkFrom (document.size + visits) document.roots = document.walk := by
  have wellFormed := reachable.wellFormed
  have ordered := wellFormed.preorder_walk
  have count := wellFormed.length_preorder ordered
  constructor
  · constructor
    case yields =>
      have whole := ordered.yields []
      rwa [List.append_nil] at whole
    case initial =>
      intro given stack yields
      obtain ⟨remaining, _, whole⟩ := ordered.of_yields yields
      exact ⟨remaining, whole.symm⟩
    case exhausted =>
      intro given stack yields nothing
      obtain ⟨remaining, orderedLeft, whole⟩ := ordered.of_yields yields
      obtain ⟨rfl, rfl⟩ := orderedLeft.eq_nil_of_next nothing
      rw [List.append_nil] at whole
      exact ⟨rfl, whole.symm⟩
    case preorder => exact ordered
    case perm => exact wellFormed.perm_of_preorder ordered
    case length_eq => exact count
  · intro visits
    have whole := ordered.walkFrom_append (document.size + visits) [] (by omega)
    rw [List.append_nil, count, Nat.add_sub_cancel_left] at whole
    rw [whole]
    cases visits <;> exact List.append_nil _

/-- The walk over a page gives the three elements of the page. -/
theorem traverses_walk_page :
    page.Reachable ∧ page.Traverses page.walk ∧
      ∀ visits, page.walkFrom (page.size + visits) page.roots = page.walk :=
  ⟨reachable_page, traverses_walk reachable_page⟩

end MarkupAudit.Document
