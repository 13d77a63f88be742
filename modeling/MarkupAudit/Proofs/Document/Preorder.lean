/-
# Document order

The recursive order of the elements of a document: the roots one after the other, each element
followed by what is below its children. The walk over a document, which keeps a stack and a
bound on its visits, gives the elements in this order, and it gives each of them once.

That nothing is left out or visited twice is a matter of counting. An element is listed where
its handle is listed, among the roots or among the children of an element that is itself
listed; so it is listed as often as its parent is, and a root is listed once.
-/

import Mathlib.Data.List.Nodup
import MarkupAudit.Document.Basic
import MarkupAudit.Proofs.Document.WellFormed

namespace MarkupAudit.Document

/-- The elements at some handles and below them, in document order. -/
inductive Preorder (document : Document) : List ElementId → List Element → Prop where
  | nil : Preorder document [] []
  | cons {id : ElementId} {element : Element} {rest : List ElementId}
      {below after : List Element} :
      document.get? id = some element → Preorder document element.children below →
        Preorder document rest after →
          Preorder document (id :: rest) (element :: (below ++ after))

namespace Preorder

variable {document : Document}

/-- There is only one document order. -/
theorem unique {ids : List ElementId} {first second : List Element}
    (ordered : document.Preorder ids first) (again : document.Preorder ids second) :
    first = second := by
  induction ordered generalizing second with
  | nil =>
      cases again
      rfl
  | cons found _ _ ihBelow ihAfter =>
      cases again with
      | cons foundAgain belowAgain afterAgain =>
          obtain rfl := Option.some.inj (found.symm.trans foundAgain)
          rw [ihBelow belowAgain, ihAfter afterAgain]

/-- The walk takes the elements at the top of its stack in document order, and then goes on with
the rest of the stack. -/
theorem walkFrom_append {ids : List ElementId} {elements : List Element}
    (ordered : document.Preorder ids elements) (visits : Nat) (stack : List ElementId)
    (enough : elements.length ≤ visits) :
    document.walkFrom visits (ids ++ stack) =
      elements ++ document.walkFrom (visits - elements.length) stack := by
  induction ordered generalizing visits stack with
  | nil => rfl
  | @cons id element rest below after found _ _ ihBelow ihAfter =>
      simp only [List.length_cons, List.length_append] at enough
      obtain ⟨left, rfl⟩ : ∃ left, visits = left + 1 := ⟨visits - 1, by omega⟩
      rw [List.cons_append, walkFrom, found]
      dsimp only
      rw [ihBelow left (rest ++ stack) (by omega),
        ihAfter (left - below.length) stack (by omega), List.cons_append, List.append_assoc,
        List.length_cons, List.length_append,
        show left + 1 - (below.length + after.length + 1) =
          left - below.length - after.length by omega]

/-- The elements in document order are elements of the document. -/
theorem get?_of_mem (wellFormed : document.WellFormed) {ids : List ElementId}
    {elements : List Element} (ordered : document.Preorder ids elements) :
    ∀ element ∈ elements, document.get? element.id = some element := by
  induction ordered with
  | nil => simp
  | cons found _ _ ihBelow ihAfter =>
      intro other listed
      rcases List.mem_cons.mp listed with rfl | listed
      · rw [wellFormed.id_eq found, found]
      · rcases List.mem_append.mp listed with listed | listed
        · exact ihBelow other listed
        · exact ihAfter other listed

/-- The handles that are listed are the ones at which the order starts, and the children of the
elements that are listed. -/
theorem perm_ids (wellFormed : document.WellFormed) {ids : List ElementId}
    {elements : List Element} (ordered : document.Preorder ids elements) :
    (elements.map (·.id)).Perm (ids ++ elements.flatMap (·.children)) := by
  induction ordered with
  | nil => exact .nil
  | @cons id element rest below after found _ _ ihBelow ihAfter =>
      refine List.perm_iff_count.mpr fun handle => ?_
      have inBelow := ihBelow.count_eq handle
      have inAfter := ihAfter.count_eq handle
      simp only [List.map_cons, List.map_append, List.flatMap_cons, List.flatMap_append,
        List.count_append, List.count_cons, List.cons_append, wellFormed.id_eq found]
        at inBelow inAfter ⊢
      omega

/-- Document orders from each of some handles make up one from all of them. -/
theorem exists_of_each {ids : List ElementId}
    (each : ∀ id ∈ ids, ∃ elements, document.Preorder [id] elements) :
    ∃ elements, document.Preorder ids elements := by
  induction ids with
  | nil => exact ⟨[], .nil⟩
  | cons id rest ih =>
      obtain ⟨first, here⟩ := each id List.mem_cons_self
      obtain ⟨after, later⟩ := ih fun other listed => each other (List.mem_cons_of_mem id listed)
      cases here with
      | cons found below _ => exact ⟨_, .cons found below later⟩

end Preorder

/-- Some element has the tag. -/
def hasTag (document : Document) (tag : String) : Bool :=
  document.elements.any (·.name == tag)

namespace WellFormed

variable {document : Document}

/-- Every element has a document order from it on. The recursion goes to later handles only. -/
theorem exists_preorder_singleton (wellFormed : document.WellFormed) {id : ElementId}
    {element : Element} (found : document.get? id = some element) :
    ∃ elements, document.Preorder [id] elements := by
  generalize size : document.size - id.index = distance
  induction distance using Nat.strongRecOn generalizing id element with
  | ind distance ih =>
      have children : ∃ below, document.Preorder element.children below := by
        refine Preorder.exists_of_each fun child listed => ?_
        obtain ⟨next, foundNext, isBelow⟩ := (wellFormed.mem_children found child).mp listed
        have later := wellFormed.parent_lt foundNext isBelow
        have inside := index_lt_size_of_get? foundNext
        exact ih (document.size - child.index) (by omega) foundNext rfl
      obtain ⟨below, ordered⟩ := children
      exact ⟨_, .cons found ordered .nil⟩

/-- A document has a document order. -/
theorem exists_preorder (wellFormed : document.WellFormed) :
    ∃ elements, document.Preorder document.roots elements := by
  refine Preorder.exists_of_each fun id root => ?_
  obtain ⟨element, found, _⟩ := (wellFormed.mem_roots id).mp root
  exact wellFormed.exists_preorder_singleton found

theorem roots_nodup (wellFormed : document.WellFormed) : document.roots.Nodup :=
  wellFormed.roots_increasing.imp fun earlier same => by simp [same] at earlier

theorem children_nodup (wellFormed : document.WellFormed) {id : ElementId} {element : Element}
    (found : document.get? id = some element) : element.children.Nodup :=
  (wellFormed.children_increasing found).imp fun earlier same => by simp [same] at earlier

/-- Among the roots, an element is listed once if it has no parent, and else not at all. -/
theorem count_roots (wellFormed : document.WellFormed) {id : ElementId} {element : Element}
    (found : document.get? id = some element) :
    document.roots.count id = if element.parent = none then 1 else 0 := by
  split
  · rename_i top
    exact List.count_eq_one_of_mem wellFormed.roots_nodup
      ((wellFormed.mem_roots id).mpr ⟨element, found, top⟩)
  · rename_i below
    refine List.count_eq_zero.mpr fun root => below ?_
    obtain ⟨other, foundOther, top⟩ := (wellFormed.mem_roots id).mp root
    rwa [Option.some.inj (found.symm.trans foundOther)]

/-- Among the children of an element, another one is listed once if that is its parent, and else
not at all. -/
theorem count_children (wellFormed : document.WellFormed) {id above : ElementId}
    {element holder : Element} (found : document.get? id = some element)
    (foundAbove : document.get? above = some holder) :
    holder.children.count id = if element.parent = some above then 1 else 0 := by
  split
  · rename_i below
    exact List.count_eq_one_of_mem (wellFormed.children_nodup foundAbove)
      ((wellFormed.mem_children foundAbove id).mpr ⟨element, found, below⟩)
  · rename_i apart
    refine List.count_eq_zero.mpr fun listed => apart ?_
    obtain ⟨other, foundOther, below⟩ := (wellFormed.mem_children foundAbove id).mp listed
    rwa [Option.some.inj (found.symm.trans foundOther)]

/-- An element is a child of listed elements as often as its parent is listed. -/
theorem count_flatMap_children (wellFormed : document.WellFormed) {id : ElementId}
    {element : Element} (found : document.get? id = some element) {elements : List Element}
    (known : ∀ holder ∈ elements, document.get? holder.id = some holder) :
    (elements.flatMap (·.children)).count id =
      elements.countP fun holder => element.parent = some holder.id := by
  induction elements with
  | nil => rfl
  | cons holder rest ih =>
      have here := wellFormed.count_children found (known holder List.mem_cons_self)
      have later := ih fun other listed => known other (List.mem_cons_of_mem holder listed)
      rw [List.flatMap_cons, List.count_append, here, later, List.countP_cons, Nat.add_comm]
      simp only [decide_eq_true_eq]

/-- In document order, every element of the document is listed exactly once. -/
theorem count_preorder (wellFormed : document.WellFormed) {elements : List Element}
    (ordered : document.Preorder document.roots elements) {id : ElementId} {element : Element}
    (found : document.get? id = some element) : (elements.map (·.id)).count id = 1 := by
  -- The parent of an element has a smaller handle.
  generalize place : id.index = index
  induction index using Nat.strongRecOn generalizing id element with
  | ind index ih =>
      have listed := (ordered.perm_ids wellFormed).count_eq id
      rw [List.count_append, wellFormed.count_roots found,
        wellFormed.count_flatMap_children found (ordered.get?_of_mem wellFormed)] at listed
      cases above : element.parent with
      | none => simpa [above] using listed
      | some parent =>
          obtain ⟨holder, foundAbove⟩ := wellFormed.exists_parent found above
          have smaller := wellFormed.parent_lt found above
          have once := ih parent.index (by omega) foundAbove rfl
          have same : (elements.countP fun holder => element.parent = some holder.id) =
              (elements.map (·.id)).count parent := by
            rw [List.count, List.countP_map]
            refine List.countP_congr fun holder _ => ?_
            simp only [above, Option.some.injEq, Function.comp_apply, decide_eq_true_eq,
              beq_iff_eq]
            exact eq_comm
          rw [listed, same, once, above]
          rfl

/-- No two listed elements have one handle. -/
theorem nodup_ids (wellFormed : document.WellFormed) {elements : List Element}
    (ordered : document.Preorder document.roots elements) : (elements.map (·.id)).Nodup := by
  refine List.nodup_iff_count_eq_one.mpr fun id listed => ?_
  obtain ⟨element, isElement, rfl⟩ := List.mem_map.mp listed
  exact wellFormed.count_preorder ordered (ordered.get?_of_mem wellFormed element isElement)

/-- In a document order there is every element of the document. -/
theorem mem_preorder_iff (wellFormed : document.WellFormed) {elements : List Element}
    (ordered : document.Preorder document.roots elements) {element : Element} :
    element ∈ elements ↔ document.get? element.id = some element := by
  refine ⟨ordered.get?_of_mem wellFormed element, fun found => ?_⟩
  have listed : element.id ∈ elements.map (·.id) := by
    rw [← List.count_pos_iff, wellFormed.count_preorder ordered found]
    exact Nat.one_pos
  obtain ⟨other, isElement, same⟩ := List.mem_map.mp listed
  have foundOther := ordered.get?_of_mem wellFormed other isElement
  rw [same, found] at foundOther
  rwa [Option.some.inj foundOther]

/-- The elements of the arena are those that are found at their handles. -/
theorem mem_elements_iff (wellFormed : document.WellFormed) {element : Element} :
    element ∈ document.elements.toList ↔ document.get? element.id = some element := by
  constructor
  · intro listed
    obtain ⟨place, found⟩ := List.mem_iff_getElem?.mp listed
    have found : document.get? ⟨place⟩ = some element := by
      rwa [get?, ← Array.getElem?_toList]
    rwa [wellFormed.id_eq found]
  · intro found
    exact Array.mem_toList_iff.mpr (Array.mem_of_getElem? found)

theorem elements_nodup (wellFormed : document.WellFormed) : document.elements.toList.Nodup := by
  refine List.nodup_iff_getElem?_ne_getElem?.mpr fun first second earlier inside same => ?_
  have found : document.get? ⟨first⟩ = some document.elements.toList[first] := by
    rw [get?, ← Array.getElem?_toList, List.getElem?_eq_getElem]
  have again : document.get? ⟨second⟩ = some document.elements.toList[first] := by
    rw [get?, ← Array.getElem?_toList, ← same, List.getElem?_eq_getElem]
  have equal := (wellFormed.id_eq found).symm.trans (wellFormed.id_eq again)
  exact absurd (congrArg ElementId.index equal) (Nat.ne_of_lt earlier)

/-- The elements in document order are the elements of the arena, each of them once. -/
theorem perm_of_preorder (wellFormed : document.WellFormed) {elements : List Element}
    (ordered : document.Preorder document.roots elements) :
    elements.Perm document.elements.toList := by
  refine (List.perm_ext_iff_of_nodup (List.Nodup.of_map _ (wellFormed.nodup_ids ordered))
    wellFormed.elements_nodup).mpr fun element => ?_
  rw [wellFormed.mem_preorder_iff ordered, wellFormed.mem_elements_iff]

/-- There are as many elements in document order as the document has. -/
theorem length_preorder (wellFormed : document.WellFormed) {elements : List Element}
    (ordered : document.Preorder document.roots elements) : elements.length = document.size := by
  rw [(wellFormed.perm_of_preorder ordered).length_eq, Array.length_toList, size]

/-- The walk gives the elements in document order. -/
theorem preorder_walk (wellFormed : document.WellFormed) :
    document.Preorder document.roots document.walk := by
  obtain ⟨elements, ordered⟩ := wellFormed.exists_preorder
  have whole := ordered.walkFrom_append document.size []
    (Nat.le_of_eq (wellFormed.length_preorder ordered))
  have ended (visits : Nat) : document.walkFrom visits [] = [] := by
    cases visits <;> rfl
  rw [List.append_nil, ended, List.append_nil] at whole
  rwa [walk, whole]

/-- The walk visits the elements of the arena and no others. -/
theorem mem_walk_iff (wellFormed : document.WellFormed) (element : Element) :
    element ∈ document.walk ↔ element ∈ document.elements := by
  rw [wellFormed.mem_preorder_iff wellFormed.preorder_walk, ← wellFormed.mem_elements_iff,
    Array.mem_toList_iff]

/-- The names that a walk meets are those that elements have. -/
theorem mem_names_walk_iff (wellFormed : document.WellFormed) (name : String) :
    name ∈ document.walk.map (·.name) ↔ ∃ element ∈ document.elements, element.name = name := by
  simp only [List.mem_map, wellFormed.mem_walk_iff]

/-- A tag is met on a walk exactly if some element has it. -/
theorem mem_names_walk_iff_hasTag (wellFormed : document.WellFormed) (tag : String) :
    tag ∈ document.walk.map (·.name) ↔ document.hasTag tag = true := by
  rw [wellFormed.mem_names_walk_iff, hasTag, Array.any_eq_true']
  simp only [beq_iff_eq]

end WellFormed

end MarkupAudit.Document
