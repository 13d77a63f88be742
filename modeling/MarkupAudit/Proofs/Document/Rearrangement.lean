/-
# Rearranged documents

Two documents that differ in order only: in the order of the roots, of the children below any
element, and of the attributes of any element. The elements of one are those of the other under
other handles. Roots and children need not be compared, since which elements are roots and which
are children of which follows from the parents.
-/

import Mathlib.Data.List.Perm.Subperm
import Mathlib.Logic.Equiv.Basic
import MarkupAudit.Proofs.Document.Preorder
import MarkupAudit.Scan.Context

namespace MarkupAudit

/-- An element of one document is the same as one of another, up to order and handles. -/
structure Element.Matches (place : ElementId → ElementId) (element other : Element) : Prop where
  id_eq : other.id = place element.id
  name_eq : other.name = element.name
  line_eq : other.line = element.line
  parent_eq : other.parent = element.parent.map place
  attributes_perm : element.attributes.entries.Perm other.attributes.entries

namespace Document

/-- A way to find the elements of a document in another one that has the same elements in
another order. -/
structure Rearrangement (first second : Document) where
  /-- The handle in the second document of an element of the first. -/
  place : ElementId → ElementId
  injective : Function.Injective place
  size_eq : first.size = second.size
  exists_match : ∀ {id element}, first.get? id = some element →
    ∃ other, second.get? (place id) = some other ∧ element.Matches place other

namespace Rearrangement

variable {first second : Document} (rearrangement : first.Rearrangement second)

/-- The element of the second document that is an element of the first. -/
def image (element : Element) : Element :=
  (second.get? (rearrangement.place element.id)).getD element

theorem get?_image (wellFormed : first.WellFormed) {id : ElementId} {element : Element}
    (found : first.get? id = some element) :
    second.get? (rearrangement.place id) = some (rearrangement.image element) ∧
      element.Matches rearrangement.place (rearrangement.image element) := by
  obtain ⟨other, foundOther, matched⟩ := rearrangement.exists_match found
  have same : rearrangement.image element = other := by
    rw [image, wellFormed.id_eq found, foundOther, Option.getD_some]
  rw [same]
  exact ⟨foundOther, matched⟩

/-- In document order, the elements of the second document are those of the first, in another
order. -/
theorem perm_walk (wellFormed : first.WellFormed) (wellFormedSecond : second.WellFormed) :
    (first.walk.map rearrangement.image).Perm second.walk := by
  have ordered := wellFormed.preorder_walk
  have orderedSecond := wellFormedSecond.preorder_walk
  have found {element : Element} (listed : element ∈ first.walk) :=
    rearrangement.get?_image wellFormed ((wellFormed.mem_preorder_iff ordered).mp listed)
  have distinct : (first.walk.map rearrangement.image).Nodup := by
    refine (List.nodup_map_iff_inj_on (List.Nodup.of_map _ (wellFormed.nodup_ids ordered))).mpr ?_
    intro element listed other isElement same
    have samePlace : rearrangement.place element.id = rearrangement.place other.id := by
      rw [← (found listed).2.id_eq, ← (found isElement).2.id_eq, same]
    exact List.inj_on_of_nodup_map (wellFormed.nodup_ids ordered) listed isElement
      (rearrangement.injective samePlace)
  have included : first.walk.map rearrangement.image ⊆ second.walk := by
    intro other listed
    obtain ⟨element, isElement, rfl⟩ := List.mem_map.mp listed
    rw [wellFormedSecond.mem_preorder_iff orderedSecond, (found isElement).2.id_eq]
    exact (found isElement).1
  refine (List.subperm_of_subset distinct included).perm_of_length_le (Nat.le_of_eq ?_)
  rw [List.length_map, wellFormed.length_preorder ordered,
    wellFormedSecond.length_preorder orderedSecond, rearrangement.size_eq]

/-- The parents of matching elements have the same name. -/
theorem parent_visit_image (wellFormed : first.WellFormed) {element : Element}
    (found : first.get? element.id = some element) :
    (Context.start.visit second (rearrangement.image element)).parent =
      (Context.start.visit first element).parent := by
  have matched := (rearrangement.get?_image wellFormed found).2
  simp only [Context.visit, matched.parent_eq]
  cases above : element.parent with
  | none => rfl
  | some parent =>
      obtain ⟨holder, foundHolder⟩ := wellFormed.exists_parent found above
      obtain ⟨foundImage, matchedHolder⟩ := rearrangement.get?_image wellFormed foundHolder
      rw [Option.map_some, Option.bind_some, Option.bind_some, foundImage, foundHolder,
        Option.map_some, Option.map_some, matchedHolder.name_eq]

end Rearrangement

/-- A page with two paragraphs above its main part. -/
def article : Document where
  elements := #[
    ⟨⟨0⟩, "html", ⟨[("lang", "en"), ("dir", "ltr")]⟩, 1, none, [⟨1⟩, ⟨2⟩, ⟨3⟩]⟩,
    ⟨⟨1⟩, "p", ⟨[]⟩, 2, some ⟨0⟩, []⟩,
    ⟨⟨2⟩, "p", ⟨[]⟩, 3, some ⟨0⟩, []⟩,
    ⟨⟨3⟩, "main", ⟨[]⟩, 4, some ⟨0⟩, []⟩]
  roots := [⟨0⟩]

/-- The same page from bottom to top, and with its attributes the other way round. -/
def turnedArticle : Document where
  elements := #[
    ⟨⟨0⟩, "html", ⟨[("dir", "ltr"), ("lang", "en")]⟩, 1, none, [⟨1⟩, ⟨2⟩, ⟨3⟩]⟩,
    ⟨⟨1⟩, "main", ⟨[]⟩, 4, some ⟨0⟩, []⟩,
    ⟨⟨2⟩, "p", ⟨[]⟩, 3, some ⟨0⟩, []⟩,
    ⟨⟨3⟩, "p", ⟨[]⟩, 2, some ⟨0⟩, []⟩]
  roots := [⟨0⟩]

theorem reachable_article : article.Reachable := by
  have root := Reachable.empty.addRoot (rfl : empty.addRoot "html" 1 = .ok (_, ⟨0⟩))
  have first := root.appendChild (rfl : Document.appendChild _ ⟨0⟩ "p" 2 = .ok (_, ⟨1⟩))
  have second := first.appendChild (rfl : Document.appendChild _ ⟨0⟩ "p" 3 = .ok (_, ⟨2⟩))
  have main := second.appendChild (rfl : Document.appendChild _ ⟨0⟩ "main" 4 = .ok (_, ⟨3⟩))
  have lang := main.setAttribute (rfl : Document.setAttribute _ ⟨0⟩ "lang" "en" = .ok _)
  exact lang.setAttribute (rfl : Document.setAttribute _ ⟨0⟩ "dir" "ltr" = .ok article)

theorem reachable_turnedArticle : turnedArticle.Reachable := by
  have root := Reachable.empty.addRoot (rfl : empty.addRoot "html" 1 = .ok (_, ⟨0⟩))
  have dir := root.setAttribute (rfl : Document.setAttribute _ ⟨0⟩ "dir" "ltr" = .ok _)
  have lang := dir.setAttribute (rfl : Document.setAttribute _ ⟨0⟩ "lang" "en" = .ok _)
  have main := lang.appendChild (rfl : Document.appendChild _ ⟨0⟩ "main" 4 = .ok (_, ⟨1⟩))
  have second := main.appendChild (rfl : Document.appendChild _ ⟨0⟩ "p" 3 = .ok (_, ⟨2⟩))
  exact second.appendChild
    (rfl : Document.appendChild _ ⟨0⟩ "p" 2 = .ok (turnedArticle, ⟨3⟩))

/-- The first paragraph and the main part change places. -/
def Rearrangement.turn : article.Rearrangement turnedArticle where
  place := Equiv.swap ⟨1⟩ ⟨3⟩
  injective := (Equiv.swap _ _).injective
  size_eq := rfl
  exists_match := by
    rintro ⟨_ | _ | _ | _ | index⟩ element found
    · cases found
      exact ⟨_, rfl, rfl, rfl, rfl, rfl, List.Perm.swap _ _ _⟩
    · cases found
      exact ⟨_, rfl, rfl, rfl, rfl, rfl, List.Perm.nil⟩
    · cases found
      exact ⟨_, rfl, rfl, rfl, rfl, rfl, List.Perm.nil⟩
    · cases found
      exact ⟨_, rfl, rfl, rfl, rfl, rfl, List.Perm.nil⟩
    · cases found

end Document

end MarkupAudit
