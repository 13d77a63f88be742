/-
# Well-formed documents

A document is made from the empty one by adding roots, adding children and setting attributes.
Whatever is made so is a forest: every element is addressed by its place in the arena, it is
listed once, among the roots or among the children of its parent, and it stands after its
parent. Names are in lower case, and the attributes of an element have different names.

The invariant is stated on look-ups alone. Each operation has one lemma that says what every
look-up gives afterwards, and the proofs of preservation open no operation beyond that lemma.
-/

import MarkupAudit.Document.Load

namespace MarkupAudit

/-- Setting one name more than once does not list it twice. -/
theorem AttributeSet.nodup_names_set {attributes : AttributeSet} (apart : attributes.names.Nodup)
    (name value : String) : (attributes.set name value).names.Nodup := by
  rw [names_set]
  split
  · exact apart
  · rename_i new
    rw [List.nodup_append]
    refine ⟨apart, by simp, fun other listed last added => ?_⟩
    rw [List.mem_singleton.mp added]
    rintro rfl
    exact new listed

namespace Document

/-- A document that some run of editing operations makes. An operation that is refused makes no
document, so it leaves the one it was tried on. -/
inductive Reachable : Document → Prop where
  | empty : Reachable empty
  | addRoot {document next : Document} {name : String} {line : Nat} {id : ElementId} :
      Reachable document → document.addRoot name line = .ok (next, id) → Reachable next
  | appendChild {document next : Document} {parent : ElementId} {name : String} {line : Nat}
      {id : ElementId} :
      Reachable document → document.appendChild parent name line = .ok (next, id) →
        Reachable next
  | setAttribute {document next : Document} {id : ElementId} {name value : String} :
      Reachable document → document.setAttribute id name value = .ok next → Reachable next

/-- A page with two paragraphs that look alike. -/
def page : Document where
  elements := #[
    ⟨⟨0⟩, "html", ⟨[("lang", "en")]⟩, 1, none, [⟨1⟩, ⟨2⟩]⟩,
    ⟨⟨1⟩, "p", ⟨[]⟩, 2, some ⟨0⟩, []⟩,
    ⟨⟨2⟩, "p", ⟨[]⟩, 2, some ⟨0⟩, []⟩]
  roots := [⟨0⟩]

theorem reachable_page : page.Reachable := by
  have root := Reachable.empty.addRoot (rfl : empty.addRoot " HTML " 1 = .ok (_, ⟨0⟩))
  have first := root.appendChild (rfl : Document.appendChild _ ⟨0⟩ "p" 2 = .ok (_, ⟨1⟩))
  have second := first.appendChild (rfl : Document.appendChild _ ⟨0⟩ "P" 2 = .ok (_, ⟨2⟩))
  exact second.setAttribute (rfl : Document.setAttribute _ ⟨0⟩ "lang" "en" = .ok page)

/-- A document is a forest in an arena. -/
structure WellFormed (document : Document) : Prop where
  /-- An element carries the handle under which it is found. -/
  id_eq : ∀ {id element}, document.get? id = some element → element.id = id
  /-- The roots are the elements without a parent. -/
  mem_roots : ∀ id, id ∈ document.roots ↔
    ∃ element, document.get? id = some element ∧ element.parent = none
  /-- The children of an element are those that have it as their parent. -/
  mem_children : ∀ {id parent}, document.get? id = some parent → ∀ child,
    child ∈ parent.children ↔
      ∃ element, document.get? child = some element ∧ element.parent = some id
  /-- A parent stands before its children. -/
  parent_lt : ∀ {id element parent}, document.get? id = some element →
    element.parent = some parent → parent.index < id.index
  /-- The roots are listed in the order in which they were added. -/
  roots_increasing : document.roots.Pairwise (·.index < ·.index)
  /-- Children are listed in the order in which they were added. -/
  children_increasing : ∀ {id element}, document.get? id = some element →
    element.children.Pairwise (·.index < ·.index)
  /-- A name is trimmed and in lower case, and it was not blank. -/
  name_eq : ∀ {id element}, document.get? id = some element →
    ∃ text, (Text.trim text).isEmpty = false ∧ element.name = Text.lowercase (Text.trim text)
  /-- No two attributes of an element have one name. -/
  names_nodup : ∀ {id element}, document.get? id = some element → element.attributes.names.Nodup

/-! ## Look-ups after an operation -/

/-- The element that an operation adds: without attributes and children. -/
def fresh (id : ElementId) (name : String) (line : Nat) (parent : Option ElementId) : Element :=
  ⟨id, Text.lowercase (Text.trim name), AttributeSet.empty, line, parent, []⟩

/-- The handle that the next new element gets. -/
def nextId (document : Document) : ElementId := ⟨document.size⟩

theorem index_lt_size_iff (document : Document) (id : ElementId) :
    id.index < document.size ↔ ∃ element, document.get? id = some element := by
  simp only [get?, size, Array.getElem?_eq_some_iff]
  exact ⟨fun inside => ⟨_, inside, rfl⟩, fun ⟨_, inside, _⟩ => inside⟩

theorem index_lt_size_of_get? {document : Document} {id : ElementId} {element : Element}
    (found : document.get? id = some element) : id.index < document.size :=
  (document.index_lt_size_iff id).mpr ⟨element, found⟩

/-- The handle of the next element is not taken yet. -/
theorem get?_nextId (document : Document) : document.get? document.nextId = none := by
  simp [get?, nextId, size]

/-- A handle that is taken is not the next one. -/
theorem ne_nextId_of_get? {document : Document} {id : ElementId} {element : Element}
    (found : document.get? id = some element) : id ≠ document.nextId := by
  rintro rfl
  rw [get?_nextId] at found
  contradiction

theorem get?_push (document : Document) (element : Element) (roots : List ElementId)
    (id : ElementId) :
    (Document.mk (document.elements.push element) roots).get? id =
      if id = document.nextId then some element else document.get? id := by
  obtain ⟨place⟩ := id
  simp only [get?, nextId, size, Array.getElem?_push, ElementId.mk.injEq]

theorem get?_modify (document : Document) (changed : ElementId) (change : Element → Element)
    (id : ElementId) :
    (document.modify changed change).get? id =
      if id = changed then (document.get? id).map change else document.get? id := by
  obtain ⟨place⟩ := id
  obtain ⟨other⟩ := changed
  simp only [get?, modify, Array.getElem?_modify, ElementId.mk.injEq, eq_comm]

/-- What pushing an element gives, if the name is not blank. -/
theorem push_eq_ok {document next : Document} {name : String} {line : Nat}
    {parent : Option ElementId} {id : ElementId}
    (pushed : document.push name line parent = .ok (next, id)) :
    (Text.trim name).isEmpty = false ∧ id = document.nextId ∧
      next = ⟨document.elements.push (fresh document.nextId name line parent),
        document.roots⟩ := by
  simp only [push] at pushed
  split at pushed
  · contradiction
  · rename_i filled
    cases pushed
    exact ⟨by simpa using filled, rfl, rfl⟩

/-- The new handle, if an element with a given parent is listed at a given place: among the
roots or among the children of an element. -/
def newcomers (document : Document) (parent place : Option ElementId) : List ElementId :=
  if parent = place then [document.nextId] else []

theorem mem_newcomers {document : Document} {parent place : Option ElementId} {id : ElementId} :
    id ∈ document.newcomers parent place ↔ parent = place ∧ id = document.nextId := by
  unfold newcomers
  split <;> simp_all

/-- A document with one more element, below a given parent or among the roots. -/
structure Grows (document next : Document) (name : String) (line : Nat)
    (parent : Option ElementId) : Prop where
  filled : (Text.trim name).isEmpty = false
  parent_found : ∀ {id}, parent = some id → ∃ element, document.get? id = some element
  roots_eq : next.roots = document.roots ++ document.newcomers parent none
  get?_eq : ∀ other, next.get? other =
    if other = document.nextId then some (fresh document.nextId name line parent)
    else (document.get? other).map fun element =>
      { element with
        children := element.children ++ document.newcomers parent (some other) }

namespace Grows

variable {document next : Document} {name : String} {line : Nat} {parent : Option ElementId}

/-- A look-up finds the new element, or what was there before with its new child. -/
theorem get?_cases (grows : document.Grows next name line parent) {id : ElementId}
    {element : Element} (found : next.get? id = some element) :
    (id = document.nextId ∧ element = fresh document.nextId name line parent) ∨
      ∃ old, document.get? id = some old ∧ element = { old with
        children := old.children ++ document.newcomers parent (some id) } := by
  rw [grows.get?_eq] at found
  split at found
  · rename_i new
    exact .inl ⟨new, (Option.some.inj found).symm⟩
  · obtain ⟨old, foundOld, rfl⟩ := Option.map_eq_some_iff.mp found
    exact .inr ⟨old, foundOld, rfl⟩

/-- At every place, among the roots or below an element, one more element is found exactly if it
belongs there. -/
theorem exists_at_iff (grows : document.Grows next name line parent) (id : ElementId)
    (place : Option ElementId) :
    (∃ element, next.get? id = some element ∧ element.parent = place) ↔
      (∃ element, document.get? id = some element ∧ element.parent = place) ∨
        id ∈ document.newcomers parent place := by
  rw [mem_newcomers]
  constructor
  · rintro ⟨element, found, below⟩
    obtain ⟨rfl, rfl⟩ | ⟨old, foundOld, rfl⟩ := grows.get?_cases found
    · exact .inr ⟨below, rfl⟩
    · exact .inl ⟨old, foundOld, below⟩
  · rintro (⟨old, foundOld, below⟩ | ⟨below, rfl⟩)
    · rw [grows.get?_eq, if_neg (ne_nextId_of_get? foundOld), foundOld]
      exact ⟨_, rfl, below⟩
    · rw [grows.get?_eq, if_pos rfl]
      exact ⟨_, rfl, below⟩

end Grows

/-- The new handle comes after all others, wherever it is listed. -/
theorem increasing_newcomers {document : Document} (parent place : Option ElementId)
    {ids : List ElementId} (ordered : ids.Pairwise (·.index < ·.index))
    (earlier : ∀ id ∈ ids, id.index < document.nextId.index) :
    (ids ++ document.newcomers parent place).Pairwise (·.index < ·.index) := by
  refine List.pairwise_append.mpr ⟨ordered, ?_, fun id listed other added => ?_⟩
  · unfold newcomers
    split
    · exact List.pairwise_singleton _ _
    · exact List.Pairwise.nil
  · rw [(mem_newcomers.mp added).2]
    exact earlier id listed

/-- Adding a root puts one more element among the roots. -/
theorem addRoot_eq_ok {document next : Document} {name : String} {line : Nat} {id : ElementId}
    (added : document.addRoot name line = .ok (next, id)) :
    id = document.nextId ∧ document.Grows next name line none := by
  unfold addRoot at added
  cases pushed : document.push name line none with
  | error failure => rw [pushed] at added; contradiction
  | ok result =>
      obtain ⟨grown, handle⟩ := result
      obtain ⟨filled, rfl, rfl⟩ := push_eq_ok pushed
      rw [pushed] at added
      cases added
      refine ⟨rfl, filled, ?_, rfl, fun other => ?_⟩
      · rintro id ⟨⟩
      · simp [get?_push, newcomers]

/-- Adding a child puts one more element below its parent. -/
theorem appendChild_eq_ok {document next : Document} {parent : ElementId} {name : String}
    {line : Nat} {id : ElementId}
    (added : document.appendChild parent name line = .ok (next, id)) :
    id = document.nextId ∧ document.Grows next name line (some parent) := by
  unfold appendChild at added
  split at added
  · contradiction
  · rename_i inside
    obtain ⟨above, found⟩ := (document.index_lt_size_iff parent).mp (Nat.lt_of_not_le inside)
    cases pushed : document.push name line (some parent) with
    | error failure => rw [pushed] at added; contradiction
    | ok result =>
        obtain ⟨grown, handle⟩ := result
        obtain ⟨filled, rfl, rfl⟩ := push_eq_ok pushed
        rw [pushed] at added
        cases added
        refine ⟨rfl, filled, ?_, ?_, fun other => ?_⟩
        · rintro id ⟨⟩
          exact ⟨above, found⟩
        · simp [modify, newcomers]
        · rw [get?_modify, get?_push]
          by_cases here : other = parent
          · have apart : other ≠ document.nextId := here ▸ ne_nextId_of_get? found
            rw [if_pos here, if_neg apart, if_neg apart, newcomers, if_pos (here ▸ rfl)]
          · have elsewhere : some parent ≠ some other := fun same =>
              here (Option.some.inj same).symm
            simp [here, newcomers, elsewhere]

/-- What setting an attribute does: one element changes, in its attributes only. -/
theorem setAttribute_eq_ok {document next : Document} {id : ElementId} {name value : String}
    (set : document.setAttribute id name value = .ok next) :
    next.roots = document.roots ∧
      ∀ other, next.get? other =
        if other = id then (document.get? other).map fun element =>
          { element with attributes := element.attributes.set name value }
        else document.get? other := by
  unfold setAttribute at set
  split at set
  · contradiction
  · cases set
    exact ⟨rfl, fun other => get?_modify document id _ other⟩

/-! ## The invariant -/

namespace WellFormed

theorem empty : WellFormed Document.empty where
  id_eq found := by cases found
  mem_roots id := by simp [Document.empty, get?]
  mem_children found := by cases found
  parent_lt found := by cases found
  roots_increasing := List.Pairwise.nil
  children_increasing found := by cases found
  name_eq found := by cases found
  names_nodup found := by cases found

variable {document : Document}

/-- A handle that is taken comes before the next one. -/
theorem root_lt (wellFormed : document.WellFormed) {id : ElementId} (root : id ∈ document.roots) :
    id.index < document.nextId.index := by
  obtain ⟨element, found, _⟩ := (wellFormed.mem_roots id).mp root
  exact index_lt_size_of_get? found

theorem child_lt (wellFormed : document.WellFormed) {id child : ElementId} {element : Element}
    (found : document.get? id = some element) (listed : child ∈ element.children) :
    child.index < document.nextId.index := by
  obtain ⟨below, foundBelow, _⟩ := (wellFormed.mem_children found child).mp listed
  exact index_lt_size_of_get? foundBelow

/-- The parent that an element names is in the document. -/
theorem exists_parent (wellFormed : document.WellFormed) {id parent : ElementId}
    {element : Element} (found : document.get? id = some element)
    (below : element.parent = some parent) : ∃ above, document.get? parent = some above :=
  (document.index_lt_size_iff parent).mp
    (Nat.lt_trans (wellFormed.parent_lt found below) (index_lt_size_of_get? found))

/-- No element has the next handle as its parent. -/
theorem parent_ne_nextId (wellFormed : document.WellFormed) {id : ElementId} {element : Element}
    (found : document.get? id = some element) : element.parent ≠ some document.nextId := by
  intro below
  obtain ⟨above, foundAbove⟩ := wellFormed.exists_parent found below
  exact ne_nextId_of_get? foundAbove rfl

/-- One more element leaves a document well-formed. -/
theorem grow (wellFormed : document.WellFormed) {next : Document} {name : String} {line : Nat}
    {parent : Option ElementId} (grows : document.Grows next name line parent) :
    next.WellFormed := by
  constructor
  case id_eq =>
    intro id element found
    obtain ⟨rfl, rfl⟩ | ⟨old, foundOld, rfl⟩ := grows.get?_cases found
    · rfl
    · have same := wellFormed.id_eq foundOld
      exact same
  case mem_roots =>
    intro id
    rw [grows.roots_eq, List.mem_append, wellFormed.mem_roots, grows.exists_at_iff]
  case mem_children =>
    intro id element found child
    rw [grows.exists_at_iff]
    obtain ⟨rfl, rfl⟩ | ⟨old, foundOld, rfl⟩ := grows.get?_cases found
    · -- The new element has no children, and nothing names it as its parent.
      constructor
      · intro listed
        cases listed
      · rintro (⟨old, foundOld, below⟩ | added)
        · exact absurd below (wellFormed.parent_ne_nextId foundOld)
        · obtain ⟨above, foundAbove⟩ := grows.parent_found (mem_newcomers.mp added).1
          exact absurd rfl (ne_nextId_of_get? foundAbove)
    · rw [List.mem_append, wellFormed.mem_children foundOld]
  case parent_lt =>
    intro id element above found below
    obtain ⟨rfl, rfl⟩ | ⟨old, foundOld, rfl⟩ := grows.get?_cases found
    · obtain ⟨holder, foundHolder⟩ := grows.parent_found below
      exact index_lt_size_of_get? foundHolder
    · exact wellFormed.parent_lt foundOld below
  case roots_increasing =>
    rw [grows.roots_eq]
    exact increasing_newcomers parent none wellFormed.roots_increasing
      fun id root => wellFormed.root_lt root
  case children_increasing =>
    intro id element found
    obtain ⟨rfl, rfl⟩ | ⟨old, foundOld, rfl⟩ := grows.get?_cases found
    · exact List.Pairwise.nil
    · exact increasing_newcomers parent (some id) (wellFormed.children_increasing foundOld)
        fun child listed => wellFormed.child_lt foundOld listed
  case name_eq =>
    intro id element found
    obtain ⟨rfl, rfl⟩ | ⟨old, foundOld, rfl⟩ := grows.get?_cases found
    · exact ⟨name, grows.filled, rfl⟩
    · have same := wellFormed.name_eq foundOld
      exact same
  case names_nodup =>
    intro id element found
    obtain ⟨rfl, rfl⟩ | ⟨old, foundOld, rfl⟩ := grows.get?_cases found
    · exact List.nodup_nil
    · have apart := wellFormed.names_nodup foundOld
      exact apart

/-- After an attribute has been set, a look-up finds an element that differs from the old one in
its attributes at most. -/
theorem get?_of_setAttribute (wellFormed : document.WellFormed) {next : Document}
    {id : ElementId} {name value : String} (set : document.setAttribute id name value = .ok next)
    {other : ElementId} {element : Element} (found : next.get? other = some element) :
    ∃ old, document.get? other = some old ∧ ∃ attributes : AttributeSet,
      attributes.names.Nodup ∧ element = { old with attributes := attributes } := by
  rw [(setAttribute_eq_ok set).2] at found
  split at found
  · obtain ⟨old, foundOld, rfl⟩ := Option.map_eq_some_iff.mp found
    exact ⟨old, foundOld, _, AttributeSet.nodup_names_set (wellFormed.names_nodup foundOld) _ _,
      rfl⟩
  · exact ⟨element, found, _, wellFormed.names_nodup found, rfl⟩

/-- Setting an attribute moves no element. -/
theorem exists_at_setAttribute_iff (wellFormed : document.WellFormed) {next : Document}
    {id : ElementId} {name value : String} (set : document.setAttribute id name value = .ok next)
    (other : ElementId) (place : Option ElementId) :
    (∃ element, next.get? other = some element ∧ element.parent = place) ↔
      ∃ element, document.get? other = some element ∧ element.parent = place := by
  constructor
  · rintro ⟨element, found, below⟩
    obtain ⟨old, foundOld, _, _, rfl⟩ := wellFormed.get?_of_setAttribute set found
    exact ⟨old, foundOld, below⟩
  · rintro ⟨old, foundOld, below⟩
    rw [(setAttribute_eq_ok set).2, foundOld]
    split
    · exact ⟨_, rfl, below⟩
    · exact ⟨old, rfl, below⟩

/-- Setting an attribute leaves a document well-formed: the tree and the names stay. -/
theorem setAttribute (wellFormed : document.WellFormed) {next : Document} {id : ElementId}
    {name value : String} (set : document.setAttribute id name value = .ok next) :
    next.WellFormed := by
  have roots := (setAttribute_eq_ok set).1
  constructor
  case id_eq =>
    intro other element found
    obtain ⟨old, foundOld, _, _, rfl⟩ := wellFormed.get?_of_setAttribute set found
    have same := wellFormed.id_eq foundOld
    exact same
  case mem_roots =>
    intro other
    rw [roots, wellFormed.mem_roots, wellFormed.exists_at_setAttribute_iff set]
  case mem_children =>
    intro other element found child
    obtain ⟨old, foundOld, _, _, rfl⟩ := wellFormed.get?_of_setAttribute set found
    rw [wellFormed.exists_at_setAttribute_iff set, wellFormed.mem_children foundOld]
  case parent_lt =>
    intro other element above found below
    obtain ⟨old, foundOld, _, _, rfl⟩ := wellFormed.get?_of_setAttribute set found
    exact wellFormed.parent_lt foundOld below
  case roots_increasing =>
    rw [roots]
    exact wellFormed.roots_increasing
  case children_increasing =>
    intro other element found
    obtain ⟨old, foundOld, _, _, rfl⟩ := wellFormed.get?_of_setAttribute set found
    have ordered := wellFormed.children_increasing foundOld
    exact ordered
  case name_eq =>
    intro other element found
    obtain ⟨old, foundOld, _, _, rfl⟩ := wellFormed.get?_of_setAttribute set found
    have same := wellFormed.name_eq foundOld
    exact same
  case names_nodup =>
    intro other element found
    obtain ⟨old, foundOld, attributes, apart, rfl⟩ := wellFormed.get?_of_setAttribute set found
    exact apart

end WellFormed

/-- Every document that can be made is well-formed. -/
theorem Reachable.wellFormed {document : Document} (reachable : document.Reachable) :
    document.WellFormed := by
  induction reachable with
  | empty => exact WellFormed.empty
  | addRoot _ added ih => exact ih.grow (addRoot_eq_ok added).2
  | appendChild _ added ih => exact ih.grow (appendChild_eq_ok added).2
  | setAttribute _ set ih => exact ih.setAttribute set

/-! ## Loaded documents -/

theorem Reachable.addAttributes {document next : Document} (reachable : document.Reachable)
    {id : ElementId} {line : Nat} {pairs : List (String × String)}
    (added : document.addAttributes id line pairs = .ok next) : next.Reachable := by
  induction pairs generalizing document with
  | nil =>
      cases added
      exact reachable
  | cons pair rest ih =>
      obtain ⟨name, value⟩ := pair
      unfold Document.addAttributes at added
      split at added
      · contradiction
      · cases set : document.setAttribute id name value with
        | error failure => rw [set] at added; contradiction
        | ok changed =>
            rw [set] at added
            exact ih (reachable.setAttribute set) added

mutual

theorem Reachable.fill {document next : Document} (reachable : document.Reachable)
    {id : ElementId} {outline : Outline} (filled : document.fill id outline = .ok next) :
    next.Reachable := by
  obtain ⟨name, line, attributes, children⟩ := outline
  unfold Document.fill at filled
  cases added : document.addAttributes id line attributes with
  | error failure => rw [added] at filled; contradiction
  | ok changed =>
      rw [added] at filled
      exact Reachable.fillChildren (reachable.addAttributes added) filled

theorem Reachable.fillChildren {document next : Document} (reachable : document.Reachable)
    {parent : ElementId} {outlines : List Outline}
    (filled : document.fillChildren parent outlines = .ok next) : next.Reachable := by
  cases outlines with
  | nil =>
      unfold Document.fillChildren at filled
      cases filled
      exact reachable
  | cons outline rest =>
      unfold Document.fillChildren at filled
      cases added : document.appendChild parent outline.name outline.line with
      | error failure => rw [added] at filled; contradiction
      | ok result =>
          obtain ⟨grown, id⟩ := result
          rw [added] at filled
          change (grown.fill id outline >>= _) = _ at filled
          cases inner : grown.fill id outline with
          | error failure => rw [inner] at filled; contradiction
          | ok changed =>
              rw [inner] at filled
              exact Reachable.fillChildren
                (Reachable.fill (reachable.appendChild added) inner) filled

end

theorem Reachable.addRoots {document next : Document} (reachable : document.Reachable)
    {outlines : List Outline} (added : document.addRoots outlines = .ok next) :
    next.Reachable := by
  induction outlines generalizing document with
  | nil =>
      cases added
      exact reachable
  | cons outline rest ih =>
      unfold Document.addRoots at added
      cases root : document.addRoot outline.name outline.line with
      | error failure => rw [root] at added; contradiction
      | ok result =>
          obtain ⟨grown, id⟩ := result
          rw [root] at added
          change (grown.fill id outline >>= _) = _ at added
          cases inner : grown.fill id outline with
          | error failure => rw [inner] at added; contradiction
          | ok changed =>
              rw [inner] at added
              exact ih (Reachable.fill (reachable.addRoot root) inner) added

/-- A document that is loaded from a text is made by the same operations. -/
theorem reachable_of_load {text : String} {document : Document}
    (loaded : load text = .ok document) : document.Reachable := by
  unfold load at loaded
  split at loaded
  · contradiction
  · exact Reachable.empty.addRoots loaded

end Document

end MarkupAudit
