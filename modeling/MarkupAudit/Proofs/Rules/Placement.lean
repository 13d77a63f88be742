/-
# Where violations point

Every violation that a validation reports points at the right place: one that was found on an
element at this element, with its name and line, and one that was found on the document as a whole
at no element at all. They stand in document order, those on the document last.

A violation is stamped from a context that is never cleared. That the stamp is right nevertheless
has two reasons. The context is turned to an element before anything is found on it, so what stands
there is never that of another element; and what stands there at the end is not looked at any more,
because the context is in the global phase by then.
-/

import MarkupAudit.Proofs.Report.Shape
import MarkupAudit.Proofs.Rules.Causes

namespace MarkupAudit

/-! ## What a scan leaves in the context -/

namespace Run

variable {σ : Type} (inspector : Inspector σ) {document : Document}

/-- Whatever an inspector answers, the context stays as it is. -/
theorem context_take (run : Run σ) (answer : Answer σ) :
    (run.take answer).1.context = run.context := by
  rw [take_eq]

theorem context_visit (run : Run σ) (element : Element) :
    (run.visit inspector document element).1.context = run.context.visit document element :=
  context_take _ _

/-- Visits that pass leave the context that results from turning to one element after the other. -/
theorem context_visitAll_of_none {elements : List Element} {run next : Run σ}
    (passed : run.visitAll inspector document elements = (next, none)) :
    next.context =
      elements.foldl (fun context element => context.visit document element) run.context := by
  induction elements generalizing run with
  | nil =>
      cases passed
      rfl
  | cons element rest ih =>
      have turned : (run.visit inspector document element).1.context =
          run.context.visit document element := run.context_visit inspector element
      generalize visited : run.visit inspector document element = result at turned
      obtain ⟨first, failure⟩ := result
      cases failure with
      | some failure =>
          rw [visitAll_cons_of_some inspector visited] at passed
          cases passed
      | none =>
          rw [visitAll_cons_of_none inspector visited] at passed
          rw [ih passed, turned, List.foldl_cons]

end Run

/-- The context remembers the element to which it was turned last. -/
theorem Context.element_foldl_visit (document : Document) (elements : List Element)
    (context : Context) (nothing : context.element = none) :
    (elements.foldl (fun context element => context.visit document element) context).element =
      elements.getLast?.map (·.id) := by
  induction elements using List.reverseRecOn with
  | nil => exact nothing
  | append_singleton earlier element _ =>
      rw [List.foldl_concat, List.getLast?_concat]
      rfl

namespace RuleSet

variable (rules : RuleSet) (document : Document)

/-- An audit after a scan of a document by rules, when tags with some names have been seen
before. -/
def scanned (seen : List String) (audit : Audit) : Audit :=
  let names := seen ++ document.walk.map (·.name)
  let visited := audit.extend (rules.visitFindings document seen document.walk)
  { visited with tagsProcessed := document.walk.length }.extend (rules.documentFindings names)

/-- A scan by rules with an open audit never fails, whatever tags have been seen before. -/
theorem scan_inspector (seen : List String) {audit : Audit} (isOpen : audit.isClosed = false)
    (context : Context) :
    Run.scan rules.inspector document ⟨context, audit, Tally.ofNames seen⟩ =
      (⟨(document.walk.foldl (fun context element => context.visit document element)
          context).finish document.walk.length,
        rules.scanned document seen audit,
        Tally.ofNames (seen ++ document.walk.map (·.name))⟩, none) := by
  have startsOpen : (Run.mk context audit (Tally.ofNames seen)).audit.isClosed = false := isOpen
  obtain ⟨last, visited⟩ := visitAll_inspector rules document document.walk startsOpen rfl
  have remembered := Run.context_visitAll_of_none _ visited
  dsimp only at visited remembered
  let visits := rules.visitFindings document seen document.walk
  let counted : Audit := { audit.extend visits with tagsProcessed := document.walk.length }
  have countedOpen : (Run.mk (last.finish document.walk.length) counted
      (Tally.ofNames (seen ++ document.walk.map (·.name)))).audit.isClosed = false := isOpen
  rw [Run.scan_of_none _ visited, Run.askDocument]
  change Run.take ⟨_, counted, _⟩ _ = _
  rw [Run.take_of_isOpen countedOpen, Run.finish, inspectDocument_finish, remembered]
  rfl

/-! ## The places of the findings -/

/-- What is found on an element is reported with none of the codes for documents. -/
theorem code_of_mem_elementFindings {element : Element} {occurrences : Nat} {violation : Violation}
    (listed : violation ∈ rules.elementFindings document element occurrences) :
    violation.code ≠ .mandatoryTagMissing ∧ violation.code ≠ .tagRequiredByMissing := by
  unfold elementFindings tagFindings at listed
  split at listed
  · obtain rfl := List.mem_singleton.mp listed
    rw [(Violation.tells_found _ _ _).code_eq]
    exact ⟨nofun, nofun⟩
  · obtain ⟨defect, _, tells⟩ := TagRule.tellOf_findings _ _ _ _ _ _ violation listed
    rw [tells.code_eq]
    cases defect <;> exact ⟨nofun, nofun⟩

/-- What is found on a document is reported with one of the two codes for documents. -/
theorem code_of_mem_documentFindings {names : List String} {violation : Violation}
    (listed : violation ∈ rules.documentFindings names) :
    violation.code = .mandatoryTagMissing ∨ violation.code = .tagRequiredByMissing := by
  have reported (code : Code) (params : List String) (url : Option String) :
      ((Violation.found Context.start code params).documentedAt url).code = code :=
    ((Violation.tells_found _ _ _).documentedAt url).code_eq
  rcases List.mem_append.mp listed with missing | required
  · obtain ⟨rule, _, rfl⟩ := List.mem_map.mp missing
    exact .inl (reported _ _ _)
  · obtain ⟨tag, _, found⟩ := List.mem_flatMap.mp required
    split at found
    · cases found
    · obtain ⟨name, _, rfl⟩ := List.mem_map.mp found
      exact .inr (reported _ _ _)

end RuleSet

/-- Of two handles, each of which is that of some violation, the first is listed before the second,
or they are the same. -/
def Violation.InOrder (ids : List ElementId) (earlier later : Violation) : Prop :=
  ∀ one other : ElementId, earlier.element = some one → later.element = some other →
    one = other ∨ [one, other].Sublist ids

/-- What the visits find stands in the order of the visits. -/
theorem RuleSet.inOrder_visitFindings (rules : RuleSet) (document : Document)
    (before : List String) (elements : List Element) :
    (rules.visitFindings document before elements).Pairwise
      (Violation.InOrder (elements.map (·.id))) := by
  induction elements generalizing before with
  | nil => exact .nil
  | cons element rest ih =>
      have onHere := rules.isOn_elementFindings document element (before.count element.name + 1)
      rw [visitFindings, List.pairwise_append]
      refine ⟨?here, ?later, ?across⟩
      case here =>
        refine List.pairwise_of_forall_mem_list ?_
        intro earlier isEarlier later isLater one other atOne atOther
        rw [(onHere earlier isEarlier).element_eq] at atOne
        rw [(onHere later isLater).element_eq] at atOther
        exact .inl (Option.some.inj (atOne.symm.trans atOther))
      case later =>
        refine (ih _).imp fun inOrder => ?_
        intro one other atOne atOther
        exact (inOrder one other atOne atOther).imp_right fun listed => listed.cons _
      case across =>
        intro earlier isEarlier later isLater one other atOne atOther
        obtain ⟨next, isRest, on⟩ := rules.isOn_visitFindings document _ rest later isLater
        rw [(onHere earlier isEarlier).element_eq, Option.some_inj] at atOne
        rw [on.element_eq, Option.some_inj] at atOther
        subst atOne atOther
        refine .inr (List.cons_sublist_cons.mpr (List.singleton_sublist.mpr ?_))
        exact List.mem_map.mpr ⟨next, isRest, rfl⟩

/-- Two different items of a list without repetitions stand in one order only. -/
theorem eq_of_sublists {α : Type} {items : List α} (distinct : items.Nodup) {one other : α}
    (forth : [one, other].Sublist items) (back : [other, one].Sublist items) : one = other := by
  induction items with
  | nil => cases forth
  | cons item rest ih =>
      obtain ⟨absent, distinctRest⟩ := List.nodup_cons.mp distinct
      cases forth with
      | cons _ forth =>
          cases back with
          | cons _ back => exact ih distinctRest forth back
          | cons_cons _ back => exact absurd (forth.subset (by simp)) absent
      | cons_cons _ forth =>
          cases back with
          | cons _ back => exact absurd (back.subset (by simp)) absent
          | cons_cons _ back => rfl

/-- Between two violations on one element there is none on another. -/
theorem Violation.element_eq_of_between {ids : List ElementId} (distinct : ids.Nodup)
    {first between last : Violation} (earlier : first.InOrder ids between)
    (later : between.InOrder ids last) {id other : ElementId} (atFirst : first.element = some id)
    (atBetween : between.element = some other) (atLast : last.element = some id) :
    other = id := by
  rcases earlier id other atFirst atBetween with same | before
  · exact same.symm
  · rcases later other id atBetween atLast with same | after
    · exact same
    · exact (eq_of_sublists distinct before after).symm

/-! ## The places of an audit -/

namespace Audit

/-- The violations of an audit point at elements of a document, which are given in document order,
and at the document as a whole. -/
structure IsPlaced (audit : Audit) (document : Document) (elements : List Element) : Prop where
  isOn : ∀ violation ∈ audit.violations, violation.phase = .local →
    ∃ element ∈ elements, document.get? element.id = some element ∧ violation.IsOn element
  isOnDocument : ∀ violation ∈ audit.violations, violation.phase = .global →
    violation.IsOnDocument
  /-- What was found on the document comes last. -/
  global_last : ∀ {earlier later : Violation}, [earlier, later].Sublist audit.violations.toList →
    earlier.phase = .global → later.phase = .global
  /-- The elements come in document order. -/
  inOrder : ∀ {earlier later : Violation}, [earlier, later].Sublist audit.violations.toList →
    earlier.InOrder (elements.map (·.id)) later
  /-- Nothing comes between two violations on one element but others on this element. -/
  contiguous : ∀ {first between last : Violation} {id : ElementId},
    [first, between, last].Sublist audit.violations.toList →
      first.element = some id → last.element = some id → between.element = some id
  /-- The codes tell what was found on the document. -/
  global_iff : ∀ violation ∈ audit.violations, violation.phase = .global ↔
    violation.code = .mandatoryTagMissing ∨ violation.code = .tagRequiredByMissing

/-- The violations of an audit are those that visits found, and after them those that were found on
the document. -/
structure Consists (audit : Audit) (document : Document) (visits whole : List Violation) :
    Prop where
  violations_eq : audit.violations.toList = visits ++ whole
  onVisits : ∀ violation ∈ visits, ∃ element ∈ document.walk, violation.IsOn element
  onWhole : ∀ violation ∈ whole, violation.IsOnDocument
  visits_ordered : visits.Pairwise (Violation.InOrder (document.walk.map (·.id)))
  visits_code : ∀ violation ∈ visits,
    violation.code ≠ .mandatoryTagMissing ∧ violation.code ≠ .tagRequiredByMissing
  whole_code : ∀ violation ∈ whole,
    violation.code = .mandatoryTagMissing ∨ violation.code = .tagRequiredByMissing

namespace Consists

variable {audit : Audit} {document : Document} {visits whole : List Violation}
  (consists : audit.Consists document visits whole)
include consists

theorem mem_iff (violation : Violation) :
    violation ∈ audit.violations ↔ violation ∈ visits ∨ violation ∈ whole := by
  rw [← Array.mem_toList_iff, consists.violations_eq, List.mem_append]

theorem phase_of_mem_visits {violation : Violation} (listed : violation ∈ visits) :
    violation.phase = .local := by
  obtain ⟨element, _, on⟩ := consists.onVisits violation listed
  exact on.phase_eq

theorem phase_of_mem_whole {violation : Violation} (listed : violation ∈ whole) :
    violation.phase = .global :=
  (consists.onWhole violation listed).phase_eq

/-- The phase of a violation tells by what it was found. -/
theorem mem_visits_iff {violation : Violation} (listed : violation ∈ audit.violations) :
    violation ∈ visits ↔ violation.phase = .local := by
  refine ⟨consists.phase_of_mem_visits, fun phase => ?_⟩
  refine ((consists.mem_iff violation).mp listed).resolve_right fun onDocument => ?_
  rw [consists.phase_of_mem_whole onDocument] at phase
  contradiction

theorem mem_whole_iff {violation : Violation} (listed : violation ∈ audit.violations) :
    violation ∈ whole ↔ violation.phase = .global := by
  refine ⟨consists.phase_of_mem_whole, fun phase => ?_⟩
  refine ((consists.mem_iff violation).mp listed).resolve_left fun onElement => ?_
  rw [consists.phase_of_mem_visits onElement] at phase
  contradiction

theorem foundOnDocument_eq : audit.foundOnDocument = whole :=
  Audit.foundOnDocument_eq consists.violations_eq
    (fun violation listed => (consists.onVisits violation listed).imp fun _ => And.right)
    consists.onWhole

/-- What was found on an element points at it. -/
theorem isOn_of_mem_foundOn (distinct : (document.walk.map (·.id)).Nodup) {element : Element}
    (listed : element ∈ document.walk) {violation : Violation}
    (found : violation ∈ audit.foundOn element) : violation.IsOn element := by
  rw [Audit.foundOn_eq consists.violations_eq consists.onWhole, List.mem_filter] at found
  obtain ⟨other, isElement, on⟩ := consists.onVisits violation found.1
  have sameId : other.id = element.id := by
    simpa [on.concerns_eq] using found.2
  rwa [List.inj_on_of_nodup_map distinct isElement listed sameId] at on

theorem global_last {earlier later : Violation}
    (listed : [earlier, later].Sublist audit.violations.toList) (global : earlier.phase = .global) :
    later.phase = .global := by
  have ordered : audit.violations.toList.Pairwise fun earlier later =>
      earlier.phase = .global → later.phase = .global := by
    rw [consists.violations_eq, List.pairwise_append]
    refine ⟨?_, ?_, fun _ _ later isLater _ => consists.phase_of_mem_whole isLater⟩
    · refine List.pairwise_of_forall_mem_list fun earlier isEarlier _ _ global => ?_
      rw [consists.phase_of_mem_visits isEarlier] at global
      contradiction
    · exact List.pairwise_of_forall_mem_list fun _ _ later isLater _ =>
        consists.phase_of_mem_whole isLater
  exact List.pairwise_iff_forall_sublist.mp ordered listed global

theorem inOrder {earlier later : Violation}
    (listed : [earlier, later].Sublist audit.violations.toList) :
    earlier.InOrder (document.walk.map (·.id)) later := by
  -- What was found on the document has no place in the order of the elements.
  have apart (earlier : Violation) {later : Violation} (isLater : later ∈ whole) :
      earlier.InOrder (document.walk.map (·.id)) later := by
    intro one other _ found
    rw [(consists.onWhole later isLater).element_eq] at found
    contradiction
  have ordered : audit.violations.toList.Pairwise
      (Violation.InOrder (document.walk.map (·.id))) := by
    rw [consists.violations_eq, List.pairwise_append]
    exact ⟨consists.visits_ordered,
      List.pairwise_of_forall_mem_list fun earlier _ _ isLater => apart earlier isLater,
      fun earlier _ _ isLater => apart earlier isLater⟩
  exact List.pairwise_iff_forall_sublist.mp ordered listed

theorem contiguous (distinct : (document.walk.map (·.id)).Nodup)
    {first between last : Violation} {id : ElementId}
    (listed : [first, between, last].Sublist audit.violations.toList)
    (atFirst : first.element = some id) (atLast : last.element = some id) :
    between.element = some id := by
  have isBetween : between ∈ audit.violations := Array.mem_toList_iff.mp (listed.subset (by simp))
  have isLast : last ∈ audit.violations := Array.mem_toList_iff.mp (listed.subset (by simp))
  have before : [first, between].Sublist audit.violations.toList :=
    .trans (by simp) listed
  have after : [between, last].Sublist audit.violations.toList :=
    .trans (by simp) listed
  rcases (consists.mem_iff between).mp isBetween with visit | onDocument
  · obtain ⟨element, _, on⟩ := consists.onVisits between visit
    rw [on.element_eq, Violation.element_eq_of_between distinct (consists.inOrder before)
      (consists.inOrder after) atFirst on.element_eq atLast]
  · have global := consists.global_last after (consists.phase_of_mem_whole onDocument)
    have nowhere := consists.onWhole last ((consists.mem_whole_iff isLast).mpr global)
    rw [nowhere.element_eq] at atLast
    contradiction

theorem isPlaced (wellFormed : document.WellFormed) : audit.IsPlaced document document.walk := by
  have ordered := wellFormed.preorder_walk
  constructor
  case isOn =>
    intro violation listed phase
    obtain ⟨element, isVisited, on⟩ :=
      consists.onVisits violation ((consists.mem_visits_iff listed).mpr phase)
    exact ⟨element, isVisited, ordered.get?_of_mem wellFormed element isVisited, on⟩
  case isOnDocument =>
    intro violation listed phase
    exact consists.onWhole violation ((consists.mem_whole_iff listed).mpr phase)
  case global_last => exact consists.global_last
  case inOrder => exact consists.inOrder
  case contiguous => exact consists.contiguous (wellFormed.nodup_ids ordered)
  case global_iff =>
    intro violation listed
    rcases (consists.mem_iff violation).mp listed with visit | onDocument
    · rw [consists.phase_of_mem_visits visit]
      exact iff_of_false nofun (not_or.mpr (consists.visits_code violation visit))
    · exact iff_of_true (consists.phase_of_mem_whole onDocument)
        (consists.whole_code violation onDocument)

end Consists

end Audit

namespace RuleSet

variable (rules : RuleSet) (document : Document) (seen : List String)

/-- The audit of a validation consists of what is found on the elements and then on the document. -/
theorem consists_scanned :
    (rules.scanned document seen .empty).annotate.Consists document
      ((rules.visitFindings document seen document.walk).map Violation.categorized)
      ((rules.documentFindings (seen ++ document.walk.map (·.name))).map
        Violation.categorized) := by
  constructor
  case violations_eq =>
    rw [Audit.annotate, Array.toList_map, scanned, Audit.toList_violations_extend]
    show List.map _ ((Audit.empty.extend _).violations.toList ++ _) = _
    rw [Audit.toList_violations_extend, List.map_append]
    rfl
  case onVisits => exact rules.isOn_categorized_visitFindings document seen document.walk
  case onWhole =>
    exact List.forall_mem_map.mpr fun violation listed =>
      (rules.isOnDocument_documentFindings _ violation listed).categorized
  case visits_ordered =>
    exact List.pairwise_map.mpr (rules.inOrder_visitFindings document seen document.walk)
  case visits_code =>
    refine List.forall_mem_map.mpr fun violation listed => ?_
    obtain ⟨_, _, _, _, found⟩ := rules.mem_visitFindings document listed
    have codes := rules.code_of_mem_elementFindings document found
    exact codes
  case whole_code =>
    refine List.forall_mem_map.mpr fun violation listed => ?_
    have codes := rules.code_of_mem_documentFindings listed
    exact codes

theorem validate_eq_scanned :
    (MarkupAudit.validate rules.inspector (Tally.ofNames seen) document).1 =
      .ok (rules.scanned document seen .empty).annotate := by
  rw [MarkupAudit.validate, scan_inspector rules document seen rfl]

section Validated

variable {document} {audit : Audit} (validated : rules.validate document = .ok audit)
include validated

theorem consists_of_validate :
    audit.Consists document
      ((rules.visitFindings document [] document.walk).map Violation.categorized)
      ((rules.documentFindings (document.walk.map (·.name))).map Violation.categorized) := by
  have same := Except.ok.inj ((rules.validate_eq_scanned document []).symm.trans validated)
  exact same ▸ rules.consists_scanned document []

/-- The violations of a validation stand element by element. -/
theorem violations_eq_of_validate (wellFormed : document.WellFormed) :
    audit.violations.toList = document.walk.flatMap audit.foundOn ++ audit.foundOnDocument := by
  have consists := rules.consists_of_validate validated
  have distinct := wellFormed.nodup_ids wellFormed.preorder_walk
  rw [consists.violations_eq, consists.foundOnDocument_eq,
    funext (Audit.foundOn_eq consists.violations_eq consists.onWhole)]
  exact congrArg (· ++ _) (rules.visitFindings_eq_flatMap document [] distinct)

end Validated

/-- Whatever tags an inspector has seen before, the audit of a validation by it has every violation
in its place. The number of elements is that of the document, and the context still remembers the
last of them. -/
theorem validate_places {document : Document} (reachable : document.Reachable) :
    ∃ run audit elements,
      Run.scan rules.inspector document ⟨Context.start, Audit.empty, Tally.ofNames seen⟩ =
          (run, none) ∧
        (MarkupAudit.validate rules.inspector (Tally.ofNames seen) document).1 = .ok audit ∧
        document.Preorder document.roots elements ∧
        elements.Perm document.elements.toList ∧
        audit.IsPlaced document elements ∧
        audit.tagsProcessed = document.size ∧
        run.context.element = elements.getLast?.map (·.id) := by
  have wellFormed := reachable.wellFormed
  have ordered := wellFormed.preorder_walk
  exact ⟨_, _, document.walk, rules.scan_inspector document seen rfl Context.start,
    rules.validate_eq_scanned document seen, ordered, wellFormed.perm_of_preorder ordered,
    (rules.consists_scanned document seen).isPlaced wellFormed,
    wellFormed.length_preorder ordered,
    Context.element_foldl_visit document document.walk Context.start rfl⟩

/-- The paragraphs of a page have one name and stand on one line, and still the violations on each
of them point at the right one. -/
theorem validate_places_sized :
    Document.page.Reachable ∧ ∃ elements,
      Document.page.Preorder Document.page.roots elements ∧
      Audit.IsPlaced ⟨.fail, #[widthMissing ⟨1⟩, widthMissing ⟨2⟩,
        (Violation.ofDocument .tagRequiredByMissing ["nav", "p"]).categorized], 3, false⟩
        .page elements := by
  obtain ⟨_, audit, elements, _, validated, ordered, _, placed, _⟩ :=
    sized.validate_places [] Document.reachable_page
  cases validate_sized.symm.trans validated
  exact ⟨Document.reachable_page, elements, ordered, placed⟩

end RuleSet

end MarkupAudit
