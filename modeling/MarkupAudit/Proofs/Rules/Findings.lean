/-
# What a validation finds

A validation by a rule set never fails. Its audit holds, in order, what is found on the elements
in document order and then what is found on the document as a whole. What is found on an element
depends on the element, on its parent's name, and on one number: how many elements of its name
have been visited, itself included.

Everything that is proved of validations by rules starts from the list that is defined here. It
makes no mention of contexts, audits and tallies that change from step to step.
-/

import Mathlib.Data.List.Induction
import MarkupAudit.Proofs.Document.Attributes
import MarkupAudit.Proofs.Scan.Protocol
import MarkupAudit.Rules.Inspection

namespace MarkupAudit

/-- What counts tags one at a time has counted each as often as it occurs. -/
theorem count_foldl {σ : Type} {record : σ → String → σ} {count : σ → String → Nat}
    (step : ∀ state tag other, count (record state tag) other =
      count state other + if other = tag then 1 else 0)
    (start : σ) (names : List String) (tag : String) :
    count (names.foldl record start) tag = count start tag + names.count tag := by
  induction names generalizing start with
  | nil => rfl
  | cons name rest ih =>
      rw [List.foldl_cons, ih, step, List.count_cons, Nat.add_assoc, Nat.add_comm (rest.count tag)]
      simp only [beq_iff_eq, @eq_comm _ tag name]

namespace Tally

/-- A tally of some tags, seen in turn. -/
def ofNames (names : List String) : Tally :=
  names.foldl record empty

theorem ofNames_concat (names : List String) (name : String) :
    ofNames (names ++ [name]) = (ofNames names).record name := by
  rw [ofNames, List.foldl_concat, ofNames]

/-- A tally counts occurrences. -/
theorem count_ofNames (names : List String) (tag : String) :
    (ofNames names).count tag = names.count tag :=
  (count_foldl count_record empty names tag).trans (Nat.zero_add _)

/-- A tally lists the tags in the order in which they have occurred first. -/
theorem tags_ofNames (names : List String) : (ofNames names).tags = names.eraseDups := by
  induction names using List.reverseRecOn with
  | nil => rfl
  | append_singleton names name ih =>
      rw [ofNames_concat, tags_record, ih, eraseDups_concat]
      simp only [List.mem_eraseDups]

/-- A tally lists the tags that it has seen. -/
theorem mem_tags_ofNames (names : List String) (tag : String) :
    tag ∈ (ofNames names).tags ↔ tag ∈ names := by
  rw [tags_ofNames, List.mem_eraseDups]

/-- A tally lists every tag once. -/
theorem nodup_tags_ofNames (names : List String) : (ofNames names).tags.Nodup := by
  rw [tags_ofNames]
  exact nodup_eraseDups names

/-- After a walk, a tally has not counted a tag exactly if no element has it. -/
theorem count_walk_eq_zero {document : Document} (wellFormed : document.WellFormed)
    (tag : String) :
    ((ofNames (document.walk.map (·.name))).count tag == 0) = !document.hasTag tag := by
  rw [count_ofNames, Bool.eq_iff_iff, beq_iff_eq, List.count_eq_zero,
    wellFormed.mem_names_walk_iff_hasTag, Bool.not_eq_true', Bool.not_eq_true]

end Tally

namespace RuleSet

variable (rules : RuleSet) (document : Document)

/-- What is found on an element that is the last of so many with its name. -/
def elementFindings (element : Element) (occurrences : Nat) : List Violation :=
  rules.tagFindings (Context.start.visit document element) element.name element.attributes
    occurrences

/-- What is found on some elements, visited after others with given names. -/
def visitFindings : List String → List Element → List Violation
  | _, [] => []
  | before, element :: rest =>
      rules.elementFindings document element (before.count element.name + 1) ++
        visitFindings (before ++ [element.name]) rest

/-- What is found on a document as a whole that has elements with given names. -/
def documentFindings (names : List String) : List Violation :=
  rules.missingTagFindings Context.start (Tally.ofNames names) ++
    rules.requirementFindings Context.start (Tally.ofNames names)

/-- All that is found on a document, in the order in which it is found. -/
def allFindings : List Violation :=
  rules.visitFindings document [] document.walk ++
    rules.documentFindings (document.walk.map (·.name))

/-- The findings on an element do not depend on how many elements were counted before. -/
theorem tagFindings_visit (context : Context) (element : Element) (occurrences : Nat) :
    rules.tagFindings (context.visit document element) element.name element.attributes
        occurrences =
      rules.elementFindings document element occurrences := rfl

/-- The findings on a document do not depend on the element that was visited last. -/
theorem inspectDocument_finish (context : Context) (count : Nat) (pass : String) (audit : Audit)
    (names : List String) :
    rules.inspector.inspectDocument (context.finish count) pass audit (Tally.ofNames names) =
      ⟨Tally.ofNames names, rules.documentFindings names, none⟩ := rfl

/-- In the local phase, a tag is counted first and checked then. -/
theorem inspectTag_of_local {context : Context} (isLocal : context.phase = .local) (tag : String)
    (attributes : AttributeSet) (audit : Audit) (tally : Tally) :
    rules.inspector.inspectTag context tag attributes audit tally =
      ⟨tally.record tag,
        rules.tagFindings context tag attributes ((tally.record tag).count tag), none⟩ := by
  simp only [inspector, if_pos isLocal]

/-- The visit of one element by a rule set. -/
theorem visit_inspector {run : Run Tally} (isOpen : run.audit.isClosed = false)
    {before : List String} (tallied : run.state = Tally.ofNames before) (element : Element) :
    run.visit rules.inspector document element =
      (⟨run.context.visit document element,
        run.audit.extend
          (rules.elementFindings document element (before.count element.name + 1)),
        Tally.ofNames (before ++ [element.name])⟩, none) := by
  have occurrences : (run.state.record element.name).count element.name =
      before.count element.name + 1 := by
    rw [tallied, Tally.count_record, Tally.count_ofNames, if_pos rfl]
  have state : run.state.record element.name = Tally.ofNames (before ++ [element.name]) := by
    rw [tallied, Tally.ofNames_concat]
  have visitOpen : ({ run with context := run.context.visit document element } :
      Run Tally).audit.isClosed = false := isOpen
  rw [Run.visit, Run.askTag, Run.take_of_isOpen visitOpen, inspectTag_of_local rules rfl]
  dsimp only
  rw [occurrences, state, tagFindings_visit]

/-- The visits of a rule set append what is found on the elements, and none of them fails. -/
theorem visitAll_inspector (elements : List Element) {run : Run Tally}
    (isOpen : run.audit.isClosed = false) {before : List String}
    (tallied : run.state = Tally.ofNames before) :
    ∃ context, run.visitAll rules.inspector document elements =
      (⟨context, run.audit.extend (rules.visitFindings document before elements),
        Tally.ofNames (before ++ elements.map (·.name))⟩, none) := by
  induction elements generalizing run before with
  | nil =>
      refine ⟨run.context, ?_⟩
      rw [visitFindings, Audit.extend_nil, List.map_nil, List.append_nil, ← tallied]
      rfl
  | cons element rest ih =>
      let next : Run Tally :=
        ⟨run.context.visit document element,
          run.audit.extend
            (rules.elementFindings document element (before.count element.name + 1)),
          Tally.ofNames (before ++ [element.name])⟩
      have passed : run.visit rules.inspector document element = (next, none) :=
        visit_inspector rules document isOpen tallied element
      have stillOpen : next.audit.isClosed = false := isOpen
      obtain ⟨context, visited⟩ := ih stillOpen rfl
      refine ⟨context, ?_⟩
      rw [Run.visitAll_cons_of_none _ passed, visited, Audit.extend_extend, visitFindings,
        List.map_cons, ← List.append_cons]

/-- A validation by rules never fails. Its audit holds the findings with their categories, in
order, and passes exactly if all of them are warnings. -/
theorem validate_eq_ok :
    ∃ audit, rules.validate document = .ok audit ∧
      audit.violations.toList =
        (rules.allFindings document).map Violation.categorized ∧
      audit.status =
        (if Violation.AllWarnings (rules.allFindings document) then .pass else .fail) ∧
      audit.tagsProcessed = document.walk.length ∧ audit.isClosed = false := by
  let names := document.walk.map (·.name)
  let visits := rules.visitFindings document [] document.walk
  have startsOpen : Audit.empty.isClosed = false := rfl
  obtain ⟨context, visited⟩ : ∃ context,
      Run.visitAll rules.inspector document document.walk
          ⟨Context.start, Audit.empty, Tally.empty⟩ =
        (⟨context, Audit.empty.extend visits, Tally.ofNames names⟩, none) :=
    visitAll_inspector rules document document.walk startsOpen rfl
  -- The question about the document, on the audit with the final count.
  let counted : Audit :=
    { Audit.empty.extend visits with tagsProcessed := document.walk.length }
  have scanned : Run.scan rules.inspector document ⟨Context.start, Audit.empty, Tally.empty⟩ =
      (⟨context.finish document.walk.length,
        counted.extend (rules.documentFindings names), Tally.ofNames names⟩, none) := by
    have countedOpen : (Run.mk (context.finish document.walk.length) counted
        (Tally.ofNames names)).audit.isClosed = false := rfl
    rw [Run.scan_of_none _ visited, Run.askDocument]
    change Run.take ⟨_, counted, _⟩ _ = _
    rw [Run.take_of_isOpen countedOpen, Run.finish, inspectDocument_finish]
  refine ⟨(counted.extend (rules.documentFindings names)).annotate, ?_, ?_, ?_, rfl, rfl⟩
  · rw [RuleSet.validate, MarkupAudit.validate, scanned]
  · rw [Audit.annotate, Array.toList_map, Audit.toList_violations_extend]
    show List.map _ ((Audit.empty.extend visits).violations.toList ++ _) = _
    rw [Audit.toList_violations_extend]
    rfl
  · show (rules.documentFindings names).foldl Audit.statusAfter
      (visits.foldl Audit.statusAfter .pass) = _
    rw [← List.foldl_append, Audit.foldl_statusAfter_pass, allFindings]

end RuleSet

end MarkupAudit
