/-
# Document checks in either phase

An inspector can be asked about the document as a whole at any time, by a scan or directly, and what
it finds is stamped from the context as it is then. A context that has been used before may still be
turned to an element: a scan that was stopped at an element leaves it so, and nothing but another
scan turns it away. The question about a tag is refused in the wrong phase; the question about the
document is not, and then what is missing in the document is reported of that element.

The invariant is where the context is at any moment of a session: turned to the element at which the
last scan was stopped, or to no element if the last scan was not stopped or there was none.
-/

import MarkupAudit.Proofs.Audit.Session
import MarkupAudit.Proofs.Rules.Placement

namespace MarkupAudit

variable {σ : Type}

/-! ## Sessions with one context -/

/-- Something that is done with the context of a run, its audit and the state of its inspector. -/
inductive Use : Type 1 where
  | scan (document : Document)
  | askTag (tag : String) (attributes : AttributeSet)
  | askDocument (pass : String)
  /-- Something is done to the audit by others. -/
  | operate (operation : Operation)
  /-- The run goes on with another audit. -/
  | replace (audit : Audit)

/-- Do something with a run: what becomes of it, and why that failed, if it did. -/
def Use.perform (inspector : Inspector σ) (run : Run σ) : Use → Run σ × Option Failure
  | scan document => run.scan inspector document
  | askTag tag attributes => run.askTag inspector tag attributes
  | askDocument pass => run.askDocument inspector pass
  | operate operation =>
      let (audit, failure) := operation.perform run.audit
      ({ run with audit }, failure)
  | replace audit => ({ run with audit }, none)

/-- What becomes of a run in a session, whatever fails. -/
def Run.after (inspector : Inspector σ) (run : Run σ) (session : List Use) : Run σ :=
  session.foldl (fun run use => (use.perform inspector run).1) run

/-! ## Where scans are stopped -/

namespace Run

/-- The scan of a document is stopped at an element: the visits before it pass, and that of the
element fails. -/
def StopsAt (inspector : Inspector σ) (run : Run σ) (document : Document) (element : Element) :
    Prop :=
  ∃ earlier later next failure, document.walk = earlier ++ element :: later ∧
    run.visitAll inspector document earlier = (next, none) ∧
      (next.visit inspector document element).2 = some failure

/-- The last scan of a session was stopped at an element. -/
def LeftAt (inspector : Inspector σ) (start : Run σ) (session : List Use) (element : Element) :
    Prop :=
  ∃ before document after, session = before ++ .scan document :: after ∧
    (∀ other, .scan other ∉ after) ∧
      (start.after inspector before).StopsAt inspector document element

end Run

/-- The context is turned to an element. -/
structure Context.IsAt (context : Context) (element : Element) : Prop where
  phase_eq : context.phase = .local
  element_eq : context.element = some element.id
  tag_eq : context.tag = some element.name
  line_eq : context.line = element.line

namespace Run

variable (inspector : Inspector σ) {document : Document}

theorem visitAll_append_of_none {run next : Run σ} {earlier : List Element}
    (passed : run.visitAll inspector document earlier = (next, none)) (later : List Element) :
    run.visitAll inspector document (earlier ++ later) =
      next.visitAll inspector document later := by
  induction earlier generalizing run with
  | nil =>
      cases passed
      rfl
  | cons element rest ih =>
      generalize visited : run.visit inspector document element = result
      obtain ⟨first, failure⟩ := result
      cases failure with
      | some failure =>
          rw [visitAll_cons_of_some inspector visited] at passed
          cases passed
      | none =>
          rw [visitAll_cons_of_none inspector visited] at passed
          rw [List.cons_append, visitAll_cons_of_none inspector visited, ih passed]

/-- Visits that fail do so at one of the elements. -/
theorem exists_of_visitAll_some {run ended : Run σ} {elements : List Element} {failure : Failure}
    (failed : run.visitAll inspector document elements = (ended, some failure)) :
    ∃ earlier element later next, elements = earlier ++ element :: later ∧
      run.visitAll inspector document earlier = (next, none) ∧
        next.visit inspector document element = (ended, some failure) := by
  induction elements generalizing run with
  | nil => cases failed
  | cons element rest ih =>
      generalize visited : run.visit inspector document element = result
      obtain ⟨first, outcome⟩ := result
      cases outcome with
      | some reason =>
          rw [visitAll_cons_of_some inspector visited] at failed
          exact ⟨[], element, rest, run, rfl, rfl, visited.trans failed⟩
      | none =>
          rw [visitAll_cons_of_none inspector visited] at failed
          obtain ⟨earlier, last, later, next, rfl, passed, stopped⟩ := ih failed
          refine ⟨element :: earlier, last, later, next, rfl, ?_, stopped⟩
          rw [visitAll_cons_of_none inspector visited, passed]

theorem not_stopsAt_of_none {run next : Run σ}
    (passed : run.visitAll inspector document document.walk = (next, none)) (element : Element) :
    ¬run.StopsAt inspector document element := by
  rintro ⟨earlier, later, before, failure, split, passedEarlier, failed⟩
  generalize visited : before.visit inspector document element = result at failed
  obtain ⟨ended, outcome⟩ := result
  dsimp only at failed
  rw [failed] at visited
  rw [split, visitAll_append_of_none inspector passedEarlier,
    visitAll_cons_of_some inspector visited] at passed
  cases passed

theorem isAt_visit (run : Run σ) (element : Element) :
    (run.visit inspector document element).1.context.IsAt element := by
  rw [context_visit]
  exact ⟨rfl, rfl, rfl, rfl⟩

/-- A scan leaves the context at the element at which it is stopped, or at none. -/
theorem context_scan (run : Run σ) (document : Document) :
    (∃ element, run.StopsAt inspector document element ∧
        (run.scan inspector document).1.context.IsAt element) ∨
      (∀ element, ¬run.StopsAt inspector document element) ∧
        (run.scan inspector document).1.context.phase = .global := by
  generalize visited : run.visitAll inspector document document.walk = result
  obtain ⟨next, failure⟩ := result
  cases failure with
  | some failure =>
      obtain ⟨earlier, element, later, before, split, passed, stopped⟩ :=
        exists_of_visitAll_some inspector visited
      refine .inl ⟨element, ⟨earlier, later, before, failure, split, passed, ?_⟩, ?_⟩
      · rw [stopped]
      · rw [scan_of_some inspector visited, ← congrArg Prod.fst stopped]
        exact before.isAt_visit inspector element
  | none =>
      refine .inr ⟨not_stopsAt_of_none inspector visited, ?_⟩
      rw [scan_of_none inspector visited, askDocument, context_take]
      rfl

end Run

/-- Only scans change the context. -/
theorem Use.context_perform (inspector : Inspector σ) (run : Run σ) {use : Use}
    (other : ∀ document, use ≠ .scan document) :
    (use.perform inspector run).1.context = run.context := by
  cases use with
  | scan document => exact absurd rfl (other document)
  | askTag tag attributes => exact run.context_take _
  | askDocument pass => exact run.context_take _
  | operate operation => rfl
  | replace audit => rfl

namespace Run

variable (inspector : Inspector σ) (start : Run σ) (session : List Use)

theorem after_concat (use : Use) :
    start.after inspector (session ++ [use]) =
      (use.perform inspector (start.after inspector session)).1 := by
  rw [after, List.foldl_concat]
  rfl

theorem leftAt_concat_scan (document : Document) (element : Element) :
    start.LeftAt inspector (session ++ [.scan document]) element ↔
      (start.after inspector session).StopsAt inspector document element := by
  constructor
  · rintro ⟨before, other, after, split, last, stopped⟩
    obtain rfl | ⟨rest, use, rfl⟩ := after.eq_nil_or_concat
    · obtain ⟨rfl, same⟩ := List.append_inj' split rfl
      cases same
      exact stopped
    · rw [List.concat_eq_append, ← List.cons_append, ← List.append_assoc] at split
      obtain ⟨_, same⟩ := List.append_inj' split rfl
      cases same
      exact absurd (by simp) (last document)
  · exact fun stopped => ⟨session, document, [], rfl, by simp, stopped⟩

theorem leftAt_concat_other {use : Use} (other : ∀ document, use ≠ .scan document)
    (element : Element) :
    start.LeftAt inspector (session ++ [use]) element ↔
      start.LeftAt inspector session element := by
  constructor
  · rintro ⟨before, document, after, split, last, stopped⟩
    obtain rfl | ⟨rest, ending, rfl⟩ := after.eq_nil_or_concat
    · obtain ⟨_, same⟩ := List.append_inj' split rfl
      cases same
      exact absurd rfl (other document)
    · rw [List.concat_eq_append, ← List.cons_append, ← List.append_assoc] at split
      obtain ⟨rfl, _⟩ := List.append_inj' split rfl
      exact ⟨before, document, rest, rfl, fun other listed => last other (by simp [listed]),
        stopped⟩
  · rintro ⟨before, document, after, rfl, last, stopped⟩
    refine ⟨before, document, after ++ [use], by simp, fun next listed => ?_, stopped⟩
    rcases List.mem_append.mp listed with earlier | same
    · exact last next earlier
    · exact other next (List.mem_singleton.mp same).symm

/-- At any moment, the context is at the element at which the last scan was stopped, or at none if
it was not. -/
theorem context_after {start : Run σ} (unused : start.context.phase = .global)
    (session : List Use) :
    (∃ element, start.LeftAt inspector session element ∧
        (start.after inspector session).context.IsAt element) ∨
      (∀ element, ¬start.LeftAt inspector session element) ∧
        (start.after inspector session).context.phase = .global := by
  induction session using List.reverseRecOn with
  | nil =>
      refine .inr ⟨?_, unused⟩
      rintro element ⟨before, document, after, split, _⟩
      cases before <;> cases split
  | append_singleton session use ih =>
      rw [after_concat]
      -- A scan decides anew where the context is, and everything else leaves it there.
      by_cases isScan : ∃ document, use = .scan document
      · obtain ⟨document, rfl⟩ := isScan
        simp only [leftAt_concat_scan]
        exact context_scan inspector _ document
      · have other : ∀ document, use ≠ .scan document := fun document same =>
          isScan ⟨document, same⟩
        simp only [leftAt_concat_other inspector start session other,
          Use.context_perform inspector _ other]
        exact ih

end Run

/-! ## What is reported of the document -/

namespace Violation

/-- The stamp of a context that is turned to an element is that of the element. -/
theorem isOn_stamped {context : Context} {element : Element} (turned : context.IsAt element)
    (violation : Violation) : (violation.stamped context).IsOn element := by
  unfold stamped
  rw [turned.phase_eq]
  refine ⟨rfl, turned.element_eq, turned.line_eq, ?_⟩
  dsimp only
  rw [turned.tag_eq, Option.getD_some]

/-- In the global phase the stamp is that of the document, whatever else is in the context. -/
theorem isOnDocument_stamped {context : Context} (global : context.phase = .global)
    (violation : Violation) : (violation.stamped context).IsOnDocument := by
  unfold stamped
  rw [global]
  exact ⟨rfl, rfl, rfl, rfl⟩

end Violation

namespace RuleSet

variable (rules : RuleSet)

/-- What is reported, in a context, of a document in which some tags have been seen. -/
def lackFindings (context : Context) (tally : Tally) : List Violation :=
  rules.missingTagFindings context tally ++ rules.requirementFindings context tally

/-- The context of the question about the document makes no difference but to the stamp. -/
theorem map_stamped_lackFindings (context other : Context) (tally : Tally) :
    (rules.lackFindings other tally).map (Violation.stamped context) =
      rules.lackFindings context tally := by
  unfold lackFindings missingTagFindings requirementFindings
  rw [List.map_append, List.map_map, List.map_flatMap]
  congr 1
  · simp [Function.comp_def]
  · refine List.flatMap_congr fun tag _ => ?_
    split <;> simp [Function.comp_def]

/-- The answer of a run to the question about the document: what is missing is reported, every
violation of one kind, and appended to the audit unless this is closed. Nothing else changes. -/
structure Reports (run : Run Tally) (kind : Violation → Prop) : Prop where
  askDocument_eq : ∀ pass, run.askDocument rules.inspector pass =
    (⟨run.context,
      run.audit.extend (run.audit.taken (rules.lackFindings run.context run.state)), run.state⟩,
      (run.audit.addAll (rules.lackFindings run.context run.state)).2)
  kind_of_mem : ∀ violation ∈ rules.lackFindings run.context run.state, kind violation

theorem reports (run : Run Tally) {kind : Violation → Prop}
    (stamps : ∀ violation, kind (Violation.stamped run.context violation)) :
    rules.Reports run kind := by
  constructor
  case askDocument_eq =>
    intro pass
    rw [Run.askDocument, Run.take_eq, inspector]
    dsimp only
    rw [Option.or_none]
    rfl
  case kind_of_mem =>
    rw [← rules.map_stamped_lackFindings run.context run.context]
    exact List.forall_mem_map.mpr fun violation _ => stamps violation

/-- Out of the local phase the question about a tag is refused, and changes nothing. -/
theorem askTag_of_global {run : Run Tally} (global : run.context.phase = .global) (tag : String)
    (attributes : AttributeSet) :
    run.askTag rules.inspector tag attributes =
      (run, some (.engine tag "tag validation requested outside the local phase")) := by
  simp [Run.askTag, Run.take_eq, inspector, global, Audit.taken, Audit.addAll]

/-- In every session, the context is in the local phase exactly if the last scan was stopped at an
element. As long as it is not, the question about the document is answered on account of the
document, and that about a tag is refused. As long as it is, the question about the document is not
refused but answered on account of the element. The question with which a scan ends is answered on
account of the document in any case. -/
theorem reports_after (audit : Audit) (tally : Tally) (session : List Use) :
    let start : Run Tally := ⟨Context.start, audit, tally⟩
    let run := start.after rules.inspector session
    (run.context.phase = .local ↔ ∃ element, start.LeftAt rules.inspector session element) ∧
      (run.context.phase = .global → rules.Reports run Violation.IsOnDocument ∧
        ∀ tag attributes, run.askTag rules.inspector tag attributes =
          (run, some (.engine tag "tag validation requested outside the local phase"))) ∧
      (run.context.phase = .local → ∃ element,
        start.LeftAt rules.inspector session element ∧ rules.Reports run (·.IsOn element)) ∧
      ∀ document next,
        run.visitAll rules.inspector document document.walk = (next, none) →
          let turned := next.finish document.walk.length
          run.scan rules.inspector document = turned.askDocument rules.inspector scanName ∧
            rules.Reports turned Violation.IsOnDocument := by
  intro start run
  have closing (document : Document) (next : Run Tally)
      (passed : run.visitAll rules.inspector document document.walk = (next, none)) :
      run.scan rules.inspector document =
          (next.finish document.walk.length).askDocument rules.inspector scanName ∧
        rules.Reports (next.finish document.walk.length) Violation.IsOnDocument :=
    ⟨Run.scan_of_none rules.inspector passed,
      rules.reports _ (Violation.isOnDocument_stamped rfl)⟩
  have unused : start.context.phase = .global := rfl
  rcases Run.context_after rules.inspector unused session with
    ⟨element, left, turned⟩ | ⟨nowhere, global⟩
  · refine ⟨iff_of_true turned.phase_eq ⟨element, left⟩, fun global => ?_, fun _ => ?_, closing⟩
    · exact absurd (global.symm.trans turned.phase_eq) nofun
    · exact ⟨element, left, rules.reports run (Violation.isOn_stamped turned)⟩
  · have notLocal : run.context.phase ≠ .local := by
      rw [global]
      nofun
    exact ⟨iff_of_false notLocal (not_exists.mpr nowhere),
      fun _ => ⟨rules.reports run (Violation.isOnDocument_stamped global),
        rules.askTag_of_global global⟩,
      fun isLocal => absurd isLocal notLocal, closing⟩

/-- A page is scanned for an audit that is closed already, which stops the scan at the first
paragraph, and then the question about the document is put for another audit: it is not refused, and
that there is no navigation is reported of this paragraph. -/
theorem lack_reported_of_element :
    let session : List Use := [.operate .close, .scan .page, .replace .empty]
    let run := Run.after sized.inspector ⟨Context.start, .empty, .empty⟩ session
    let (ended, failure) := run.askDocument sized.inspector scanName
    run.context.phase = .local ∧ failure = none ∧
      ended.audit.violations.toList =
        [{ Violation.ofDocument .tagRequiredByMissing ["nav", "p"] with
            phase := .local, element := some ⟨1⟩, line := 2, heading := "p" }] := by
  decide +kernel

end RuleSet

end MarkupAudit
