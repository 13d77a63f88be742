/-
# The protocol of a scan

What an inspector can rely on, whatever it does itself. A scan asks about the elements one after
the other in document order, each in the context of its own element, and about the document once
at the end; the first call that fails is the last one.

The calls are observed from the inside: an inspector that does what another one does, and also
keeps a record of the calls it gets. Keeping the record changes nothing else, so whatever the
record says of a scan is true of a scan with the other inspector.
-/

import MarkupAudit.Proofs.Audit.Append
import MarkupAudit.Proofs.Document.Preorder
import MarkupAudit.Scan.Basic

namespace MarkupAudit

variable {σ : Type}

/-! ## Recording the calls -/

/-- What an inspector is asked about. -/
inductive Question where
  | tag (name : String) (attributes : AttributeSet)
  | document (pass : String)

/-- One call of an inspector: what it was asked and shown, and what it made of it. -/
structure Call where
  question : Question
  context : Context
  audit : Audit
  /-- The violations by which the audit has grown. -/
  appended : List Violation
  /-- Why the call failed, if it did: a violation was not taken, or the inspector gave up. -/
  failure : Option Failure

/-- The call that was answered in a given way. -/
def Call.ofAnswer (question : Question) (context : Context) (audit : Audit)
    (answer : Answer σ) : Call where
  question := question
  context := context
  audit := audit
  appended := audit.taken answer.violations
  failure := (audit.addAll answer.violations).2.or answer.failure

/-- Add to an answer that it was given in a call after some others. -/
def Answer.recorded (answer : Answer σ) (calls : List Call) (call : Call) :
    Answer (σ × List Call) :=
  ⟨(answer.state, calls ++ [call]), answer.violations, answer.failure⟩

/-- The same inspector, with a record of the calls. -/
def Inspector.recorded (inspector : Inspector σ) : Inspector (σ × List Call) where
  inspectTag context tag attributes audit memory :=
    let answer := inspector.inspectTag context tag attributes audit memory.1
    answer.recorded memory.2 (.ofAnswer (.tag tag attributes) context audit answer)
  inspectDocument context pass audit memory :=
    let answer := inspector.inspectDocument context pass audit memory.1
    answer.recorded memory.2 (.ofAnswer (.document pass) context audit answer)

namespace Run

/-- The same run with a record to which nothing has been added. -/
def recording (run : Run σ) : Run (σ × List Call) :=
  ⟨run.context, run.audit, (run.state, [])⟩

/-- The run without the record. -/
def unrecorded (run : Run (σ × List Call)) : Run σ :=
  ⟨run.context, run.audit, run.state.1⟩

/-- The calls on record. -/
def calls (run : Run (σ × List Call)) : List Call := run.state.2

@[simp]
theorem calls_recording (run : Run σ) : run.recording.calls = [] := rfl

@[simp]
theorem unrecorded_recording (run : Run σ) : run.recording.unrecorded = run := rfl

/-- What taking an answer gives. -/
theorem take_eq (run : Run σ) (answer : Answer σ) :
    run.take answer =
      (⟨run.context, run.audit.extend (run.audit.taken answer.violations), answer.state⟩,
        (run.audit.addAll answer.violations).2.or answer.failure) := by
  rw [← Audit.addAll_fst, take]
  obtain ⟨audit, failure⟩ := run.audit.addAll answer.violations
  cases failure <;> rfl

/-- Taking a recorded answer appends its call to the record, and is otherwise the same. -/
theorem take_recorded (run : Run (σ × List Call)) (answer : Answer σ) (question : Question) :
    let call := Call.ofAnswer question run.context run.audit answer
    run.take (answer.recorded run.calls call) =
        (⟨run.context, run.audit.extend call.appended, (answer.state, run.calls ++ [call])⟩,
          call.failure) ∧
      run.unrecorded.take answer =
        (⟨run.context, run.audit.extend call.appended, answer.state⟩, call.failure) :=
  ⟨take_eq run _, take_eq run.unrecorded answer⟩

end Run

/-! ## The visits -/

/-- A call about an element, as the one that brings the count of elements to a given number. -/
structure Call.Visits (call : Call) (document : Document) (element : Element) (count : Nat) :
    Prop where
  question_eq : call.question = .tag element.name element.attributes
  phase_eq : call.context.phase = .local
  element_eq : call.context.element = some element.id
  tag_eq : call.context.tag = some element.name
  line_eq : call.context.line = element.line
  parent_of_root : element.parent = none → call.context.parent = none
  parent_of_child : ∀ {id}, element.parent = some id →
    ∃ parent, document.get? id = some parent ∧ call.context.parent = some parent.name
  count_eq : call.context.tagsProcessed = count

/-- Some elements are visited in turn by some calls, up to the first call that fails. -/
inductive Visited (document : Document) : Nat → List Element → List Call → Option Failure → Prop
  | done {count : Nat} : Visited document count [] [] none
  | failed {count : Nat} {element : Element} {rest : List Element} {call : Call}
      {failure : Failure} :
      call.Visits document element (count + 1) → call.failure = some failure →
        Visited document count (element :: rest) [call] (some failure)
  | passed {count : Nat} {element : Element} {rest : List Element} {call : Call}
      {calls : List Call} {failure : Option Failure} :
      call.Visits document element (count + 1) → call.failure = none →
        Visited document (count + 1) rest calls failure →
          Visited document count (element :: rest) (call :: calls) failure

namespace Visited

variable {document : Document} {count : Nat} {elements : List Element} {calls : List Call}
  {failure : Option Failure}

/-- Each call is about the element at its place. -/
theorem getElem? (visited : Visited document count elements calls failure) {place : Nat}
    {call : Call} (made : calls[place]? = some call) :
    ∃ element, elements[place]? = some element ∧
      call.Visits document element (count + place + 1) := by
  induction visited generalizing place with
  | done => simp at made
  | failed visits _ =>
      cases place with
      | zero =>
          cases made
          exact ⟨_, rfl, visits⟩
      | succ place => simp at made
  | @passed count _ _ _ _ _ visits _ _ ih =>
      cases place with
      | zero =>
          cases made
          exact ⟨_, rfl, visits⟩
      | succ place =>
          obtain ⟨element, listed, later⟩ := ih made
          exact ⟨element, listed, by rwa [show count + (place + 1) + 1 = count + 1 + place + 1 by
            omega]⟩

/-- Without a failure, there is a call for every element, and none of them failed. -/
theorem of_none (visited : Visited document count elements calls none) :
    calls.length = elements.length ∧ ∀ call ∈ calls, call.failure = none := by
  generalize outcome : (none : Option Failure) = failure at visited
  induction visited with
  | done => simp
  | failed => cases outcome
  | passed _ passes _ ih =>
      obtain ⟨length, rest⟩ := ih outcome
      subst outcome
      exact ⟨congrArg (· + 1) length, List.forall_mem_cons.mpr ⟨passes, rest⟩⟩

/-- A failure is that of the last call, and no other call failed. -/
theorem of_some {reason : Failure} (visited : Visited document count elements calls (some reason)) :
    calls.length ≤ elements.length ∧ ∃ before last, calls = before ++ [last] ∧
      last.failure = some reason ∧ ∀ call ∈ before, call.failure = none := by
  generalize outcome : some reason = failure at visited
  induction visited with
  | done => cases outcome
  | @failed _ _ rest call _ _ fails =>
      exact ⟨by simp, [], call, rfl, fails, by simp⟩
  | @passed _ _ _ call _ _ _ passes _ ih =>
      obtain ⟨length, before, last, rfl, fails, earlier⟩ := ih outcome
      exact ⟨Nat.succ_le_succ length, call :: before, last, rfl, fails,
        List.forall_mem_cons.mpr ⟨passes, earlier⟩⟩

end Visited

/-- Visiting an element puts the call in the context of that element. -/
theorem Call.visits_ofAnswer {document : Document} (wellFormed : document.WellFormed)
    {element : Element} (known : document.get? element.id = some element) (context : Context)
    (audit : Audit) (answer : Answer σ) :
    (ofAnswer (.tag element.name element.attributes) (context.visit document element) audit
      answer).Visits document element (context.tagsProcessed + 1) where
  question_eq := rfl
  phase_eq := rfl
  element_eq := rfl
  tag_eq := rfl
  line_eq := rfl
  parent_of_root top := by simp [ofAnswer, Context.visit, top]
  parent_of_child below := by
    obtain ⟨parent, found⟩ := wellFormed.exists_parent known below
    exact ⟨parent, found, by simp [ofAnswer, Context.visit, below, found]⟩
  count_eq := rfl

namespace Run

variable (inspector : Inspector σ) {document : Document}

/-- The visit of one element. -/
def visit (run : Run σ) (document : Document) (element : Element) : Run σ × Option Failure :=
  { run with context := run.context.visit document element }.askTag inspector element.name
    element.attributes

theorem visitAll_cons_of_none {run next : Run σ} {element : Element}
    (passed : run.visit inspector document element = (next, none)) (rest : List Element) :
    run.visitAll inspector document (element :: rest) =
      next.visitAll inspector document rest := by
  unfold visit at passed
  rw [visitAll, passed]

theorem visitAll_cons_of_some {run next : Run σ} {element : Element} {failure : Failure}
    (failed : run.visit inspector document element = (next, some failure))
    (rest : List Element) :
    run.visitAll inspector document (element :: rest) = (next, some failure) := by
  unfold visit at failed
  rw [visitAll, failed]

/-- One visit makes one call, and is otherwise the same with the record as without. -/
theorem visit_recorded (wellFormed : document.WellFormed) {element : Element}
    (known : document.get? element.id = some element) (run : Run (σ × List Call)) :
    ∃ (call : Call) (state : σ),
      call.Visits document element (run.context.tagsProcessed + 1) ∧
      run.visit inspector.recorded document element =
        (⟨run.context.visit document element, run.audit.extend call.appended,
          (state, run.calls ++ [call])⟩, call.failure) ∧
      run.unrecorded.visit inspector document element =
        (⟨run.context.visit document element, run.audit.extend call.appended, state⟩,
          call.failure) := by
  let here : Run (σ × List Call) := { run with context := run.context.visit document element }
  let answer := inspector.inspectTag here.context element.name element.attributes here.audit
    here.state.1
  obtain ⟨recorded, unrecorded⟩ :=
    here.take_recorded answer (.tag element.name element.attributes)
  exact ⟨_, answer.state, Call.visits_ofAnswer wellFormed known run.context run.audit answer,
    recorded, unrecorded⟩

/-- The visits of a scan: the elements are visited in turn, the audit grows by what the calls
append, and the run without the record is the one of the inspector itself. -/
theorem visitAll_recorded (wellFormed : document.WellFormed) (elements : List Element)
    (known : ∀ element ∈ elements, document.get? element.id = some element)
    (run : Run (σ × List Call)) :
    let result := run.visitAll inspector.recorded document elements
    ∃ visits, Visited document run.context.tagsProcessed elements visits result.2 ∧
      result.1.calls = run.calls ++ visits ∧
      result.1.audit = run.audit.extend (visits.flatMap (·.appended)) ∧
      (∀ reason, result.2 = some reason → result.1.context.phase = .local) ∧
      run.unrecorded.visitAll inspector document elements =
        (result.1.unrecorded, result.2) := by
  induction elements generalizing run with
  | nil => exact ⟨[], .done, by simp [visitAll], by simp [visitAll], by simp [visitAll], rfl⟩
  | cons element rest ih =>
      obtain ⟨call, state, visits, recorded, unrecorded⟩ :=
        visit_recorded inspector wellFormed (known element List.mem_cons_self) run
      cases outcome : call.failure with
      | some reason =>
          rw [outcome] at recorded unrecorded
          rw [visitAll_cons_of_some _ recorded, visitAll_cons_of_some _ unrecorded]
          exact ⟨[call], .failed visits outcome, rfl, by simp, fun _ _ => rfl, rfl⟩
      | none =>
          rw [outcome] at recorded unrecorded
          rw [visitAll_cons_of_none _ recorded, visitAll_cons_of_none _ unrecorded]
          obtain ⟨later, visited, calls, audit, phase, same⟩ :=
            ih (fun other listed => known other (List.mem_cons_of_mem element listed)) _
          refine ⟨call :: later, .passed visits outcome visited, ?_, ?_, phase, same⟩
          · rw [calls]
            exact (List.append_cons run.calls call later).symm
          · rw [audit, Audit.extend_extend, List.flatMap_cons]

end Run

/-! ## The whole scan -/

/-- The call about the document as a whole, after a given number of elements. -/
structure Call.Closes (call : Call) (count : Nat) : Prop where
  question_eq : call.question = .document scanName
  phase_eq : call.context.phase = .global
  count_eq : call.context.tagsProcessed = count
  audit_count_eq : call.audit.tagsProcessed = count

/-- What an inspector sees of a scan that starts from a given run: the visits of some elements,
and the closing call if no visit has failed. The final run is the one with the record. -/
structure Observes (inspector : Inspector σ) (document : Document) (start : Run σ)
    (elements : List Element) (visits : List Call) (closing : Option Call)
    (final : Run (σ × List Call)) (failure : Option Failure) : Prop where
  /-- There are no other calls. -/
  calls_eq : final.calls = visits ++ closing.toList
  /-- The call at a place is about the element at that place. -/
  visit : ∀ {place : Nat} {call : Call}, visits[place]? = some call →
    ∃ element, elements[place]? = some element ∧
      call.Visits document element (start.context.tagsProcessed + place + 1)
  /-- Only the last visit can have failed. -/
  earlier : ∀ call ∈ visits.dropLast, call.failure = none
  /-- If no visit fails, all elements are visited, and the closing call decides. -/
  completed : (∀ call ∈ visits, call.failure = none) →
    visits.length = elements.length ∧
      ∃ last, closing = some last ∧ last.Closes document.size ∧ failure = last.failure ∧
        final.context.phase = .global ∧ final.context.tagsProcessed = document.size ∧
        final.audit.tagsProcessed = document.size
  /-- If a visit fails, it is the last call, and the scan fails for its reason. -/
  stopped : ∀ {call : Call}, call ∈ visits → ∀ {reason : Failure}, call.failure = some reason →
    closing = none ∧ visits.getLast? = some call ∧ failure = some reason ∧
      final.context.phase = .local ∧ final.audit.tagsProcessed = start.audit.tagsProcessed
  /-- The violations are the old ones and, in order, those that the calls appended. -/
  violations_eq : final.audit.violations.toList =
    start.audit.violations.toList ++ final.calls.flatMap (·.appended)
  /-- The record apart, this is the scan with the inspector itself. -/
  scan_eq : start.scan inspector document = (final.unrecorded, failure)

namespace Run

theorem scan_of_some (inspector : Inspector σ) {document : Document} {run next : Run σ}
    {failure : Failure}
    (stopped : run.visitAll inspector document document.walk = (next, some failure)) :
    run.scan inspector document = (next, some failure) := by
  simp only [scan, stopped]

theorem scan_of_none (inspector : Inspector σ) {document : Document} {run next : Run σ}
    (passed : run.visitAll inspector document document.walk = (next, none)) :
    run.scan inspector document =
      (next.finish document.walk.length).askDocument inspector scanName := by
  simp only [scan, passed]

/-- The question about the document makes one call, and is otherwise the same with the record as
without. -/
theorem finish_recorded (inspector : Inspector σ) (run : Run (σ × List Call)) (count : Nat) :
    ∃ (call : Call) (state : σ),
      call.Closes count ∧
      (run.finish count).askDocument inspector.recorded scanName =
        (⟨run.context.finish count, (run.finish count).audit.extend call.appended,
          (state, run.calls ++ [call])⟩, call.failure) ∧
      (run.unrecorded.finish count).askDocument inspector scanName =
        (⟨run.context.finish count, (run.finish count).audit.extend call.appended, state⟩,
          call.failure) := by
  let here := run.finish count
  let answer := inspector.inspectDocument here.context scanName here.audit here.state.1
  obtain ⟨recorded, unrecorded⟩ := here.take_recorded answer (.document scanName)
  exact ⟨_, answer.state, ⟨rfl, rfl, rfl, rfl⟩, recorded, unrecorded⟩

section Outcomes

variable {inspector : Inspector σ} {document : Document} {start : Run σ}
  {next : Run (σ × List Call)} {visits : List Call}

/-- A scan whose visits stop at a failure ends with it. -/
theorem observes_of_some {reason : Failure}
    (outcome : start.recording.visitAll inspector.recorded document document.walk =
      (next, some reason))
    (same : start.visitAll inspector document document.walk = (next.unrecorded, some reason))
    (visited :
      Visited document start.context.tagsProcessed document.walk visits (some reason))
    (calls : next.calls = visits)
    (audit : next.audit = start.audit.extend (visits.flatMap (·.appended)))
    (phase : next.context.phase = .local) :
    Observes inspector document start document.walk visits none
      (start.recording.scan inspector.recorded document).1
      (start.recording.scan inspector.recorded document).2 := by
  obtain ⟨_, before, last, rfl, fails, earlier⟩ := visited.of_some
  rw [scan_of_some _ outcome]
  constructor
  case calls_eq => rw [calls, Option.toList_none, List.append_nil]
  case visit => exact visited.getElem?
  case earlier => rwa [List.dropLast_concat]
  case completed =>
    intro passes
    rw [passes last (by simp)] at fails
    cases fails
  case stopped =>
    intro call made other failed
    rcases List.mem_append.mp made with made | made
    · rw [earlier call made] at failed
      cases failed
    · rw [List.mem_singleton.mp made] at failed ⊢
      have sameReason := failed.symm.trans fails
      exact ⟨rfl, by simp, sameReason.symm, phase, by rw [audit]; rfl⟩
  case violations_eq =>
    rw [audit, calls, Audit.toList_violations_extend]
  case scan_eq => exact scan_of_some _ same

/-- A scan whose visits all pass goes on to the question about the document, and ends with what
that gives. -/
theorem observes_of_none (counted : document.walk.length = document.size)
    (outcome : start.recording.visitAll inspector.recorded document document.walk = (next, none))
    (same : start.visitAll inspector document document.walk = (next.unrecorded, none))
    (visited : Visited document start.context.tagsProcessed document.walk visits none)
    (calls : next.calls = visits)
    (audit : next.audit = start.audit.extend (visits.flatMap (·.appended))) :
    ∃ closing, Observes inspector document start document.walk visits (some closing)
      (start.recording.scan inspector.recorded document).1
      (start.recording.scan inspector.recorded document).2 := by
  obtain ⟨length, passes⟩ := visited.of_none
  obtain ⟨last, state, closes, recorded, unrecorded⟩ :=
    finish_recorded inspector next document.walk.length
  rw [counted] at closes
  refine ⟨last, ?_⟩
  rw [scan_of_none _ outcome, recorded]
  constructor
  case calls_eq =>
    show next.calls ++ [last] = _
    rw [calls]
    rfl
  case visit => exact visited.getElem?
  case earlier => exact fun call made => passes call ((List.dropLast_sublist visits).mem made)
  case completed =>
    exact fun _ => ⟨length, last, rfl, closes, rfl, rfl, counted, counted⟩
  case stopped =>
    intro call made other failed
    rw [passes call made] at failed
    cases failed
  case violations_eq =>
    show (Audit.extend _ last.appended).violations.toList =
      _ ++ (next.calls ++ [last]).flatMap _
    rw [calls, Audit.toList_violations_extend]
    show next.audit.violations.toList ++ _ = _
    rw [audit, Audit.toList_violations_extend, List.flatMap_append, List.append_assoc]
    simp
  case scan_eq =>
    rw [scan_of_none _ same, unrecorded]
    rfl

end Outcomes

/-- A scan asks any inspector about every element of a document once, in document order and each
time in the context of that element, up to the first call that fails; if none does, it asks once
about the document. -/
theorem scan_observes (inspector : Inspector σ) {document : Document}
    (reachable : document.Reachable) (start : Run σ) :
    ∃ elements visits closing,
      document.Preorder document.roots elements ∧
      elements.Perm document.elements.toList ∧
      Observes inspector document start elements visits closing
        (start.recording.scan inspector.recorded document).1
        (start.recording.scan inspector.recorded document).2 := by
  have wellFormed := reachable.wellFormed
  have ordered := wellFormed.preorder_walk
  have complete := wellFormed.perm_of_preorder ordered
  obtain ⟨visits, visited, calls, audit, phase, same⟩ :=
    start.recording.visitAll_recorded inspector wellFormed document.walk
      (ordered.get?_of_mem wellFormed)
  generalize outcome :
    start.recording.visitAll inspector.recorded document document.walk = result at *
  obtain ⟨next, failure⟩ := result
  dsimp only at visited calls audit phase same
  rw [calls_recording, List.nil_append] at calls
  rw [unrecorded_recording] at same
  cases failure with
  | some reason =>
      exact ⟨document.walk, visits, none, ordered, complete,
        observes_of_some outcome same visited calls audit (phase reason rfl)⟩
  | none =>
      obtain ⟨closing, observes⟩ := observes_of_none (wellFormed.length_preorder ordered) outcome
        same visited calls audit
      exact ⟨document.walk, visits, some closing, ordered, complete, observes⟩

/-- An inspector that finds every tag disallowed, and gives up after so many of them. -/
def patient (limit : Nat) : Inspector Nat where
  inspectTag context tag _ _ seen :=
    ⟨seen + 1, [Violation.found context .disallowedTag [tag]],
      if limit ≤ seen then some (.engine tag "too many tags") else none⟩
  inspectDocument _ pass _ seen := ⟨seen, [Violation.ofDocument .unknownCode [pass]], none⟩

/-- The scan of a page by an inspector that gives up at the second element. -/
theorem scan_observes_page :
    Document.page.Reachable ∧
      ∃ elements visits closing,
        Document.page.Preorder Document.page.roots elements ∧
        elements.Perm Document.page.elements.toList ∧
        Observes (patient 1) Document.page ⟨Context.start, Audit.empty, 0⟩ elements visits closing
          (Run.scan (patient 1).recorded Document.page
            (recording ⟨Context.start, Audit.empty, 0⟩)).1
          (Run.scan (patient 1).recorded Document.page
            (recording ⟨Context.start, Audit.empty, 0⟩)).2 :=
  ⟨Document.reachable_page,
    scan_observes (patient 1) Document.reachable_page ⟨Context.start, Audit.empty, 0⟩⟩

end Run

end MarkupAudit
