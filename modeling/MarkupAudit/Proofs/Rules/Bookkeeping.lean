/-
# The memory of an inspector

What the inspector for a rule set remembers after any questions, put in any contexts and for any
audits. It is kept twice over, as counts and as a list, and both are changed in one step, which is
made for a question about a tag in the local phase before anything is looked for. So it makes no
difference what is found and whether it can be appended; and a question that is refused for its
phase, or is about the document, leaves the memory alone.

The step that is made for one question is stated once, for all inspectors that remember in this way.
After any questions, counts and list are then made from the tags that have been counted, one after
the other, and from this they are seen to be in step. The tally, which keeps both in a single list,
holds the same, and leads to the same answers.
-/

import MarkupAudit.Proofs.Audit.Session
import MarkupAudit.Proofs.Rules.Findings
import MarkupAudit.Proofs.Rules.TableOrder
import MarkupAudit.Rules.Register

namespace MarkupAudit

variable {σ : Type}

/-! ## Questions -/

/-- A question as it is put to an inspector: in some context and for some audit. -/
structure Inquiry where
  question : Question
  context : Context
  audit : Audit

namespace Inquiry

/-- Put a question to an inspector in a given state. -/
def perform (inspector : Inspector σ) (state : σ) (inquiry : Inquiry) : Run σ × Option Failure :=
  let run : Run σ := ⟨inquiry.context, inquiry.audit, state⟩
  match inquiry.question with
  | .tag name attributes => run.askTag inspector name attributes
  | .document pass => run.askDocument inspector pass

/-- The tag that is counted: the one that is asked about in the local phase. -/
def counted? (inquiry : Inquiry) : Option String :=
  match inquiry.question with
  | .tag name _ => if inquiry.context.phase = .local then some name else none
  | .document _ => none

/-- The question has no tag to count: it is put outside the local phase, or is about the
document. -/
def IsSilent (inquiry : Inquiry) : Prop :=
  inquiry.context.phase = .global ∨ ∃ pass, inquiry.question = .document pass

theorem IsSilent.counted?_eq_none {inquiry : Inquiry} (silent : inquiry.IsSilent) :
    inquiry.counted? = none := by
  obtain ⟨question, context, audit⟩ := inquiry
  rcases silent with global | ⟨pass, rfl⟩
  · cases question with
    | tag name attributes =>
        have outside : context.phase ≠ .local := by
          rw [global]
          exact nofun
        exact if_neg outside
    | document pass => rfl
  · rfl

end Inquiry

namespace Inspector

/-- What an inspector remembers after some questions. -/
def after (inspector : Inspector σ) (start : σ) (inquiries : List Inquiry) : σ :=
  inquiries.foldl (fun state inquiry => (inquiry.perform inspector state).1.state) start

/-- An inspector counts tags in a given way: it does so for each question that has a tag to count,
and remembers nothing else. -/
def CountsBy (inspector : Inspector σ) (record : σ → String → σ) : Prop :=
  ∀ (state : σ) (inquiry : Inquiry), (inquiry.perform inspector state).1.state =
    inquiry.counted?.elim state (record state)

/-- Whether an inspector counts in a given way is seen from what it answers. What becomes of the
violations in its answers does not matter. -/
theorem countsBy_of_answers {inspector : Inspector σ} {record : σ → String → σ}
    (onTags : ∀ context tag attributes audit state,
      (inspector.inspectTag context tag attributes audit state).state =
        if context.phase = .local then record state tag else state)
    (onDocuments : ∀ context pass audit state,
      (inspector.inspectDocument context pass audit state).state = state) :
    inspector.CountsBy record := by
  rintro state ⟨question, context, audit⟩
  cases question with
  | tag name attributes =>
      show (Run.take _ _).1.state = _
      rw [Run.take_eq, Inquiry.counted?]
      dsimp only
      rw [onTags]
      split
      · rfl
      · rfl
  | document pass =>
      show (Run.take _ _).1.state = _
      rw [Run.take_eq]
      exact onDocuments context pass audit state

theorem CountsBy.after_eq {inspector : Inspector σ} {record : σ → String → σ}
    (counts : inspector.CountsBy record) (start : σ) (inquiries : List Inquiry) :
    inspector.after start inquiries =
      (inquiries.filterMap Inquiry.counted?).foldl record start := by
  induction inquiries generalizing start with
  | nil => rfl
  | cons inquiry rest ih =>
      show inspector.after (inquiry.perform inspector start).1.state rest = _
      rw [ih, counts, List.filterMap_cons]
      cases inquiry.counted? with
      | none => rfl
      | some tag => rfl

end Inspector

namespace RuleSet

variable (rules : RuleSet)

theorem countsBy_registrar : rules.registrar.CountsBy Register.record := by
  refine Inspector.countsBy_of_answers (fun context tag attributes audit register => ?_)
    fun _ _ _ _ => rfl
  rw [registrar]
  dsimp only
  split
  · rfl
  · rfl

theorem countsBy_inspector : rules.inspector.CountsBy Tally.record := by
  refine Inspector.countsBy_of_answers (fun context tag attributes audit tally => ?_)
    fun _ _ _ _ => rfl
  rw [inspector]
  dsimp only
  split
  · rfl
  · rfl

end RuleSet

/-! ## Counts and list -/

namespace Register

/-- A register of some tags, seen in turn. -/
def ofNames (names : List String) : Register :=
  names.foldl record empty

theorem ofNames_concat (names : List String) (name : String) :
    ofNames (names ++ [name]) = (ofNames names).record name := by
  rw [ofNames, List.foldl_concat, ofNames]

/-- Seeing a tag raises its count by one and leaves the others. -/
theorem count_record (register : Register) (tag other : String) :
    (register.record tag).count other = register.count other + if other = tag then 1 else 0 := by
  rw [count, record, RuleIndex.lookup_enter]
  split
  · rename_i same
    rw [same]
    rfl
  · rfl

theorem count_ofNames (names : List String) (tag : String) :
    (ofNames names).count tag = names.count tag :=
  (count_foldl count_record empty names tag).trans (Nat.zero_add _)

/-- A tag is listed when its count becomes one, which is when it occurs first. -/
theorem order_ofNames (names : List String) : (ofNames names).order = names.eraseDups := by
  induction names using List.reverseRecOn with
  | nil => rfl
  | append_singleton names name ih =>
      rw [ofNames_concat, record, count_ofNames, ih, eraseDups_concat]
      by_cases seen : name ∈ names
      · have counted := List.count_pos_iff.mpr seen
        rw [if_pos seen, if_neg (by omega)]
      · rw [if_neg seen, if_pos (by rw [List.count_eq_zero.mpr seen])]

/-- A register and a tally hold the same. -/
structure Agrees (register : Register) (tally : Tally) : Prop where
  count_eq : ∀ tag, register.count tag = tally.count tag
  order_eq : register.order = tally.tags

theorem agrees_ofNames (names : List String) : (ofNames names).Agrees (.ofNames names) where
  count_eq tag := by rw [count_ofNames, Tally.count_ofNames]
  order_eq := by rw [order_ofNames, Tally.tags_ofNames]

end Register

namespace RuleSet

variable (rules : RuleSet)

/-- An inspector with a register answers like one with a tally that holds the same. -/
theorem outcome_registrar {register : Register} {tally : Tally} (agrees : register.Agrees tally)
    (inquiry : Inquiry) :
    Run.outcome (inquiry.perform rules.registrar register) =
      Run.outcome (inquiry.perform rules.inspector tally) := by
  obtain ⟨question, context, audit⟩ := inquiry
  have counts : register.count = tally.count := funext agrees.count_eq
  cases question with
  | tag name attributes =>
      have further : (register.record name).count name = (tally.record name).count name := by
        rw [Register.count_record, Tally.count_record, counts]
      simp only [Inquiry.perform, Run.askTag, Run.take_eq, registrar, inspector, further]
      cases context.phase with
      | «local» => rfl
      | global => rfl
  | document pass =>
      simp only [Inquiry.perform, Run.askDocument, Run.take_eq, registrar, counts,
        agrees.order_eq]
      rfl

/-- After any questions, the tags that have a count are those that are listed, each once and in the
order in which they were first counted. The count of a tag is the number of questions about it that
were put in the local phase; questions put in the other phase or about the document change nothing.
The tally holds the same, and further questions are answered alike. -/
theorem registrar_after (inquiries : List Inquiry) :
    let register := rules.registrar.after .empty inquiries
    let tally := rules.inspector.after .empty inquiries
    (∀ tag, 0 < register.count tag ↔ tag ∈ register.order) ∧
      register.order.Nodup ∧
      register.order = (inquiries.filterMap Inquiry.counted?).eraseDups ∧
      (∀ tag, register.count tag = inquiries.countP (·.counted? == some tag)) ∧
      (∀ inquiry : Inquiry, inquiry.IsSilent →
        (inquiry.perform rules.registrar register).1.state = register) ∧
      register.Agrees tally ∧
      ∀ inquiry : Inquiry, Run.outcome (inquiry.perform rules.registrar register) =
        Run.outcome (inquiry.perform rules.inspector tally) := by
  intro register tally
  have counted : register = .ofNames (inquiries.filterMap Inquiry.counted?) :=
    rules.countsBy_registrar.after_eq .empty inquiries
  have tallied : tally = .ofNames (inquiries.filterMap Inquiry.counted?) :=
    rules.countsBy_inspector.after_eq .empty inquiries
  have agrees : register.Agrees tally := by
    rw [counted, tallied]
    exact Register.agrees_ofNames _
  have order : register.order = (inquiries.filterMap Inquiry.counted?).eraseDups := by
    rw [counted, Register.order_ofNames]
  refine ⟨fun tag => ?listed, ?once, order, fun tag => ?number, fun inquiry silent => ?unchanged,
    agrees, rules.outcome_registrar agrees⟩
  case listed => rw [order, counted, Register.count_ofNames, List.count_pos_iff, List.mem_eraseDups]
  case once =>
    rw [order]
    exact nodup_eraseDups _
  case number => rw [counted, Register.count_ofNames, List.count_filterMap]
  case unchanged =>
    rw [rules.countsBy_registrar, silent.counted?_eq_none]
    rfl

end RuleSet

end MarkupAudit
