/-
# Refused questions about tags

The question about a tag can be refused in two ways. In the wrong phase it is refused before
anything else is done, and then it is as if it had not been put. By a closed audit it is refused
when something is to be appended, and by then the tag has been counted. The audit stays as it is in
either case, but the count is not taken back.

What the surplus count does shows only later, when the same inspector is asked for an open audit.
Until the tag is visited once more, an element that is the first to have it is reported as a
repetition, the tag is not reported as missing, and what it requires is. When it has been visited
otherwise, earlier or since, the surplus makes no difference.
-/

import MarkupAudit.Proofs.Rules.Phases
import MarkupAudit.Proofs.Rules.Repetition

namespace MarkupAudit

/-! ## Tallies with a surplus count -/

namespace Tally

variable (before later : List String) (tag : String)

theorem foldl_record_ofNames (names : List String) :
    names.foldl record (ofNames before) = ofNames (before ++ names) := by
  rw [ofNames, ofNames, List.foldl_append]

theorem count_ofNames_pos_iff {names : List String} {tag : String} :
    0 < (ofNames names).count tag ↔ tag ∈ names := by
  rw [count_ofNames]
  exact List.count_pos_iff

/-- A visit in between counts for its own tag only. -/
theorem count_surplus (other : String) :
    (ofNames (before ++ tag :: later)).count other =
      (ofNames (before ++ later)).count other + if other = tag then 1 else 0 := by
  simp only [count_ofNames, List.count_append, List.count_cons, beq_iff_eq, @eq_comm _ tag other]
  omega

variable {before later tag}

/-- A surplus count does not show in what has not been seen, if the tag has been seen otherwise. -/
theorem isUnseen_surplus_of_seen (seen : tag ∈ before ++ later) (other : String) :
    ((ofNames (before ++ tag :: later)).count other == 0) =
      ((ofNames (before ++ later)).count other == 0) := by
  have counted := count_ofNames_pos_iff.mpr seen
  rw [count_surplus, Bool.eq_iff_iff, beq_iff_eq, beq_iff_eq]
  split
  · rename_i same
    rw [same]
    omega
  · rw [Nat.add_zero]

/-- A surplus count takes its tag out of what has not been seen, and no other. -/
theorem isUnseen_surplus (other : String) :
    ((ofNames (before ++ tag :: later)).count other == 0) =
      ((ofNames (before ++ later)).count other == 0 && other != tag) := by
  rw [count_surplus]
  by_cases same : other = tag <;> simp [same]

theorem tags_surplus_of_seen (seen : tag ∈ before ++ later) :
    (ofNames (before ++ tag :: later)).tags.Perm (ofNames (before ++ later)).tags := by
  refine (List.perm_ext_iff_of_nodup (nodup_tags_ofNames _) (nodup_tags_ofNames _)).mpr
    fun other => ?_
  rw [mem_tags_ofNames, mem_tags_ofNames, List.perm_middle.mem_iff, List.mem_cons]
  exact or_iff_right_of_imp fun same => same ▸ seen

theorem tags_surplus_of_unseen (unseen : tag ∉ before ++ later) :
    (ofNames (before ++ tag :: later)).tags.Perm (tag :: (ofNames (before ++ later)).tags) := by
  have apart : (tag :: (ofNames (before ++ later)).tags).Nodup :=
    List.nodup_cons.mpr ⟨fun listed => unseen ((mem_tags_ofNames _ tag).mp listed),
      nodup_tags_ofNames _⟩
  refine (List.perm_ext_iff_of_nodup (nodup_tags_ofNames _) apart).mpr fun other => ?_
  rw [mem_tags_ofNames, List.mem_cons, mem_tags_ofNames, List.perm_middle.mem_iff, List.mem_cons]

end Tally

/-! ## Counts in a session -/

namespace RuleSet

variable (rules : RuleSet)

/-- A question about a tag counts the tag or leaves the tally. -/
theorem state_askTag (run : Run Tally) (tag : String) (attributes : AttributeSet) :
    (run.askTag rules.inspector tag attributes).1.state =
      if run.context.phase = .local then run.state.record tag else run.state := by
  rw [Run.askTag, Run.take_eq, inspector]
  dsimp only
  split <;> rfl

theorem state_askDocument (run : Run Tally) (pass : String) :
    (run.askDocument rules.inspector pass).1.state = run.state := by
  rw [Run.askDocument, Run.take_eq]
  rfl

theorem exists_state_visitAll (document : Document) (elements : List Element) (run : Run Tally) :
    ∃ names : List String, (run.visitAll rules.inspector document elements).1.state =
      names.foldl Tally.record run.state := by
  induction elements generalizing run with
  | nil => exact ⟨[], rfl⟩
  | cons element rest ih =>
      have counted : (run.visit rules.inspector document element).1.state =
          run.state.record element.name := state_askTag rules _ _ _
      generalize visited : run.visit rules.inspector document element = result at counted
      obtain ⟨next, failure⟩ := result
      cases failure with
      | some failure =>
          rw [Run.visitAll_cons_of_some _ visited]
          exact ⟨[element.name], counted⟩
      | none =>
          obtain ⟨names, later⟩ := ih next
          refine ⟨element.name :: names, ?_⟩
          rw [Run.visitAll_cons_of_none _ visited, later, counted]
          rfl

/-- Whatever is done with a run, its tally only counts some more tags. -/
theorem exists_state_perform (run : Run Tally) (use : Use) :
    ∃ names : List String, (use.perform rules.inspector run).1.state =
      names.foldl Tally.record run.state := by
  cases use with
  | scan document =>
      obtain ⟨names, counted⟩ := rules.exists_state_visitAll document document.walk run
      refine ⟨names, ?_⟩
      generalize visited : run.visitAll rules.inspector document document.walk = result at counted
      obtain ⟨next, failure⟩ := result
      cases failure with
      | some failure =>
          rw [Use.perform, Run.scan_of_some _ visited]
          exact counted
      | none =>
          rw [Use.perform, Run.scan_of_none _ visited, state_askDocument]
          exact counted
  | askTag tag attributes =>
      rw [Use.perform, state_askTag]
      split
      · exact ⟨[tag], rfl⟩
      · exact ⟨[], rfl⟩
  | askDocument pass => exact ⟨[], rules.state_askDocument run pass⟩
  | operate operation => exact ⟨[], rfl⟩
  | replace audit => exact ⟨[], rfl⟩

theorem exists_state_after (start : Run Tally) (session : List Use) :
    ∃ names : List String, (start.after rules.inspector session).state =
      names.foldl Tally.record start.state := by
  induction session using List.reverseRecOn with
  | nil => exact ⟨[], rfl⟩
  | append_singleton session use ih =>
      obtain ⟨names, counted⟩ := ih
      obtain ⟨more, performed⟩ :=
        rules.exists_state_perform (start.after rules.inspector session) use
      refine ⟨names ++ more, ?_⟩
      rw [Run.after_concat, performed, counted, List.foldl_append]

/-! ## What a surplus count makes of later answers -/

@[simp]
theorem params_documentedAt_found (context : Context) (code : Code) (params : List String)
    (url : Option String) :
    ((Violation.found context code params).documentedAt url).params = params :=
  ((Violation.tells_found context code params).documentedAt url).params_eq

/-- The report that a tag occurs once more, from a given context. -/
def recurrence (context : Context) (tag : String) : Violation :=
  (Violation.found context .duplicateUniqueTag [tag]).documentedAt
    ((rules.tag? tag).bind (·.definition.specUrl))

/-- What one of the tags that have been seen requires and that has not been seen. -/
def requirementsOf (context : Context) (tally : Tally) (tag : String) : List Violation :=
  match rules.tag? tag with
  | none => []
  | some rule =>
      (rule.definition.requires.filter (tally.count · == 0)).map fun missing =>
        (Violation.found context .tagRequiredByMissing [missing, tag]).documentedAt
          rule.definition.specUrl

theorem requirementFindings_eq_flatMap (context : Context) (tally : Tally) :
    rules.requirementFindings context tally =
      tally.tags.flatMap (rules.requirementsOf context tally) := rfl

/-- A tag has been counted once too often, and others have been visited since. The tags that have
been visited otherwise are `seen`. -/
structure Overcounts (tag : String) (seen : List String) (tally : Tally) : Prop where
  /-- A question about a tag is answered as it would be, unless it is about this one, which must be
  unique and not seen otherwise. -/
  answer_iff : ∀ {context : Context} {audit : Audit}, context.phase = .local →
    audit.isClosed = false → ∀ other attributes,
      (Run.outcome (Run.askTag rules.inspector ⟨context, audit, tally⟩ other attributes) =
          Run.outcome
            (Run.askTag rules.inspector ⟨context, audit, .ofNames seen⟩ other attributes) ↔
        other ≠ tag ∨ tag ∈ seen ∨ ¬rules.IsUnique tag)
  /-- In that case there is one report more. -/
  recurs : ∀ {context : Context} {audit : Audit}, context.phase = .local →
    audit.isClosed = false → tag ∉ seen → rules.IsUnique tag → ∀ attributes,
      ∃ first last,
        Run.appended rules.inspector ⟨context, audit, .ofNames seen⟩ tag attributes =
          first ++ last ∧
        Run.appended rules.inspector ⟨context, audit, tally⟩ tag attributes =
          first ++ rules.recurrence context tag :: last
  /-- What is lacking is what would be lacking, if the tag has been seen otherwise. -/
  lacks_of_seen : tag ∈ seen → ∀ context,
    (rules.lackFindings context tally).Perm (rules.lackFindings context (.ofNames seen))
  /-- If it has not, it is not reported to be lacking, and what it requires is. -/
  lacks_of_unseen : tag ∉ seen → ∀ context,
    (rules.lackFindings context tally).Perm
      ((rules.lackFindings context (.ofNames seen)).filter (·.params.head? != some tag) ++
        rules.requirementsOf context tally tag)

section Answers

variable {rules} (context : Context) (tag : String) (attributes : AttributeSet)

/-- The number of occurrences matters for a unique tag only, and only whether it is the first. -/
theorem tagFindings_congr {first second : Nat}
    (same : rules.IsUnique tag → (1 < first ↔ 1 < second)) :
    rules.tagFindings context tag attributes first =
      rules.tagFindings context tag attributes second := by
  unfold tagFindings
  cases defined : rules.tag? tag with
  | none => rfl
  | some rule =>
      have reported : rule.uniquenessFindings context tag first =
          rule.uniquenessFindings context tag second := by
        unfold TagRule.uniquenessFindings
        refine ite_congr (propext (and_congr_right fun isUnique => ?_)) (fun _ => rfl) fun _ => rfl
        exact same ⟨rule, defined, isUnique⟩
      simp only [TagRule.findings, reported]

/-- A further occurrence of a unique tag has one report more than the first one. -/
theorem tagFindings_recurs (isUnique : rules.IsUnique tag) {occurrences : Nat}
    (further : 1 < occurrences) :
    ∃ first last, rules.tagFindings context tag attributes 1 = first ++ last ∧
      rules.tagFindings context tag attributes occurrences =
        first ++ rules.recurrence context tag :: last := by
  obtain ⟨rule, defined, unique⟩ := isUnique
  rw [Option.mem_def] at defined
  have silent : rule.uniquenessFindings context tag 1 = [] := by
    simp [TagRule.uniquenessFindings]
  have reported : rule.uniquenessFindings context tag occurrences =
      [Violation.found context .duplicateUniqueTag [tag]] := by
    simp [TagRule.uniquenessFindings, unique, further]
  simp only [tagFindings, recurrence, defined, Option.bind_some, TagRule.findings, silent, reported,
    List.map_append, List.append_assoc, List.map_cons, List.nil_append, List.cons_append]
  exact ⟨_, _, rfl, rfl⟩

theorem outcome_askTag (isLocal : context.phase = .local) {audit : Audit}
    (isOpen : audit.isClosed = false) (tally : Tally) :
    Run.outcome (Run.askTag rules.inspector ⟨context, audit, tally⟩ tag attributes) =
      (audit.extend (rules.tagFindings context tag attributes (tally.count tag + 1)), none) := by
  rw [rules.askTag_of_local isLocal isOpen, Run.outcome]

end Answers

section Lacks

variable (context : Context) {before later : List String} {tag : String}

theorem requirementsOf_surplus (other : String) :
    rules.requirementsOf context (.ofNames (before ++ tag :: later)) other =
      (rules.requirementsOf context (.ofNames (before ++ later)) other).filter
        (·.params.head? != some tag) := by
  unfold requirementsOf
  cases rules.tag? other with
  | none => rfl
  | some rule =>
      simp only [Tally.isUnseen_surplus, List.filter_map, List.filter_filter]
      congr 1
      refine List.filter_congr fun missing _ => ?_
      simp [bne, Bool.and_comm]

theorem missingTagFindings_surplus :
    rules.missingTagFindings context (.ofNames (before ++ tag :: later)) =
      (rules.missingTagFindings context (.ofNames (before ++ later))).filter
        (·.params.head? != some tag) := by
  simp only [missingTagFindings, Tally.isUnseen_surplus, List.filter_map, List.filter_filter]
  congr 1
  refine List.filter_congr fun rule _ => ?_
  simp [bne, Bool.and_comm, Bool.and_left_comm]

/-- If the tag has been seen otherwise, the same is reported to be lacking, though the tags may
come in another order. -/
theorem lackFindings_surplus_of_seen (seen : tag ∈ before ++ later) :
    (rules.lackFindings context (.ofNames (before ++ tag :: later))).Perm
      (rules.lackFindings context (.ofNames (before ++ later))) := by
  have required : rules.requirementsOf context (.ofNames (before ++ tag :: later)) =
      rules.requirementsOf context (.ofNames (before ++ later)) := by
    funext other
    simp only [requirementsOf, Tally.isUnseen_surplus_of_seen seen]
  simp only [lackFindings, missingTagFindings, requirementFindings_eq_flatMap, required,
    Tally.isUnseen_surplus_of_seen seen]
  exact ((Tally.tags_surplus_of_seen seen).flatMap_right _).append_left _

/-- If it has not, it is no longer reported to be lacking, and what it requires is. -/
theorem lackFindings_surplus_of_unseen (unseen : tag ∉ before ++ later) :
    (rules.lackFindings context (.ofNames (before ++ tag :: later))).Perm
      ((rules.lackFindings context (.ofNames (before ++ later))).filter
          (·.params.head? != some tag) ++
        rules.requirementsOf context (.ofNames (before ++ tag :: later)) tag) := by
  rw [lackFindings, lackFindings, List.filter_append, missingTagFindings_surplus, List.append_assoc]
  refine List.Perm.append_left _ ?_
  rw [requirementFindings_eq_flatMap, requirementFindings_eq_flatMap, List.filter_flatMap]
  refine ((Tally.tags_surplus_of_unseen unseen).flatMap_right _).trans ?_
  rw [List.flatMap_cons]
  refine List.perm_append_comm.trans (List.Perm.append_right _ (.of_eq ?_))
  exact List.flatMap_congr fun other _ => rules.requirementsOf_surplus context other

end Lacks

section Surplus

variable {rules} {context : Context} {audit : Audit} {before later : List String} {tag : String}

/-- If the tag must be unique and has not been seen otherwise, its first visit is reported as a
further one. -/
theorem appended_surplus_of_unseen (isLocal : context.phase = .local)
    (isOpen : audit.isClosed = false) (unseen : tag ∉ before ++ later)
    (isUnique : rules.IsUnique tag) (attributes : AttributeSet) :
    ∃ first last,
      Run.appended rules.inspector ⟨context, audit, .ofNames (before ++ later)⟩ tag attributes =
        first ++ last ∧
      Run.appended rules.inspector ⟨context, audit, .ofNames (before ++ tag :: later)⟩ tag
          attributes =
        first ++ rules.recurrence context tag :: last := by
  have none : (Tally.ofNames (before ++ later)).count tag = 0 :=
    Nat.eq_zero_of_not_pos fun some => unseen (Tally.count_ofNames_pos_iff.mp some)
  rw [rules.appended_of_local isLocal isOpen, rules.appended_of_local isLocal isOpen,
    Tally.count_surplus, none, if_pos rfl]
  exact tagFindings_recurs context tag attributes isUnique (by omega)

/-- Otherwise the answer is what it would be. -/
theorem outcome_surplus (isLocal : context.phase = .local) (isOpen : audit.isClosed = false)
    {other : String} (attributes : AttributeSet)
    (harmless : other ≠ tag ∨ tag ∈ before ++ later ∨ ¬rules.IsUnique tag) :
    Run.outcome (Run.askTag rules.inspector ⟨context, audit, .ofNames (before ++ tag :: later)⟩
        other attributes) =
      Run.outcome (Run.askTag rules.inspector ⟨context, audit, .ofNames (before ++ later)⟩
        other attributes) := by
  rw [outcome_askTag context other attributes isLocal isOpen,
    outcome_askTag context other attributes isLocal isOpen, Tally.count_surplus]
  congr 2
  refine tagFindings_congr context other attributes fun isUnique => ?_
  split
  · rename_i same
    subst same
    have seen : other ∈ before ++ later := by
      rcases harmless with apart | seen | ordinary
      · exact absurd rfl apart
      · exact seen
      · exact absurd isUnique ordinary
    have counted := Tally.count_ofNames_pos_iff.mpr seen
    omega
  · rw [Nat.add_zero]

theorem outcome_surplus_iff (isLocal : context.phase = .local) (isOpen : audit.isClosed = false)
    (other : String) (attributes : AttributeSet) :
    Run.outcome (Run.askTag rules.inspector ⟨context, audit, .ofNames (before ++ tag :: later)⟩
        other attributes) =
      Run.outcome (Run.askTag rules.inspector ⟨context, audit, .ofNames (before ++ later)⟩
        other attributes) ↔
      other ≠ tag ∨ tag ∈ before ++ later ∨ ¬rules.IsUnique tag := by
  refine ⟨fun same => ?_, outcome_surplus isLocal isOpen attributes⟩
  by_contra differs
  obtain ⟨rfl, unseen, isUnique⟩ : other = tag ∧ tag ∉ before ++ later ∧ rules.IsUnique tag := by
    simpa only [not_or, not_not] using differs
  -- One report more makes another audit.
  obtain ⟨first, last, without, surplus⟩ :=
    appended_surplus_of_unseen isLocal isOpen unseen isUnique attributes
  have appended := congrArg
    (fun outcome => outcome.1.violations.toList.drop audit.violations.size) same
  rw [Run.appended] at without surplus
  have lengths := congrArg List.length (surplus.symm.trans (appended.trans without))
  simp at lengths

end Surplus

/-- A tag that has been counted between others has been counted once too often. -/
theorem overcounts (tag : String) (before later : List String) :
    rules.Overcounts tag (before ++ later) (.ofNames (before ++ tag :: later)) where
  answer_iff := outcome_surplus_iff
  recurs := appended_surplus_of_unseen
  lacks_of_seen seen context := rules.lackFindings_surplus_of_seen context seen
  lacks_of_unseen unseen context := rules.lackFindings_surplus_of_unseen context unseen

/-! ## Refusals -/

/-- A question about a tag leaves the run as it was, as far as one can tell: by its context and its
audit, by all counts, and by the answer to the same question when it is put again, whatever has been
visited in between. -/
def LeavesNoTrace (run : Run Tally) (tag : String) (attributes : AttributeSet) : Prop :=
  let next := (run.askTag rules.inspector tag attributes).1
  next.context = run.context ∧ next.audit = run.audit ∧
    (∀ other, next.state.count other = run.state.count other) ∧
    ∀ (names : List String) (context : Context) (audit : Audit), context.phase = .local →
      audit.isClosed = false →
        Run.outcome (Run.askTag rules.inspector
            ⟨context, audit, names.foldl .record next.state⟩ tag attributes) =
          Run.outcome (Run.askTag rules.inspector
            ⟨context, audit, names.foldl .record run.state⟩ tag attributes)

/-- In the local phase only a closed audit refuses, and by then the tag has been counted. -/
theorem refused_of_local {run : Run Tally} (isLocal : run.context.phase = .local) {tag : String}
    {attributes : AttributeSet} {failure : Failure}
    (refused : (run.askTag rules.inspector tag attributes).2 = some failure) :
    run.audit.isClosed = true ∧ failure = .closed ∧
      (run.askTag rules.inspector tag attributes).1 =
        ⟨run.context, run.audit, run.state.record tag⟩ := by
  cases state : run.audit.isClosed with
  | false =>
      rw [rules.askTag_of_local isLocal state] at refused
      cases refused
  | true =>
      rw [Run.askTag, Run.take_eq, inspectTag_of_local rules isLocal,
        Audit.addAll_of_isClosed state, Audit.taken, if_pos state, Audit.extend_nil] at refused ⊢
      refine ⟨rfl, ?_, rfl⟩
      dsimp only at refused
      split at refused <;> cases refused
      rfl

theorem leavesNoTrace_of_global {run : Run Tally} (global : run.context.phase = .global)
    (tag : String) (attributes : AttributeSet) : rules.LeavesNoTrace run tag attributes := by
  rw [LeavesNoTrace, rules.askTag_of_global global]
  exact ⟨rfl, rfl, fun _ => rfl, fun _ _ _ _ _ => rfl⟩

theorem not_leavesNoTrace_of_local {run : Run Tally} (isLocal : run.context.phase = .local)
    (tag : String) (attributes : AttributeSet) : ¬rules.LeavesNoTrace run tag attributes := by
  rintro ⟨_, _, counts, _⟩
  have counted := counts tag
  rw [state_askTag, if_pos isLocal, Tally.count_record, if_pos rfl] at counted
  omega

/-- A question about a tag that is refused leaves the context and the audit as they are. It leaves
no trace exactly if it was put out of the local phase, and then it leaves the run as it is. In the
local phase only a closed audit refuses, and the tag stays counted in all that follows, once too
often. -/
theorem askTag_refused (before : List String) (context : Context) (audit : Audit) (tag : String)
    (attributes : AttributeSet) {failure : Failure}
    (refused : (Run.askTag rules.inspector ⟨context, audit, .ofNames before⟩ tag attributes).2 =
      some failure) :
    let run : Run Tally := ⟨context, audit, .ofNames before⟩
    let next := (run.askTag rules.inspector tag attributes).1
    next.context = context ∧ next.audit = audit ∧
      (rules.LeavesNoTrace run tag attributes ↔ context.phase = .global) ∧
      (context.phase = .global → next = run ∧
        failure = .engine tag "tag validation requested outside the local phase") ∧
      (context.phase = .local → audit.isClosed = true ∧ failure = .closed ∧
        (∀ other, next.state.count other = run.state.count other + if other = tag then 1 else 0) ∧
        (∀ session, ∃ later, (next.after rules.inspector session).state =
          .ofNames (before ++ tag :: later)) ∧
        ∀ later, rules.Overcounts tag (before ++ later) (.ofNames (before ++ tag :: later))) := by
  intro run next
  cases phase : context.phase with
  | global =>
      have answer : run.askTag rules.inspector tag attributes = _ :=
        rules.askTag_of_global phase tag attributes
      have unchanged : next = run := congrArg Prod.fst answer
      have reason := (congrArg Prod.snd answer).symm.trans refused
      refine ⟨by rw [unchanged], by rw [unchanged],
        iff_of_true (rules.leavesNoTrace_of_global phase tag attributes) rfl,
        fun _ => ⟨unchanged, (Option.some.inj reason).symm⟩, nofun⟩
  | «local» =>
      obtain ⟨closed, reason, counted⟩ : audit.isClosed = true ∧ failure = .closed ∧
          next = ⟨context, audit, (Tally.ofNames before).record tag⟩ :=
        rules.refused_of_local phase refused
      refine ⟨by rw [counted], by rw [counted],
        iff_of_false (rules.not_leavesNoTrace_of_local phase tag attributes) nofun, nofun,
        fun _ => ⟨closed, reason, ?counts, ?stays, rules.overcounts tag before⟩⟩
      case counts =>
        intro other
        rw [counted, Tally.count_record]
      case stays =>
        intro session
        obtain ⟨later, after⟩ := rules.exists_state_after next session
        refine ⟨later, ?_⟩
        rw [after, counted, ← Tally.ofNames_concat, Tally.foldl_record_ofNames, List.append_assoc]
        rfl

/-- The context of a scan that has turned to a paragraph of the page. -/
def onParagraph : Context :=
  Context.start.visit .page ⟨⟨1⟩, "p", ⟨[]⟩, 2, some ⟨0⟩, []⟩

/-- A width is asked about, which paragraphs may not have. Out of the local phase the refusal
leaves no trace. For a closed audit the paragraph is counted, and when the question is put again,
for an open one, the first paragraph is reported as a repetition. -/
theorem askTag_refused_paragraph :
    let width : AttributeSet := ⟨[("width", "1")]⟩
    let early : Run Tally := ⟨Context.start, .empty, .ofNames []⟩
    let late : Run Tally := ⟨onParagraph, Audit.empty.close, .ofNames []⟩
    let surplus : Run Tally := ⟨onParagraph, .empty, .ofNames ["p"]⟩
    (early.askTag solitary.inspector "p" width).2 ≠ none ∧
      solitary.LeavesNoTrace early "p" width ∧
      (late.askTag solitary.inspector "p" width).2 = some .closed ∧
      ¬solitary.LeavesNoTrace late "p" width ∧
      (surplus.appended solitary.inspector "p" width).map (·.code) =
        [.duplicateUniqueTag, .disallowedAttr] := by
  intro width early late surplus
  obtain ⟨_, _, traceless, _, _⟩ := solitary.askTag_refused [] Context.start .empty "p" width rfl
  obtain ⟨_, _, traced, _, _⟩ :=
    solitary.askTag_refused [] onParagraph Audit.empty.close "p" width rfl
  refine ⟨by decide +kernel, traceless.mpr rfl, by decide +kernel, fun none => ?_,
    by decide +kernel⟩
  exact absurd (traced.mp none) (by decide)

/-- Not every refusal leaves no trace: a paragraph for which there is no room in the audit is
counted. -/
theorem refused_paragraph_counted :
    ¬∀ (table : RuleTable) (rules : RuleSet) (run : Run Tally) (tag : String)
      (attributes : AttributeSet) (failure : Failure), compile table = .ok rules →
        (run.askTag rules.inspector tag attributes).2 = some failure →
          rules.LeavesNoTrace run tag attributes := by
  intro traceless
  let table : RuleTable := ⟨"solitary", none, ["lang"], [TagDefinition.plain "html",
    { TagDefinition.plain "p" with unique := true, specUrl := some "spec#p" }]⟩
  have compiled : compile table = .ok solitary := by decide +kernel
  obtain ⟨_, _, counts, _⟩ := traceless table solitary ⟨onParagraph, Audit.empty.close, .empty⟩ "p"
    ⟨[("width", "1")]⟩ .closed compiled (by decide +kernel)
  exact absurd (counts "p") (by decide +kernel)

end RuleSet

end MarkupAudit
