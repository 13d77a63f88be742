/-
# Findings with some left out

Two validations that find the same but for some violations that only one of them finds. What one
finds is then a part of what the other finds, in the same order, and the two are equal exactly if
nothing is left out. Both facts are carried along from the single check to the whole list, so that
at the end there is one condition that says when the validations agree.
-/

import Mathlib.Data.List.Basic
import MarkupAudit.Proofs.Rules.Findings

namespace MarkupAudit

variable {α β : Type}

/-- One list is another one with some items left out, and is the whole of it exactly under a
condition. -/
structure Abridges (whole : Prop) (short long : List α) : Prop where
  sublist : short.Sublist long
  eq_iff : short = long ↔ whole

namespace Abridges

variable {first second : Prop} {short long : List α}

protected theorem refl (items : List α) : Abridges True items items :=
  ⟨List.Sublist.refl items, iff_of_true rfl trivial⟩

theorem congr (abridges : Abridges first short long) (same : first ↔ second) :
    Abridges second short long :=
  ⟨abridges.sublist, abridges.eq_iff.trans same⟩

/-- Where nothing is left out, the condition holds. -/
theorem unchanged (items : List α) (holds : first) : Abridges first items items :=
  (Abridges.refl items).congr (iff_of_true trivial holds)

/-- Whether something is left out can be told by counting. -/
theorem length_eq_iff (abridges : Abridges first short long) :
    short.length = long.length ↔ first := by
  rw [← abridges.eq_iff]
  constructor
  · exact abridges.sublist.eq_of_length
  · exact congrArg List.length

/-- Nothing is hidden by looking at the items in a way that loses something of each. -/
theorem map (abridges : Abridges first short long) (look : α → β) :
    Abridges first (short.map look) (long.map look) := by
  refine ⟨abridges.sublist.map look, ?_⟩
  rw [← abridges.length_eq_iff]
  constructor
  · intro same
    have lengths := congrArg List.length same
    rwa [List.length_map, List.length_map] at lengths
  · intro lengths
    rw [abridges.sublist.eq_of_length lengths]

theorem cons (abridges : Abridges first short long) (item : α) :
    Abridges first (item :: short) (item :: long) := by
  refine ⟨abridges.sublist.cons_cons item, ?_⟩
  rw [← abridges.eq_iff, List.cons.injEq]
  exact and_iff_right rfl

/-- What has been left out once is not made up for. -/
theorem skip (sublist : short.Sublist long) (item : α) : Abridges False short (item :: long) := by
  refine ⟨sublist.cons item, iff_of_false ?_ not_false⟩
  intro same
  have fewer := sublist.length_le
  rw [same, List.length_cons] at fewer
  omega

theorem append {shortNext longNext : List α} (abridges : Abridges first short long)
    (next : Abridges second shortNext longNext) :
    Abridges (first ∧ second) (short ++ shortNext) (long ++ longNext) := by
  refine ⟨abridges.sublist.append next.sublist, ?_⟩
  constructor
  · intro same
    have lengths := congrArg List.length same
    rw [List.length_append, List.length_append] at lengths
    have here := abridges.sublist.length_le
    have there := next.sublist.length_le
    exact ⟨abridges.length_eq_iff.mp (by omega), next.length_eq_iff.mp (by omega)⟩
  · rintro ⟨here, there⟩
    rw [abridges.eq_iff.mpr here, next.eq_iff.mpr there]

theorem flatMap {items : List α} {whole : α → Prop} {report reportLong : α → List β}
    (each : ∀ item ∈ items, Abridges (whole item) (report item) (reportLong item)) :
    Abridges (∀ item ∈ items, whole item) (items.flatMap report) (items.flatMap reportLong) := by
  induction items with
  | nil => exact Abridges.unchanged [] (by simp)
  | cons item rest ih =>
      obtain ⟨here, later⟩ := List.forall_mem_cons.mp each
      rw [List.flatMap_cons, List.flatMap_cons, List.forall_mem_cons]
      exact here.append (ih later)

/-- A stricter choice leaves out what it alone refuses. -/
theorem filter {items : List α} {strict lax : α → Bool}
    (stricter : ∀ item ∈ items, strict item = true → lax item = true) :
    Abridges (∀ item ∈ items, lax item = true → strict item = true)
      (items.filter strict) (items.filter lax) := by
  induction items with
  | nil => exact Abridges.unchanged [] (by simp)
  | cons item rest ih =>
      obtain ⟨here, later⟩ := List.forall_mem_cons.mp stricter
      rw [List.forall_mem_cons]
      by_cases wanted : lax item = true
      · rw [List.filter_cons_of_pos wanted]
        by_cases chosen : strict item = true
        · rw [List.filter_cons_of_pos chosen]
          exact ((ih later).cons item).congr (by simp [chosen])
        · rw [List.filter_cons_of_neg chosen]
          exact (skip (ih later).sublist item).congr (by simp [wanted, chosen])
      · have refused : ¬strict item = true := fun chosen => wanted (here chosen)
        rw [List.filter_cons_of_neg wanted, List.filter_cons_of_neg refused]
        exact (ih later).congr (by simp [wanted])

end Abridges

/-! ## Elements in a row -/

variable {rules others : RuleSet}

/-- An element is held to a rule in the same way by rule sets with the same global attributes. -/
theorem TagRule.findings_congr (globals : others.globalAttributes = rules.globalAttributes)
    (rule : TagRule) : rule.findings others = rule.findings rules := by
  have isGlobal : others.isGlobal = rules.isGlobal := by
    funext name
    rw [RuleSet.isGlobal, RuleSet.isGlobal, globals]
  funext context tag attributes occurrences
  simp only [findings, attributeFindings, isGlobal]

/-- If less is found on some elements, less is found on all of them in a row. -/
theorem RuleSet.abridges_visitFindings {document : Document} {whole : Element → Prop}
    {look : Violation → β} {elements : List Element}
    (each : ∀ element ∈ elements, ∀ occurrences, Abridges (whole element)
      ((others.elementFindings document element occurrences).map look)
      ((rules.elementFindings document element occurrences).map look))
    (before : List String) :
    Abridges (∀ element ∈ elements, whole element)
      ((others.visitFindings document before elements).map look)
      ((rules.visitFindings document before elements).map look) := by
  induction elements generalizing before with
  | nil => exact Abridges.unchanged [] (by simp)
  | cons element rest ih =>
      obtain ⟨here, later⟩ := List.forall_mem_cons.mp each
      rw [visitFindings, visitFindings, List.map_append, List.map_append, List.forall_mem_cons]
      exact (here _).append (ih later _)

end MarkupAudit
