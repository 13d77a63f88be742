/-
# Where a report puts its headers

The headers of a report by the places of the violations, for any audit whatever. There is a header
above a violation that is the first one, above one whose heading is not that of the violation
before, and above one that was found on another element than the last violation before it that
was found on an element at all, no matter how many violations of the document stand between. What a
header says is stated here too, by the text that a reader sees.

The writer looks at no places. It remembers a heading, which it changes only with a header, and an
element, which it changes only at a violation on an element. The invariant says what these two are
at any place: the heading of the violation before, and the element of the last one before that has
been found on an element. That the heading is changed so seldom makes no difference, because a
violation without a header has the heading that is remembered.
-/

import MarkupAudit.Report.Basic

namespace MarkupAudit.Report

variable {violations : List Violation} {memory : Memory} {place : Nat}

/-! ## The rule -/

/-- Of the violations before a place, the last one that was found on an element. -/
def IsLastLocal (violations : List Violation) (place : Nat) (earlier : Fin violations.length) :
    Prop :=
  earlier < place ∧ violations[earlier].phase = .local ∧
    ∀ between : Fin violations.length, earlier < between → between < place →
      violations[between].phase ≠ .local

/-- There is a header above the violation at a place. -/
def HasHeader (violations : List Violation) (place : Fin violations.length) : Prop :=
  place.val = 0 ∨
    (∃ previous : Fin violations.length, previous.val + 1 = place ∧
      violations[previous].heading ≠ violations[place].heading) ∨
    (violations[place].phase = .local ∧
      ∃ earlier, IsLastLocal violations place earlier ∧
        violations[earlier].element ≠ violations[place].element)

instance (earlier : Fin violations.length) : Decidable (IsLastLocal violations place earlier) :=
  inferInstanceAs (Decidable (_ ∧ _ ∧ _))

instance (place : Fin violations.length) : Decidable (HasHeader violations place) :=
  inferInstanceAs (Decidable (_ ∨ _ ∨ _))

/-- What the header above a violation says: that what follows is about the document, or the heading
of the violation and the line on which it was found. -/
def title (violation : Violation) : String :=
  if violation.heading = "GLOBAL WARNING" then "GLOBAL WARNING"
  else violation.heading ++ " on line " ++ toString violation.line

/-- What stands in a report for the violation at a place: below an empty line and the title, if
there is a header above it, the lines of the violation. -/
def entry (table : TemplateTable) (violations : List Violation) (place : Fin violations.length) :
    String :=
  (if HasHeader violations place then "\n" ++ title violations[place] ++ "\n" else "") ++
    table.line violations[place] ++ "\n"

/-- The writer's header is an empty line and the title. -/
theorem header_eq (violation : Violation) :
    header violation = "\n" ++ title violation ++ "\n" := by
  have named : Violation.globalHeading = "GLOBAL WARNING" := rfl
  rw [header, title, named]
  split
  · rfl
  · simp only [String.append_assoc]

/-! ## What is remembered -/

namespace Memory

/-- What the writer remembers before the violation at a place. -/
structure Recalls (memory : Memory) (violations : List Violation) (place : Nat) : Prop where
  heading_iff : ∀ heading, memory.heading = some heading ↔
    ∃ previous : Fin violations.length, previous.val + 1 = place ∧
      violations[previous].heading = heading
  element_iff : ∀ element, memory.element = some element ↔
    ∃ earlier, IsLastLocal violations place earlier ∧ violations[earlier].element = element

theorem recalls_start (violations : List Violation) : start.Recalls violations 0 where
  heading_iff heading := by simp [start]
  element_iff element := by simp [start, IsLastLocal]

/-- A violation that begins no group has the heading that is remembered. -/
theorem heading_eq_of_startsGroup {violation : Violation}
    (same : memory.startsGroup violation = false) : memory.heading = some violation.heading := by
  rw [startsGroup, Bool.or_eq_false_iff] at same
  simpa using same.1

theorem heading_after (memory : Memory) (violation : Violation) :
    (memory.after violation).heading = some violation.heading := by
  rw [after]
  cases begins : memory.startsGroup violation with
  | true => rw [if_pos rfl]
  | false => rw [if_neg Bool.false_ne_true, heading_eq_of_startsGroup begins]

namespace Recalls

variable (recalls : memory.Recalls violations place)
include recalls

/-- After the violation at a place, the writer remembers what it should before the next one. -/
theorem after (inside : place < violations.length) :
    (memory.after violations[place]).Recalls violations (place + 1) := by
  constructor
  case heading_iff =>
    intro heading
    rw [heading_after, Option.some_inj]
    constructor
    · exact fun same => ⟨⟨place, inside⟩, rfl, same⟩
    · rintro ⟨previous, here, same⟩
      obtain rfl : previous = ⟨place, inside⟩ := Fin.ext (Nat.succ.inj here)
      exact same
  case element_iff =>
    intro element
    by_cases onElement : violations[place].phase = .local
    · -- The violation at the place is now the last one.
      rw [Memory.after, if_pos onElement, Option.some_inj]
      constructor
      · refine fun same => ⟨⟨place, inside⟩, ⟨Nat.lt_succ_self place, onElement, ?_⟩, same⟩
        intro between later before
        exact absurd before (Nat.not_lt_of_le later)
      · rintro ⟨earlier, ⟨before, _, last⟩, same⟩
        rcases Nat.lt_succ_iff_lt_or_eq.mp before with before | here
        · exact absurd onElement (last ⟨place, inside⟩ before (Nat.lt_succ_self place))
        · obtain rfl : earlier = ⟨place, inside⟩ := Fin.ext here
          exact same
    · -- The last one is the same as before.
      rw [Memory.after, if_neg onElement, recalls.element_iff]
      refine exists_congr fun earlier => and_congr_left fun _ => ?_
      constructor
      · rintro ⟨before, isLocal, last⟩
        refine ⟨Nat.lt_succ_of_lt before, isLocal, fun between later within => ?_⟩
        rcases Nat.lt_succ_iff_lt_or_eq.mp within with within | here
        · exact last between later within
        · obtain rfl : between = ⟨place, inside⟩ := Fin.ext here
          exact onElement
      · rintro ⟨before, isLocal, last⟩
        rcases Nat.lt_succ_iff_lt_or_eq.mp before with before | here
        · exact ⟨before, isLocal, fun between later within =>
            last between later (Nat.lt_succ_of_lt within)⟩
        · obtain rfl : earlier = ⟨place, inside⟩ := Fin.ext here
          exact absurd isLocal onElement

/-- The heading that is remembered is not that of a violation if there is no violation before, or
if that has another one. -/
theorem heading_ne_iff (inside : place < violations.length) (heading : String) :
    memory.heading ≠ some heading ↔
      place = 0 ∨ ∃ previous : Fin violations.length, previous.val + 1 = place ∧
        violations[previous].heading ≠ heading := by
  rw [Ne, recalls.heading_iff]
  cases place with
  | zero => simp
  | succ before =>
      have only (other : Fin violations.length) :
          other.val + 1 = before + 1 ↔ other = ⟨before, Nat.lt_of_succ_lt inside⟩ := by
        rw [Nat.succ_inj, Fin.ext_iff]
      simp only [only, exists_eq_left, Nat.succ_ne_zero, false_or]

/-- The element that is remembered is another one if there is a last violation on an element, and
that is another one. -/
theorem any_element_iff (element : Option ElementId) :
    memory.element.any (· != element) = true ↔
      ∃ earlier, IsLastLocal violations place earlier ∧ violations[earlier].element ≠ element := by
  rw [Option.any_eq_true]
  constructor
  · rintro ⟨last, remembered, differs⟩
    obtain ⟨earlier, isLast, rfl⟩ := (recalls.element_iff last).mp remembered
    exact ⟨earlier, isLast, by simpa using differs⟩
  · rintro ⟨earlier, isLast, differs⟩
    exact ⟨_, (recalls.element_iff _).mpr ⟨earlier, isLast, rfl⟩, by simpa using differs⟩

/-- The writer begins a group where there is a header. -/
theorem startsGroup_iff (inside : place < violations.length) :
    memory.startsGroup violations[place] = true ↔ HasHeader violations ⟨place, inside⟩ := by
  rw [startsGroup, Bool.or_eq_true, bne_iff_ne, recalls.heading_ne_iff inside, Bool.and_eq_true,
    beq_iff_eq, recalls.any_element_iff, or_assoc]
  rfl

end Recalls

end Memory

/-! ## The text -/

/-- From any place on, the writer writes the entries of the violations from there on. -/
theorem body_drop (table : TemplateTable) (recalls : memory.Recalls violations place) :
    body table memory (violations.drop place) =
      String.join (((List.finRange violations.length).drop place).map
        (entry table violations)) := by
  induction remaining : violations.drop place generalizing memory place with
  | nil =>
      have ended : violations.length ≤ place := List.drop_eq_nil_iff.mp remaining
      have none : (List.finRange violations.length).drop place = [] :=
        List.drop_eq_nil_of_le (by rwa [List.length_finRange])
      rw [none]
      rfl
  | cons violation rest ih =>
      have inside : place < violations.length := by
        have more := congrArg List.length remaining
        rw [List.length_drop, List.length_cons] at more
        omega
      rw [List.drop_eq_getElem_cons inside, List.cons.injEq] at remaining
      obtain ⟨rfl, rfl⟩ := remaining
      have listed : place < (List.finRange violations.length).length := by
        rwa [List.length_finRange]
      have later := ih (recalls.after inside) rfl
      rw [body, later, List.drop_eq_getElem_cons listed, List.map_cons, String.join_cons,
        List.getElem_finRange]
      simp only [recalls.startsGroup_iff inside, header_eq]
      rfl

/-- The report on any audit is its first line and the entries of its violations, in order, each
with a header above it where there is one. -/
theorem write_eq_entries (table : TemplateTable) (audit : Audit) :
    let violations := audit.violations.toList.map Violation.categorized
    (write table audit).2 =
      firstLine audit ++ "\n" ++
        String.join ((List.finRange violations.length).map (entry table violations)) := by
  intro violations
  have listed : audit.annotate.close.violations.toList = violations := Array.toList_map
  have first : firstLine audit.annotate.close = firstLine audit := by
    simp [firstLine, Audit.annotate, Audit.close]
  have entries := body_drop table (Memory.recalls_start violations)
  rw [List.drop_zero, List.drop_zero] at entries
  rw [write, text, listed, first, entries]

/-- A violation of the document between two on different elements: under one heading, it is the
change of the element that brings the second header. -/
example :
    let found (element : Option ElementId) (phase : Phase) : Violation :=
      { Violation.ofDocument .disallowedTag [] with element, phase, heading := "p" }
    let violations := [found (some ⟨0⟩) .local, found none .global, found (some ⟨1⟩) .local]
    (List.finRange violations.length).filter (HasHeader violations ·) = [⟨0, by decide⟩,
      ⟨2, by decide⟩] := by
  decide +kernel

end MarkupAudit.Report
