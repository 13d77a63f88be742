/-
# The verdict on a report

What the first line of a report says. It is the verdict of the audit, except that an audit without
violations is always reported as a pass. For the audits that sessions leave, this exception is a
narrow one: without violations the verdict is a pass anyway, unless it has been declared unknown.
So a report says less than the audit in one case only, when an unknown verdict stands by itself.
-/

import MarkupAudit.Proofs.Audit.Verdict

namespace MarkupAudit

namespace Text

/-- A text begins with a line, which a line break ends. -/
def BeginsWithLine (text line : String) : Prop :=
  '\n' ∉ line.toList ∧ ∃ rest, text = line ++ "\n" ++ rest

/-- A text begins with one line only. -/
theorem BeginsWithLine.unique {text line other : String} (begins : BeginsWithLine text line)
    (again : BeginsWithLine text other) : line = other := by
  have upToBreak {line : String} (begins : BeginsWithLine text line) :
      text.toList.takeWhile (· != '\n') = line.toList := by
    obtain ⟨unbroken, rest, rfl⟩ := begins
    have inside : ∀ c ∈ line.toList, (c != '\n') = true := by
      intro c listed
      exact bne_iff_ne.mpr fun same => unbroken (same ▸ listed)
    rw [String.append_assoc, String.toList_append, List.takeWhile_append_of_pos inside]
    simp
  exact String.toList_inj.mp ((upToBreak begins).symm.trans (upToBreak again))

theorem not_beginsWithLine_empty (line : String) : ¬BeginsWithLine "" line := by
  rintro ⟨_, rest, same⟩
  have chars := congrArg String.toList same
  simp at chars

end Text

open Text (BeginsWithLine)

namespace Report

theorem beginsWithLine_text (table : TemplateTable) (audit : Audit) :
    BeginsWithLine (text table audit) (firstLine audit) := by
  refine ⟨?_, body table .start audit.violations.toList, rfl⟩
  have unbroken (status : Status) : '\n' ∉ status.name.toList := by
    cases status <;> decide
  unfold firstLine
  split
  · exact unbroken .pass
  · exact unbroken audit.status

/-- Categories and the closing of the audit make no difference to the first line. -/
theorem beginsWithLine_write (table : TemplateTable) (audit : Audit) :
    BeginsWithLine (write table audit).2 (firstLine audit) := by
  have same : firstLine audit.annotate.close = firstLine audit := by
    simp [firstLine, Audit.annotate, Audit.close]
  rw [write, ← same]
  exact beginsWithLine_text table audit.annotate.close

theorem write_beginsWithLine_iff (table : TemplateTable) (audit : Audit) (line : String) :
    BeginsWithLine (write table audit).2 line ↔ line = firstLine audit := by
  have begins := beginsWithLine_write table audit
  exact ⟨fun other => other.unique begins, fun same => same ▸ begins⟩

/-- At any moment of a session, the first line of the report is a pass exactly if the audit is
valid, or has an unknown verdict and no violations. Otherwise it is the verdict. -/
theorem firstLine_after (origin : Origin) (session : List Operation) (table : TemplateTable) :
    let audit := origin.audit.after session
    let reportsPass := audit.isValid = true ∨ audit.status = .unknown ∧ audit.violations = #[]
    (BeginsWithLine (write table audit).2 Status.pass.name ↔ reportsPass) ∧
      (¬reportsPass → BeginsWithLine (write table audit).2 audit.status.name) := by
  intro audit reportsPass
  have judged : audit.IsJudged := origin.isJudged_after session
  simp only [write_beginsWithLine_iff]
  by_cases nothing : audit.violations = #[]
  · have first : firstLine audit = Status.pass.name := by simp [firstLine, nothing]
    have passes : reportsPass := by
      rcases judged with unknown | follows
      · exact .inr ⟨unknown, nothing⟩
      · rw [nothing] at follows
        exact .inl (beq_iff_eq.mpr follows)
    exact ⟨iff_of_true first.symm passes, fun otherwise => absurd passes otherwise⟩
  · have first : firstLine audit = audit.status.name := by simp [firstLine, nothing]
    refine ⟨?_, fun _ => first.symm⟩
    show _ ↔ audit.isValid = true ∨ audit.status = .unknown ∧ audit.violations = #[]
    rw [first, Status.name_inj, Audit.isValid, beq_iff_eq, eq_comm]
    simp only [nothing, and_false, or_false]

/-- An audit whose verdict is declared unknown before anything is found is not valid and is still
reported as a pass. -/
theorem unknown_reported_as_pass :
    let audit := Origin.fresh.audit.after [.markUnknown]
    audit.isValid = false ∧ audit.status = .unknown ∧
      (write TemplateTable.builtin audit).2 = "PASS\n" ∧
      BeginsWithLine (write TemplateTable.builtin audit).2 "PASS" ∧
      ¬BeginsWithLine (write TemplateTable.builtin audit).2 audit.status.name := by
  intro audit
  have report : (write TemplateTable.builtin audit).2 = "PASS\n" := by decide +kernel
  have begins : BeginsWithLine (write TemplateTable.builtin audit).2 "PASS" :=
    ⟨by decide, "", report⟩
  refine ⟨rfl, rfl, report, begins, fun otherwise => ?_⟩
  exact absurd (begins.unique otherwise) (by decide)

end Report

end MarkupAudit
