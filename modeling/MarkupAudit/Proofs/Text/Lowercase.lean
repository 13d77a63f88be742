/-
# No capitals in lower case

A text in lower case has no capital letter of ASCII. What stands in for a character beyond ASCII
lies beyond the capitals as well, however the table and the rule for sigma come out, so nothing
has to be known about them but where the table begins to map to.

This is why a tag name is never one of the words that are written in capitals.
-/

import Mathlib
import MarkupAudit.Text.Lowercase

namespace MarkupAudit.Text

/-- A code point behind the capitals of ASCII is none of them, and neither is what stands for one
that is not a character. -/
theorem isUpper_ofNat {code : Nat} (behind : 'Z'.toNat < code) :
    (Char.ofNat code).isUpper = false := by
  have capital (c : Char) : c.isUpper = true ↔ 65 ≤ c.toNat ∧ c.toNat ≤ 90 := by
    simp [Char.isUpper, UInt32.le_iff_toNat_le]
  have after : ¬code ≤ 90 := Nat.not_le.mpr behind
  rw [Bool.eq_false_iff, Ne, capital, Char.toNat_ofNat]
  split <;> omega

/-- The table maps to code points behind the capitals of ASCII. -/
theorem lt_target : ∀ run ∈ caseRuns, 'Z'.toNat < run.target := by
  decide +kernel

theorem lt_lowerCode {code : Nat} (beyond : 0x80 ≤ code) : 'Z'.toNat < lowerCode code := by
  unfold lowerCode
  split
  · rename_i run found
    have behind := lt_target run (List.mem_of_find?_eq_some found)
    exact Nat.lt_of_lt_of_le behind (Nat.le_add_right _ _)
  · exact Nat.lt_of_lt_of_le (by decide) beyond

theorem isUpper_lowerChar (c : Char) : ∀ lower ∈ lowerChar c, lower.isUpper = false := by
  unfold lowerChar
  split
  · simp
  · rename_i beyond
    split
    · simp
    · simpa using isUpper_ofNat (lt_lowerCode (Nat.not_lt.mp beyond))

/-- What holds of the two small sigmas and of everything that stands for a single character holds
of a whole text in lower case. -/
theorem forall_mem_lowerFrom {holds : Char → Prop} (sigma : holds 'σ') (final : holds 'ς')
    (single : ∀ c, ∀ lower ∈ lowerChar c, holds lower) (before text : List Char) :
    ∀ lower ∈ lowerFrom before text, holds lower := by
  induction text generalizing before with
  | nil => simp [lowerFrom]
  | cons c rest ih =>
      intro lower listed
      rw [lowerFrom, List.mem_append] at listed
      rcases listed with here | later
      · split at here
        · have either : lower = 'ς' ∨ lower = 'σ' := by
            split at here <;> simp_all
          rcases either with rfl | rfl
          · exact final
          · exact sigma
        · exact single c lower here
      · exact ih (c :: before) lower later

/-- A text in lower case has no capital letter of ASCII. -/
theorem isUpper_lowercase (text : String) :
    ∀ lower ∈ (lowercase text).toList, lower.isUpper = false := by
  rw [lowercase, String.toList_ofList]
  have sigma : 'σ'.isUpper = false := rfl
  have final : 'ς'.isUpper = false := rfl
  exact forall_mem_lowerFrom sigma final isUpper_lowerChar [] text.toList

end MarkupAudit.Text
