/-
# Lower case is final

A text in lower case stays as it is when it is put into lower case once more. The table maps into
none of its own runs, the dotted capital does not come out of it, and the two small sigmas are no
capitals, so every character that lower case brings about stands for itself, wherever it stands.

This is why a name can be compared in lower case without asking whether it has been put there.
-/

import MarkupAudit.Proofs.Text.Lowercase

namespace MarkupAudit.Text

/-! ## The table -/

/-- What a run maps to is beside another run: behind it, before it, or on its other steps. The
tests are those on which evaluation is quick, since every run is held against every other. -/
def CaseRun.misses (run other : CaseRun) : Bool :=
  Nat.blt other.last run.target || Nat.blt (run.target + (run.last - run.first)) other.first ||
    (Nat.beq other.stride 2 && (Nat.beq run.stride 2 || Nat.beq run.first run.last) &&
      !Nat.beq (run.target % 2) (other.first % 2))

theorem CaseRun.covers_iff (run : CaseRun) (code : Nat) :
    run.covers code = true ↔
      run.first ≤ code ∧ code ≤ run.last ∧ (code - run.first) % run.stride = 0 := by
  simp only [covers, Bool.and_eq_true, decide_eq_true_eq, beq_iff_eq, and_assoc]

theorem CaseRun.not_covers_lower {run other : CaseRun} (misses : run.misses other = true)
    {code : Nat} (covered : run.covers code = true) :
    ¬other.covers (run.lower code) = true := by
  obtain ⟨first, last, step⟩ := (run.covers_iff code).mp covered
  rw [covers_iff, lower]
  rintro ⟨firstOther, lastOther, stepOther⟩
  simp only [CaseRun.misses, Bool.or_eq_true, Bool.and_eq_true, Nat.blt_eq, Nat.beq_eq,
    Bool.not_eq_true', ← Bool.not_eq_true] at misses
  rcases misses with (behind | before) | ⟨⟨stride, spaced⟩, odd⟩
  · omega
  · omega
  · rw [stride] at stepOther
    rcases spaced with spaced | single
    · rw [spaced] at step
      omega
    · omega

/-- No run maps into a run. -/
theorem misses_caseRuns : (caseRuns.all fun run => caseRuns.all run.misses) = true := by
  decide +kernel

/-- The forms in the table are characters, and none of them is the dotted capital. -/
theorem target_caseRuns : ∀ run ∈ caseRuns,
    (run.target + (run.last - run.first) < 0xd800 ∨
      0xdfff < run.target ∧ run.target + (run.last - run.first) < 0x110000) ∧
    (run.target + (run.last - run.first) < 0x130 ∨ 0x130 < run.target) := by
  decide +kernel

/-- A code point has itself or a form from the table. -/
theorem lowerCode_cases (code : Nat) :
    lowerCode code = code ∨
      ∃ run ∈ caseRuns, run.covers code = true ∧ lowerCode code = run.lower code := by
  unfold lowerCode
  split
  · rename_i run found
    have covered := List.find?_some found
    exact .inr ⟨run, List.mem_of_find?_eq_some found, covered, rfl⟩
  · exact .inl rfl

/-- The lower-case form of a code point is its own lower-case form. -/
theorem lowerCode_lowerCode (code : Nat) : lowerCode (lowerCode code) = lowerCode code := by
  rcases lowerCode_cases code with same | ⟨run, listed, covered, lower⟩
  · rw [same, same]
  · have nothing : caseRuns.find? (·.covers (lowerCode code)) = none := by
      refine List.find?_eq_none.mpr fun other isRun => ?_
      rw [lower]
      have apart := List.all_eq_true.mp (List.all_eq_true.mp misses_caseRuns run listed)
      exact CaseRun.not_covers_lower (apart other isRun) covered
    rw [lowerCode, nothing]

theorem isValidChar_lowerCode {code : Nat} (valid : code.isValidChar) :
    (lowerCode code).isValidChar := by
  rcases lowerCode_cases code with same | ⟨run, listed, covered, lower⟩
  · rwa [same]
  · have place := (run.covers_iff code).mp covered
    have range := (target_caseRuns run listed).1
    rw [lower, CaseRun.lower]
    unfold Nat.isValidChar
    omega

theorem lowerCode_ne_dotted {code : Nat} (ne : code ≠ 0x130) : lowerCode code ≠ 0x130 := by
  rcases lowerCode_cases code with same | ⟨run, listed, covered, lower⟩
  · rwa [same]
  · have place := (run.covers_iff code).mp covered
    have apart := (target_caseRuns run listed).2
    rw [lower, CaseRun.lower]
    omega

/-! ## Characters and texts -/

/-- A character that stands for itself in lower case, wherever it stands. -/
structure IsLowercase (c : Char) : Prop where
  ne_sigma : c ≠ 'Σ'
  lowerChar_eq : lowerChar c = [c]

theorem isLowercase_of_ascii {c : Char} (ascii : c.toNat < 0x80) (small : c.isUpper = false) :
    IsLowercase c where
  ne_sigma := by
    rintro rfl
    contradiction
  lowerChar_eq := by
    have fixed : c.toLower = c := by
      unfold Char.isUpper at small
      unfold Char.toLower
      rw [dif_neg (of_decide_eq_false small)]
    rw [lowerChar, if_pos ascii, fixed]

theorem isLowercase_ofNat {code : Nat} (valid : code.isValidChar) (beyond : 0x80 ≤ code)
    (ne : code ≠ 0x130) (fixed : lowerCode code = code) : IsLowercase (Char.ofNat code) := by
  have same : (Char.ofNat code).toNat = code := by rw [Char.toNat_ofNat, if_pos valid]
  constructor
  case ne_sigma =>
    intro sigma
    rw [sigma] at same
    have moved : lowerCode 'Σ'.toNat ≠ 'Σ'.toNat := by decide +kernel
    rw [← same] at fixed
    exact moved fixed
  case lowerChar_eq =>
    rw [lowerChar, same, if_neg (Nat.not_lt.mpr beyond), if_neg (by simpa using ne), fixed]

theorem toNat_toLower_lt {c : Char} (ascii : c.toNat < 0x80) : c.toLower.toNat < 0x80 := by
  have small : ∀ code < 0x80, (Char.ofNat code).toLower.toNat < 0x80 := by decide +kernel
  have here := small c.toNat ascii
  rwa [Char.ofNat_toNat] at here

/-- What stands for a character in lower case is in lower case. -/
theorem isLowercase_lowerChar (c : Char) : ∀ lower ∈ lowerChar c, IsLowercase lower := by
  intro lower listed
  have small := isUpper_lowerChar c lower listed
  by_cases ascii : lower.toNat < 0x80
  · exact isLowercase_of_ascii ascii small
  · unfold lowerChar at listed
    split at listed
    · rename_i asciiBefore
      rw [List.mem_singleton] at listed
      rw [listed] at ascii
      exact absurd (toNat_toLower_lt asciiBefore) ascii
    · split at listed
      · rcases List.mem_cons.mp listed with rfl | dot
        · contradiction
        · rw [List.mem_singleton.mp dot]
          exact ⟨by decide, by decide +kernel⟩
      · rename_i plain
        rw [List.mem_singleton] at listed
        have valid : (lowerCode c.toNat).isValidChar := isValidChar_lowerCode c.valid
        have code : lower.toNat = lowerCode c.toNat := by
          rw [listed, Char.toNat_ofNat, if_pos valid]
        rw [code, Nat.not_lt] at ascii
        rw [listed]
        exact isLowercase_ofNat valid ascii (lowerCode_ne_dotted (by simpa using plain))
          (lowerCode_lowerCode _)

/-- A text in lower case consists of characters in lower case. -/
theorem isLowercase_lowercase (text : String) :
    ∀ lower ∈ (lowercase text).toList, IsLowercase lower := by
  have sigma : IsLowercase 'σ' := ⟨by decide, by decide +kernel⟩
  have final : IsLowercase 'ς' := ⟨by decide, by decide +kernel⟩
  rw [lowercase, String.toList_ofList]
  exact forall_mem_lowerFrom sigma final isLowercase_lowerChar [] text.toList

theorem lowerFrom_of_isLowercase (before : List Char) {text : List Char}
    (small : ∀ c ∈ text, IsLowercase c) : lowerFrom before text = text := by
  induction text generalizing before with
  | nil => rfl
  | cons c rest ih =>
      obtain ⟨here, later⟩ := List.forall_mem_cons.mp small
      rw [lowerFrom, if_neg here.ne_sigma, here.lowerChar_eq, ih _ later, List.singleton_append]

/-- Lower case a second time changes nothing. -/
theorem lowercase_lowercase (text : String) : lowercase (lowercase text) = lowercase text := by
  rw [lowercase, lowerFrom_of_isLowercase [] (isLowercase_lowercase text), String.ofList_toList]

end MarkupAudit.Text
