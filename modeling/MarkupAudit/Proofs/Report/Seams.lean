/-
# Templates put together

The pieces of two templates, one behind the other, are the pieces of the first and then those of
the second, with one exception: digits at the beginning of the second belong to a placeholder with
which the first ends. So templates can be filled one by one, unless a placeholder lies across the
seam between them, and it is harmful there only if it has a number: with enough empty parameters it
vanishes as a whole, whereas its digits in the second template would stay.
-/

import MarkupAudit.Proofs.Json.Spelling
import MarkupAudit.Proofs.Report.Placeholders

namespace MarkupAudit.Template

/-- A text ends with a percent sign and digits, of which there may be none. -/
def EndsOpen (text : List Char) : Prop :=
  ∃ front digits, text = front ++ '%' :: digits ∧ ∀ c ∈ digits, isDigit c = true

def BeginsWithDigit (text : List Char) : Prop :=
  ∃ c ∈ text.head?, isDigit c = true

/-- A placeholder with some digits lies across the seam between two texts: not all of its digits
belong to the first one. -/
inductive Straddles : List Char → List Char → List Char → Prop where
  | intro {front left right back : List Char} : (∀ c ∈ left, isDigit c = true) →
      (∀ c ∈ right, isDigit c = true) → right ≠ [] → (∀ c ∈ back.head?, isDigit c = false) →
        Straddles (front ++ '%' :: left) (right ++ back) (left ++ right)

theorem EndsOpen.append {text : List Char} (ends : EndsOpen text) (front : List Char) :
    EndsOpen (front ++ text) := by
  obtain ⟨before, digits, rfl, all⟩ := ends
  exact ⟨front ++ before, digits, (List.append_assoc _ _ _).symm, all⟩

/-- There is only one way for a placeholder to lie across a seam. -/
theorem exists_straddles_iff {first second : List Char} :
    (∃ digits, Straddles first second digits) ↔ EndsOpen first ∧ BeginsWithDigit second := by
  constructor
  · rintro ⟨_, @⟨front, left, right, back, allLeft, allRight, present, -⟩⟩
    refine ⟨⟨front, left, rfl, allLeft⟩, ?_⟩
    cases right with
    | nil => exact absurd rfl present
    | cons c right => exact ⟨c, rfl, allRight c List.mem_cons_self⟩
  · rintro ⟨⟨front, left, rfl, allLeft⟩, c, begins, digit⟩
    cases second with
    | nil => cases begins
    | cons d rest =>
        cases begins
        have all : ∀ e ∈ (c :: rest).takeWhile isDigit, isDigit e = true :=
          fun _ => List.mem_takeWhile_imp
        have present : (c :: rest).takeWhile isDigit ≠ [] := by
          rw [List.takeWhile_cons_of_pos digit]
          exact List.cons_ne_nil _ _
        refine ⟨left ++ (c :: rest).takeWhile isDigit, ?_⟩
        nth_rewrite 1 [← List.takeWhile_append_dropWhile (p := isDigit) (l := c :: rest)]
        exact .intro allLeft all present isDigit_eq_false_of_mem_head?

/-! ## Seams without a placeholder -/

/-- The pieces of two texts are those of the one and then those of the other. -/
theorem Decomposes.append {first second : List Char} {before after : List Piece}
    (decomposes : Decomposes first before) (follows : Decomposes second after)
    (clean : ¬(EndsOpen first ∧ BeginsWithDigit second)) :
    Decomposes (first ++ second) (before ++ after) := by
  induction decomposes with
  | nil => exact follows
  | @literal c rest pieces other _ ih =>
      exact .literal other (ih fun unclean => clean ⟨unclean.1.append [c], unclean.2⟩)
  | @placeholder digits rest pieces all ended _ ih =>
      rw [List.cons_append, List.cons_append, List.append_assoc]
      refine .placeholder all ?_
        (ih fun unclean => clean ⟨unclean.1.append ('%' :: digits), unclean.2⟩)
      cases rest with
      | cons c rest => exact ended
      | nil =>
          intro c begins
          by_contra digit
          exact clean ⟨⟨[], digits, by simp, all⟩, c, begins, by simpa using digit⟩

theorem fill_append {first second : List Char} (clean : ¬(EndsOpen first ∧ BeginsWithDigit second))
    (params : List String) :
    fill params (first ++ second) = fill params first ++ fill params second := by
  have pieces := (decomposes_pieces first).append (decomposes_pieces second) clean
  rw [fill_eq, ← pieces.eq_pieces, List.flatMap_append, ← fill_eq, ← fill_eq]

/-! ## Seams inside a placeholder -/

/-- For some parameters it matters whether digits belong to a placeholder or stand behind it, unless
it has no number anyway. -/
theorem placeholder_append_iff {left right : List Char} (present : right ≠ []) :
    (∀ params, placeholder params (left ++ right) = placeholder params left ++ right) ↔
      number (left ++ right) = 0 := by
  constructor
  · intro same
    by_contra numbered
    obtain ⟨place, isNumber⟩ := Nat.exists_eq_succ_of_ne_zero numbered
    -- All of the placeholder vanishes, the digits on the right do not.
    have nothing : placeholder (List.replicate (place + 1) "") (left ++ right) = [] := by
      rw [placeholder, isNumber]
      simp
    rw [same] at nothing
    exact present (List.append_eq_nil_iff.mp nothing).2
  · intro zero params
    have greater := Json.le_ofDigitChars right (number left)
    have whole : number (left ++ right) = Nat.ofDigitChars 10 right (number left) := by
      rw [number_eq, number_eq, Nat.ofDigitChars_append]
    have leftZero : number left = 0 := by omega
    rw [placeholder_of_missing (.inl zero), placeholder_of_missing (.inl leftZero), List.cons_append]

/-- Filling the two texts one by one is right if and only if it is right for the placeholder. -/
theorem fill_straddled_iff {left right back : List Char} (allLeft : ∀ c ∈ left, isDigit c = true)
    (allRight : ∀ c ∈ right, isDigit c = true) (ended : ∀ c ∈ back.head?, isDigit c = false)
    (front : List Char) (params : List String) :
    fill params ((front ++ '%' :: left) ++ (right ++ back)) =
        fill params (front ++ '%' :: left) ++ fill params (right ++ back) ↔
      placeholder params (left ++ right) = placeholder params left ++ right := by
  have all : ∀ c ∈ left ++ right, isDigit c = true :=
    fun c listed => (List.mem_append.mp listed).elim (allLeft c) (allRight c)
  have clean (text : List Char) : ¬(EndsOpen front ∧ BeginsWithDigit ('%' :: text)) := by
    rintro ⟨-, c, begins, digit⟩
    cases begins
    exact absurd digit (by decide)
  have literal : '%' ∉ right := fun listed => absurd (allRight _ listed) (by decide)
  have whole : (front ++ '%' :: left) ++ (right ++ back) =
      front ++ '%' :: ((left ++ right) ++ back) := by
    simp only [List.append_assoc, List.cons_append]
  have closing : fill params ('%' :: left) = placeholder params left := by
    have closed := @fill_placeholder left [] allLeft (by nofun) params
    rwa [List.append_nil, fill, List.append_nil] at closed
  rw [whole, fill_append (clean _), fill_append (clean _), closing, fill_placeholder all ended,
    fill_append_of_notMem literal, List.append_assoc, List.append_right_inj, ← List.append_assoc,
    List.append_left_inj]

theorem format_append_iff {first second : String} {params : List String} :
    format (first ++ second) params = format first params ++ format second params ↔
      fill params (first.toList ++ second.toList) =
        fill params first.toList ++ fill params second.toList := by
  rw [← String.toList_inj]
  simp only [format, String.toList_append, String.toList_ofList]

/-- Two templates can be filled one by one, unless the first ends with a percent sign and digits and
the second begins with a digit, which is where a placeholder lies across the seam. Filling them one
by one is right with all parameters if and only if such a placeholder has the number zero. -/
theorem format_append (first second : String) :
    (¬(EndsOpen first.toList ∧ BeginsWithDigit second.toList) → ∀ params,
        format (first ++ second) params = format first params ++ format second params) ∧
      ((∃ digits, Straddles first.toList second.toList digits) ↔
        EndsOpen first.toList ∧ BeginsWithDigit second.toList) ∧
      ((∀ params, format (first ++ second) params = format first params ++ format second params) ↔
        ∀ digits, Straddles first.toList second.toList digits →
          Nat.ofDigitChars 10 digits 0 = 0) := by
  simp only [format_append_iff]
  refine ⟨fill_append, exists_straddles_iff, ?_⟩
  generalize first.toList = before
  generalize second.toList = after
  constructor
  · rintro same _ @⟨front, left, right, back, allLeft, allRight, present, ended⟩
    rw [← number_eq, ← placeholder_append_iff present]
    exact fun params => (fill_straddled_iff allLeft allRight ended front params).mp (same params)
  · intro zero params
    by_cases straddled : ∃ digits, Straddles before after digits
    · obtain ⟨digits, straddles⟩ := straddled
      have isZero := zero digits straddles
      obtain @⟨front, left, right, back, allLeft, allRight, present, ended⟩ := straddles
      rw [← number_eq, ← placeholder_append_iff present] at isZero
      exact (fill_straddled_iff allLeft allRight ended front params).mpr (isZero params)
    · exact fill_append (straddled ∘ exists_straddles_iff.mpr) params

/-- Text that ends with a digit may follow a placeholder, and text that begins with one may not. -/
theorem format_append_line :
    ¬(EndsOpen "Tag %1".toList ∧ BeginsWithDigit " on line 2".toList) ∧
      format ("Tag %1" ++ " on line 2") ["p"] = format "Tag %1" ["p"] ++ format " on line 2" ["p"] ∧
      ¬∀ params, format ("Tag %1" ++ "2") params = format "Tag %1" params ++ format "2" params := by
  have clean : ¬(EndsOpen "Tag %1".toList ∧ BeginsWithDigit " on line 2".toList) := by
    rintro ⟨-, c, begins, digit⟩
    cases begins
    exact absurd digit (by decide)
  refine ⟨clean, (format_append _ _).1 clean ["p"], ?_⟩
  rw [(format_append _ _).2.2]
  intro zero
  have straddles : Straddles "Tag %1".toList "2".toList ['1', '2'] :=
    @Straddles.intro "Tag ".toList ['1'] ['2'] [] (List.forall_mem_singleton.mpr (by decide))
      (List.forall_mem_singleton.mpr (by decide)) (List.cons_ne_nil _ _) nofun
  exact absurd (zero _ straddles) (by decide)

end MarkupAudit.Template
