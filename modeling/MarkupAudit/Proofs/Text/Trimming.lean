/-
# Trimming and lower case

A text can be trimmed before it is put into lower case or after that. White space stands for itself
in lower case and nothing else becomes white space, so the margins that are taken away are the
same. Only a sigma looks at what is around it, and there white space ends a word as the end of the
text does: it is not cased, and it is not passed over.
-/

import MarkupAudit.Proofs.Text.Idempotence
import MarkupAudit.Proofs.Text.Splitting
import MarkupAudit.Text.Basic

namespace MarkupAudit.Text

/-! ## White space in lower case -/

/-- The code points that are white space. -/
def blankCodes : List Nat :=
  [9, 10, 11, 12, 13, 0x20, 0x85, 0xa0, 0x1680, 0x2000, 0x2001, 0x2002, 0x2003, 0x2004, 0x2005,
    0x2006, 0x2007, 0x2008, 0x2009, 0x200a, 0x2028, 0x2029, 0x202f, 0x205f, 0x3000]

theorem isBlank_iff (c : Char) : isBlank c = true ↔ c.toNat ∈ blankCodes := by
  simp only [isBlank, blankCodes, Bool.or_eq_true, Bool.and_eq_true, decide_eq_true_eq, beq_iff_eq,
    List.mem_cons, List.not_mem_nil, or_false]
  omega

/-- No white space is in an interval. -/
def isVisible (span : Span) : Bool :=
  blankCodes.all fun code => Nat.blt code span.first || Nat.blt span.last code

theorem contains_eq_false {span : Span} (visible : isVisible span = true) {code : Nat}
    (blank : code ∈ blankCodes) : span.contains code = false := by
  have outside := List.all_eq_true.mp visible code blank
  rw [Bool.or_eq_true, Nat.blt_eq, Nat.blt_eq] at outside
  rw [Bool.eq_false_iff, Span.contains, Ne, Bool.and_eq_true, decide_eq_true_eq, decide_eq_true_eq]
  omega

/-- White space has no property of which a table has visible characters only. -/
theorem contains_ofTable_eq_false {rows : List String}
    (each : ∀ row ∈ rows, CodeSet.RowPasses isVisible row) {code : Nat}
    (blank : code ∈ blankCodes) : (CodeSet.ofTable rows).contains code = false := by
  rw [CodeSet.contains, List.any_eq_false]
  intro span listed
  rw [contains_eq_false (CodeSet.passes_of_rows each span listed) blank]
  exact Bool.false_ne_true

theorem isVisible_casedTable : ∀ row ∈ casedTable, CodeSet.RowPasses isVisible row := by
  unfold casedTable
  repeat refine List.forall_mem_cons.mpr ⟨⟨_, rfl, by decide +kernel⟩, ?_⟩
  exact List.forall_mem_nil _

theorem isVisible_caseIgnorableTable :
    ∀ row ∈ caseIgnorableTable, CodeSet.RowPasses isVisible row := by
  unfold caseIgnorableTable
  repeat refine List.forall_mem_cons.mpr ⟨⟨_, rfl, by decide +kernel⟩, ?_⟩
  exact List.forall_mem_nil _

/-- A character that stands for itself in lower case, and ends a word beside a sigma. -/
structure EndsWord (c : Char) : Prop where
  isLowercase : IsLowercase c
  isCased_eq : isCased c = false
  isCaseIgnorable_eq : isCaseIgnorable c = false

theorem endsWord_of_isBlank {c : Char} (blank : isBlank c = true) : EndsWord c := by
  have code := (isBlank_iff c).mp blank
  have each : ∀ code ∈ blankCodes, Char.ofNat code ≠ 'Σ' ∧
      lowerChar (Char.ofNat code) = [Char.ofNat code] ∧ (Char.ofNat code).isAlpha = false := by
    decide +kernel
  obtain ⟨sigma, lower, letter⟩ := each c.toNat code
  rw [Char.ofNat_toNat] at sigma lower letter
  refine ⟨⟨sigma, lower⟩, ?_, contains_ofTable_eq_false isVisible_caseIgnorableTable code⟩
  rw [isCased, letter, contains_ofTable_eq_false isVisible_casedTable code, ite_self]

/-- No run of the table maps to white space. -/
theorem blankCodes_caseRuns : ∀ run ∈ caseRuns, ∀ code ∈ blankCodes,
    code < run.target ∨ run.target + (run.last - run.first) < code := by
  decide +kernel

theorem lowerCode_notMem_blankCodes {code : Nat} (visible : code ∉ blankCodes) :
    lowerCode code ∉ blankCodes := by
  rcases lowerCode_cases code with same | ⟨run, listed, covered, lower⟩
  · rwa [same]
  · intro blank
    have place := (run.covers_iff code).mp covered
    have apart := blankCodes_caseRuns run listed _ blank
    rw [lower, CaseRun.lower] at apart
    omega

/-- What is not white space does not become white space. -/
theorem isBlank_lowerChar {c : Char} (visible : isBlank c = false) :
    ∀ lower ∈ lowerChar c, isBlank lower = false := by
  intro lower listed
  unfold lowerChar at listed
  split at listed
  · rename_i ascii
    have small : ∀ code < 0x80, isBlank (Char.ofNat code) = false →
        isBlank (Char.ofNat code).toLower = false := by decide +kernel
    have here := small c.toNat ascii
    rw [Char.ofNat_toNat] at here
    rw [List.mem_singleton.mp listed]
    exact here visible
  · split at listed
    · rcases List.mem_cons.mp listed with rfl | dot
      · rfl
      · rw [List.mem_singleton.mp dot]
        decide
    · rw [List.mem_singleton.mp listed]
      have valid : (lowerCode c.toNat).isValidChar := isValidChar_lowerCode c.valid
      rw [Bool.eq_false_iff, Ne, isBlank_iff] at visible ⊢
      rw [Char.toNat_ofNat, if_pos valid]
      exact lowerCode_notMem_blankCodes visible

/-- What a character becomes between others, of which those before it are read backwards. -/
def lowerAt (before : List Char) (c : Char) (after : List Char) : List Char :=
  if c = 'Σ' then [if isFinal before after then 'ς' else 'σ'] else lowerChar c

theorem lowerFrom_cons (before : List Char) (c : Char) (rest : List Char) :
    lowerFrom before (c :: rest) = lowerAt before c rest ++ lowerFrom (c :: before) rest := rfl

theorem isBlank_lowerAt {c : Char} (visible : isBlank c = false) (before after : List Char) :
    ∀ lower ∈ lowerAt before c after, isBlank lower = false := by
  unfold lowerAt
  split
  · split <;> simp [isBlank]
  · exact isBlank_lowerChar visible

theorem lowerAt_ne_nil (before : List Char) (c : Char) (after : List Char) :
    lowerAt before c after ≠ [] := by
  unfold lowerAt lowerChar
  split
  · simp
  · split
    · simp
    · split <;> simp

/-! ## Margins of white space -/

section Margins

variable {before lead text trail : List Char}

/-- White space ends a word. -/
theorem meetsCased_append (blank : ∀ c ∈ trail, isBlank c = true) (text : List Char) :
    meetsCased (text ++ trail) = meetsCased text := by
  induction text with
  | nil =>
      cases trail with
      | nil => rfl
      | cons c rest =>
          have ends := endsWord_of_isBlank (blank c List.mem_cons_self)
          simp [meetsCased, ends.isCaseIgnorable_eq, ends.isCased_eq]
  | cons c rest ih =>
      unfold meetsCased at ih ⊢
      rw [List.cons_append, List.dropWhile_cons, List.dropWhile_cons]
      by_cases passed : isCaseIgnorable c = true
      · rw [if_pos passed, if_pos passed]
        exact ih
      · rw [if_neg passed, if_neg passed]

/-- Margins stay, and make no difference to what is between them. -/
theorem lowerFrom_append_margins (leadBlank : ∀ c ∈ lead, isBlank c = true)
    (trailBlank : ∀ c ∈ trail, isBlank c = true) (before : List Char) :
    lowerFrom (before ++ lead) (text ++ trail) = lowerFrom before text ++ trail := by
  induction text generalizing before with
  | nil =>
      exact lowerFrom_of_isLowercase _ fun c listed =>
        (endsWord_of_isBlank (trailBlank c listed)).isLowercase
  | cons c rest ih =>
      have between : isFinal (before ++ lead) (rest ++ trail) = isFinal before rest := by
        rw [isFinal, isFinal, meetsCased_append leadBlank, meetsCased_append trailBlank]
      rw [List.cons_append, lowerFrom_cons, lowerFrom_cons, List.append_assoc, ← ih, lowerAt,
        lowerAt, between, List.cons_append]

theorem lowerFrom_append_of_isLowercase (small : ∀ c ∈ lead, IsLowercase c) (before : List Char) :
    lowerFrom before (lead ++ text) = lead ++ lowerFrom (lead.reverse ++ before) text := by
  induction lead generalizing before with
  | nil => rfl
  | cons c rest ih =>
      obtain ⟨here, later⟩ := List.forall_mem_cons.mp small
      rw [List.cons_append, lowerFrom_cons, lowerAt, if_neg here.ne_sigma, here.lowerChar_eq,
        ih later, List.reverse_cons, List.append_assoc, List.singleton_append, List.cons_append,
        List.singleton_append]

/-- A text with margins in lower case. -/
theorem lowerFrom_margins (leadBlank : ∀ c ∈ lead, isBlank c = true)
    (trailBlank : ∀ c ∈ trail, isBlank c = true) :
    lowerFrom [] (lead ++ (text ++ trail)) = lead ++ (lowerFrom [] text ++ trail) := by
  have reversed : ∀ c ∈ lead.reverse, isBlank c = true := fun c listed =>
    leadBlank c (List.mem_reverse.mp listed)
  rw [lowerFrom_append_of_isLowercase fun c listed =>
      (endsWord_of_isBlank (leadBlank c listed)).isLowercase,
    List.append_nil, ← List.nil_append lead.reverse, lowerFrom_append_margins reversed trailBlank]

end Margins

/-! ## Trimmed texts -/

/-- There is no white space at either end. -/
structure IsTrimmed (text : List Char) : Prop where
  head : ∀ c ∈ text.head?, isBlank c = false
  last : ∀ c ∈ text.getLast?, isBlank c = false

theorem dropWhile_isBlank_eq_self {text : List Char} (head : ∀ c ∈ text.head?, isBlank c = false) :
    text.dropWhile isBlank = text := by
  cases text with
  | nil => rfl
  | cons c rest => exact List.dropWhile_cons_of_neg (by simp [head c rfl])

theorem head?_dropWhile_isBlank (text : List Char) :
    ∀ c ∈ (text.dropWhile isBlank).head?, isBlank c = false := by
  intro c first
  have dropped := List.head?_dropWhile_not isBlank text
  rw [Option.mem_def] at first
  rw [first] at dropped
  exact dropped

/-- Trimming takes the margins off. -/
theorem trimChars_margins {lead text trail : List Char} (leadBlank : ∀ c ∈ lead, isBlank c = true)
    (trailBlank : ∀ c ∈ trail, isBlank c = true) (trimmed : IsTrimmed text) :
    trimChars (lead ++ (text ++ trail)) = text := by
  have reversedBlank : ∀ c ∈ trail.reverse, isBlank c = true := fun c listed =>
    trailBlank c (List.mem_reverse.mp listed)
  have reversedHead : ∀ c ∈ text.reverse.head?, isBlank c = false := by
    rw [List.head?_reverse]
    exact trimmed.last
  rw [trimChars, List.dropWhile_append_of_pos leadBlank]
  cases text with
  | nil =>
      rw [List.nil_append, List.dropWhile_eq_nil_iff.mpr trailBlank]
      rfl
  | cons c rest =>
      have first : (c :: rest ++ trail).dropWhile isBlank = c :: rest ++ trail :=
        dropWhile_isBlank_eq_self fun other isFirst => trimmed.head other isFirst
      rw [first, List.reverse_append, List.dropWhile_append_of_pos reversedBlank,
        dropWhile_isBlank_eq_self reversedHead, List.reverse_reverse]

/-- Every text is a trimmed one with margins. -/
theorem exists_margins (text : List Char) : ∃ lead trail, text = lead ++ (trimChars text ++ trail) ∧
    (∀ c ∈ lead, isBlank c = true) ∧ (∀ c ∈ trail, isBlank c = true) ∧
      IsTrimmed (trimChars text) := by
  let kept := text.dropWhile isBlank
  have blank (chars : List Char) : ∀ c ∈ chars.takeWhile isBlank, isBlank c = true :=
    List.all_eq_true.mp List.all_takeWhile
  have ended : kept = trimChars text ++ (kept.reverse.takeWhile isBlank).reverse := by
    rw [trimChars, ← List.reverse_append, List.takeWhile_append_dropWhile, List.reverse_reverse]
  refine ⟨text.takeWhile isBlank, (kept.reverse.takeWhile isBlank).reverse, ?_, blank text,
    fun c listed => blank kept.reverse c (List.mem_reverse.mp listed), ?head, ?last⟩
  · rw [← ended, List.takeWhile_append_dropWhile]
  case head =>
    -- What is kept at the end begins as what is kept in front.
    intro c first
    refine head?_dropWhile_isBlank text c ?_
    rw [Option.mem_def] at first ⊢
    show kept.head? = some c
    rw [ended, List.head?_append, first, Option.some_or]
  case last =>
    intro c last
    rw [trimChars, List.getLast?_reverse] at last
    exact head?_dropWhile_isBlank _ c last

/-- A trimmed text is trimmed in lower case. -/
theorem isTrimmed_lowerFrom {text : List Char} (trimmed : IsTrimmed text) (before : List Char) :
    IsTrimmed (lowerFrom before text) := by
  constructor
  case head =>
    cases text with
    | nil => exact fun _ none => nomatch none
    | cons c rest =>
        intro lower first
        rw [lowerFrom_cons, List.head?_append_of_ne_nil _ (lowerAt_ne_nil _ _ _)] at first
        exact isBlank_lowerAt (trimmed.head c rfl) before rest lower (List.mem_of_mem_head? first)
  case last =>
    have last := trimmed.last
    clear trimmed
    induction text generalizing before with
    | nil => exact fun _ none => nomatch none
    | cons c rest ih =>
        intro lower isLast
        rw [lowerFrom_cons] at isLast
        cases rest with
        | nil =>
            rw [lowerFrom, List.append_nil] at isLast
            exact isBlank_lowerAt (last c rfl) before [] lower (List.mem_of_mem_getLast? isLast)
        | cons next rest =>
            have filled : lowerFrom (c :: before) (next :: rest) ≠ [] := by
              rw [lowerFrom_cons]
              exact List.append_ne_nil_of_left_ne_nil (lowerAt_ne_nil _ _ _) _
            rw [List.getLast?_append_of_ne_nil _ filled] at isLast
            exact ih (c :: before) last lower isLast

/-! ## Either order -/

/-- A text and its lower-case form have the same margins, and between them is the trimmed text and
what it is in lower case. -/
theorem lowercase_margins (text : String) : ∃ lead trail : List Char,
    (∀ c ∈ lead, isBlank c = true) ∧ (∀ c ∈ trail, isBlank c = true) ∧
      text.toList = lead ++ ((trim text).toList ++ trail) ∧
      (lowercase text).toList = lead ++ ((lowercase (trim text)).toList ++ trail) ∧
      trim (lowercase text) = lowercase (trim text) := by
  obtain ⟨lead, trail, written, leadBlank, trailBlank, trimmed⟩ := exists_margins text.toList
  have lowered : (lowercase text).toList = lead ++ ((lowercase (trim text)).toList ++ trail) := by
    rw [lowercase, lowercase, trim, String.toList_ofList, String.toList_ofList,
      String.toList_ofList, ← lowerFrom_margins leadBlank trailBlank, ← written]
  refine ⟨lead, trail, leadBlank, trailBlank, ?_, lowered, ?_⟩
  · rw [trim, String.toList_ofList]
    exact written
  · have inside : IsTrimmed (lowercase (trim text)).toList := by
      rw [lowercase, trim, String.toList_ofList, String.toList_ofList]
      exact isTrimmed_lowerFrom trimmed []
    rw [trim, lowered, trimChars_margins leadBlank trailBlank inside, String.ofList_toList]

/-- Trimming and lower case can change places. -/
theorem trim_lowercase (text : String) : trim (lowercase text) = lowercase (trim text) := by
  obtain ⟨_, _, _, _, _, _, same⟩ := lowercase_margins text
  exact same

theorem trim_trim (text : String) : trim (trim text) = trim text := by
  obtain ⟨_, _, _, _, _, trimmed⟩ := exists_margins text.toList
  have kept := trimChars_margins (fun c (none : c ∈ []) => nomatch none)
    (fun c (none : c ∈ []) => nomatch none) trimmed
  rw [List.nil_append, List.append_nil] at kept
  rw [trim, trim, String.toList_ofList, kept]

/-- A text is trimmed in lower case exactly if it is trimmed. -/
theorem trim_lowercase_eq_self_iff (text : String) :
    trim (lowercase text) = lowercase text ↔ trim text = text := by
  obtain ⟨lead, trail, _, _, written, lowered, same⟩ := lowercase_margins text
  have noMargins (inner : String) (outer : String)
      (spread : outer.toList = lead ++ (inner.toList ++ trail)) :
      inner = outer ↔ lead = [] ∧ trail = [] := by
    rw [← String.toList_inj, spread]
    constructor
    · intro equal
      have lengths := congrArg List.length equal
      rw [List.length_append, List.length_append] at lengths
      exact ⟨List.eq_nil_of_length_eq_zero (by omega), List.eq_nil_of_length_eq_zero (by omega)⟩
    · rintro ⟨rfl, rfl⟩
      rw [List.nil_append, List.append_nil]
  rw [same, noMargins _ _ lowered, noMargins _ _ written]

/-- Lower case leaves something of every text that is not empty. -/
theorem lowercase_eq_empty_iff (text : String) : lowercase text = "" ↔ text = "" := by
  rw [lowercase, String.ofList_eq_empty_iff]
  constructor
  · intro nothing
    cases written : text.toList with
    | nil => rw [← String.ofList_toList (s := text), written]
    | cons c rest =>
        rw [written, lowerFrom_cons] at nothing
        exact absurd (List.append_eq_nil_iff.mp nothing).1 (lowerAt_ne_nil _ _ _)
  · rintro rfl
    rfl

end MarkupAudit.Text
