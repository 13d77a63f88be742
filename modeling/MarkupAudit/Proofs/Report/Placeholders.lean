/-
# Templates as pieces

A template is a row of characters that stand for themselves and of placeholders, which are a
percent sign with all the digits that follow it. Filling a template fills its pieces one by one, so
that what is put in for one of them can neither be taken for a placeholder nor join with a piece
beside it.
-/

import Mathlib.Data.List.Forall2
import Mathlib.Data.List.TakeWhile
import MarkupAudit.Report.Template

namespace MarkupAudit.Template

/-- A part of a template that is filled as a whole. -/
inductive Piece where
  /-- A character that stands for itself. -/
  | literal (c : Char)
  /-- A percent sign with digits, of which there may be none. -/
  | placeholder (digits : List Char)

/-- A text consists of some pieces. The digits of a placeholder go as far as they can. -/
inductive Decomposes : List Char → List Piece → Prop where
  | nil : Decomposes [] []
  | literal {c : Char} {rest : List Char} {pieces : List Piece} : c ≠ '%' →
      Decomposes rest pieces → Decomposes (c :: rest) (.literal c :: pieces)
  | placeholder {digits rest : List Char} {pieces : List Piece} :
      (∀ c ∈ digits, isDigit c = true) → (∀ c ∈ rest.head?, isDigit c = false) →
        Decomposes rest pieces →
          Decomposes ('%' :: (digits ++ rest)) (.placeholder digits :: pieces)

/-- The pieces of a text. -/
def pieces : List Char → List Piece
  | [] => []
  | c :: rest =>
      -- Digits are literal where they follow no percent sign, so that each of them is one piece.
      if c = '%' then
        let digits := rest.takeWhile isDigit
        .placeholder digits :: (pieces rest).drop digits.length
      else .literal c :: pieces rest

theorem pieces_literal {c : Char} (other : c ≠ '%') (rest : List Char) :
    pieces (c :: rest) = .literal c :: pieces rest := if_neg other

theorem drop_pieces (text : List Char) :
    (pieces text).drop (text.takeWhile isDigit).length = pieces (text.dropWhile isDigit) := by
  induction text with
  | nil => rfl
  | cons c rest ih =>
      by_cases digit : isDigit c = true
      · have other : c ≠ '%' := by
          rintro rfl
          exact absurd digit (by decide)
        rw [List.takeWhile_cons_of_pos digit, List.dropWhile_cons_of_pos digit,
          pieces_literal other]
        exact ih
      · rw [List.takeWhile_cons_of_neg digit, List.dropWhile_cons_of_neg digit]
        rfl

theorem pieces_percent (rest : List Char) :
    pieces ('%' :: rest) =
      .placeholder (rest.takeWhile isDigit) :: pieces (rest.dropWhile isDigit) := by
  rw [← drop_pieces]
  rfl

theorem isDigit_eq_false_of_mem_head? {text : List Char} :
    ∀ c ∈ (text.dropWhile isDigit).head?, isDigit c = false := by
  intro c first
  have stopped := List.head?_dropWhile_not isDigit text
  rwa [first] at stopped

theorem decomposes_pieces (text : List Char) : Decomposes text (pieces text) := by
  induction text using fill.induct with
  | case1 => exact .nil
  | case2 rest ih =>
      have digits : ∀ c ∈ rest.takeWhile isDigit, isDigit c = true :=
        fun _ => List.mem_takeWhile_imp
      have split := Decomposes.placeholder digits isDigit_eq_false_of_mem_head? ih
      rw [List.takeWhile_append_dropWhile] at split
      rwa [pieces_percent]
  | case3 c rest other ih =>
      rw [pieces_literal other]
      exact .literal other ih

/-- Digits up to the first other character are all that is taken. -/
theorem takeWhile_isDigit_append {digits rest : List Char} (all : ∀ c ∈ digits, isDigit c = true)
    (ended : ∀ c ∈ rest.head?, isDigit c = false) :
    (digits ++ rest).takeWhile isDigit = digits ∧ (digits ++ rest).dropWhile isDigit = rest := by
  rw [List.takeWhile_append_of_pos all, List.dropWhile_append_of_pos all]
  cases rest with
  | nil => exact ⟨List.append_nil digits, rfl⟩
  | cons c rest =>
      have other : ¬isDigit c = true := by simp [ended c rfl]
      rw [List.takeWhile_cons_of_neg other, List.dropWhile_cons_of_neg other, List.append_nil]
      exact ⟨rfl, rfl⟩

/-- A text consists of no other pieces. -/
theorem Decomposes.eq_pieces {text : List Char} {parts : List Piece}
    (decomposes : Decomposes text parts) : parts = pieces text := by
  induction decomposes with
  | nil => rfl
  | literal other _ ih => rw [pieces_literal other, ih]
  | placeholder all ended _ ih =>
      obtain ⟨taken, left⟩ := takeWhile_isDigit_append all ended
      rw [pieces_percent, taken, left, ih]

theorem placeholder_of_given {params : List String} {digits : List Char} {place : Nat}
    {param : String} (numbered : number digits = place + 1) (given : params[place]? = some param) :
    placeholder params digits = param.toList := by
  rw [placeholder, numbered]
  dsimp only
  rw [given]

/-- A placeholder stays if there is no parameter with its number. -/
theorem placeholder_of_missing {params : List String} {digits : List Char}
    (missing : number digits = 0 ∨ params.length < number digits) :
    placeholder params digits = '%' :: digits := by
  rw [placeholder]
  split
  case h_1 => rfl
  case h_2 place numbered => rw [List.getElem?_eq_none (by omega)]

/-- What is put in for a piece. -/
def Piece.filled (params : List String) : Piece → List Char
  | literal c => [c]
  | placeholder digits => Template.placeholder params digits

theorem fill_eq (params : List String) (text : List Char) :
    fill params text = (pieces text).flatMap (Piece.filled params) := by
  induction text using fill.induct with
  | case1 => rw [fill, pieces, List.flatMap_nil]
  | case2 rest ih => rw [fill, if_pos rfl, pieces_percent, List.flatMap_cons, ih, Piece.filled]
  | case3 c rest other ih =>
      rw [fill, if_neg other, pieces_literal other, List.flatMap_cons, ih, Piece.filled]
      rfl

theorem fill_placeholder {digits rest : List Char} (all : ∀ c ∈ digits, isDigit c = true)
    (ended : ∀ c ∈ rest.head?, isDigit c = false) (params : List String) :
    fill params ('%' :: (digits ++ rest)) = placeholder params digits ++ fill params rest := by
  obtain ⟨taken, left⟩ := takeWhile_isDigit_append all ended
  rw [fill, if_pos rfl, taken, left]

/-- What stands in front of the first percent sign stays. -/
theorem fill_append_of_notMem {lead : List Char} (literal : '%' ∉ lead) (params : List String)
    (text : List Char) : fill params (lead ++ text) = lead ++ fill params text := by
  induction lead with
  | nil => rfl
  | cons c lead ih =>
      obtain ⟨other, others⟩ := List.ne_and_not_mem_of_not_mem_cons literal
      rw [List.cons_append, fill, if_neg (Ne.symm other), ih others, List.cons_append]

theorem number_eq (digits : List Char) : number digits = Nat.ofDigitChars 10 digits 0 := by
  simp only [number, Nat.ofDigitChars, Nat.mul_comm]

theorem join_filled (template : String) (params : List String) :
    String.join ((pieces template.toList).map fun piece => String.ofList (piece.filled params)) =
      format template params := by
  rw [← String.toList_inj, format, String.toList_ofList, fill_eq, String.toList_join,
    List.flatMap_map]
  simp only [String.toList_ofList]

/-! ## Templates with a parameter for every placeholder -/

/-- A piece is shown by a text: a literal character by itself, and a placeholder by the parameter
with its number. -/
inductive Piece.Shows (params : List String) : Piece → String → Prop where
  | literal (c : Char) : Shows params (.literal c) (String.ofList [c])
  | param {digits : List Char} {place : Nat} {param : String} : number digits = place + 1 →
      params[place]? = some param → Shows params (.placeholder digits) param

/-- A message shows a template with some parameters: it consists of texts that show the pieces of
the template in turn. There is a parameter for every placeholder then. -/
def Shows (template : String) (params : List String) (message : String) : Prop :=
  ∃ pieces texts, Decomposes template.toList pieces ∧
    List.Forall₂ (Piece.Shows params) pieces texts ∧ message = String.join texts

/-- A placeholder, if the piece is one, has the number of one of so many parameters. -/
def Piece.isWithin (count : Nat) : Piece → Bool
  | literal _ => true
  | placeholder digits => 0 < number digits && number digits ≤ count

theorem Piece.shows_filled {params : List String} {piece : Piece}
    (within : piece.isWithin params.length = true) :
    piece.Shows params (String.ofList (piece.filled params)) := by
  cases piece with
  | literal c => exact .literal c
  | placeholder digits =>
      rw [isWithin, Bool.and_eq_true, decide_eq_true_eq, decide_eq_true_eq] at within
      obtain ⟨place, numbered⟩ := Nat.exists_eq_add_one.mpr within.1
      have given : place < params.length := by omega
      have known : params[place]? = some params[place] := List.getElem?_eq_getElem given
      rw [filled, placeholder_of_given numbered known, String.ofList_toList]
      exact .param numbered known

theorem shows_format {template : String} {params : List String}
    (within : (pieces template.toList).all (Piece.isWithin params.length) = true) :
    Shows template params (format template params) := by
  refine ⟨pieces template.toList, _, decomposes_pieces _, ?_, (join_filled template params).symm⟩
  rw [List.forall₂_map_right_iff, List.forall₂_same]
  exact fun piece listed => Piece.shows_filled (List.all_eq_true.mp within piece listed)

end MarkupAudit.Template
