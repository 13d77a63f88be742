/-
# Tables as lists of characters

The tables of code points are kept as rows of text, which are split at blanks and at hyphens.
Splitting a text at a character is splitting the list of its characters, so what is in a table can
be computed from the characters of its rows, and a fact about a whole table is checked row by row.
-/

import Mathlib.Data.String.Basic
import MarkupAudit.Text.CodeSet

namespace MarkupAudit.Text

open String in
/-- Splitting at a character goes on from any place, with the characters since the last cut in
hand. -/
theorem splitOnAux_ofList (separator : Char) (before held rest : List Char) (parts : List String) :
    splitOnAux (ofList (before ++ held ++ rest)) (ofList [separator]) ⟨utf8Len before⟩
        ⟨utf8Len before + utf8Len held⟩ 0 parts =
      parts.reverse ++ (List.splitOnPPrepend (· == separator) rest held.reverse).map ofList := by
  have first : Pos.Raw.get (ofList [separator]) 0 = separator := by
    simpa using get_of_valid [] [separator]
  have second : Pos.Raw.next (ofList [separator]) 0 = ⟨separator.utf8Size⟩ := by
    simpa using next_of_valid [] separator []
  have single : utf8Len [separator] ≤ separator.utf8Size := by simp
  unfold splitOnAux
  simp only [List.append_assoc, atEnd_iff, rawEndPos_ofList, utf8Len_append, Pos.Raw.mk_le_mk,
    Nat.add_le_add_iff_left, utf8Len_eq_zero, first, second, if_pos single,
    (by omega : utf8Len held + utf8Len rest ≤ utf8Len held ↔ utf8Len rest = 0)]
  split
  · subst rest
    simpa using extract_of_valid before held []
  · obtain ⟨c, rest, rfl⟩ := rest.exists_cons_of_ne_nil ‹_›
    have here := get_of_valid (before ++ held) (c :: rest)
    have next := next_of_valid (before ++ held) c rest
    have part := extract_of_valid before held (c :: rest)
    have stays : (⟨utf8Len before + utf8Len held⟩ : Pos.Raw).unoffsetBy 0 =
      ⟨utf8Len before + utf8Len held⟩ := rfl
    simp only [List.append_assoc, utf8Len_append, List.headD_cons] at here next part
    rw [here, stays, next]
    split <;> rename_i same
    · rw [beq_iff_eq] at same
      subst same
      -- The separator is one character, so the part ends where it began.
      have back : (⟨utf8Len before + utf8Len held + c.utf8Size⟩ : Pos.Raw).unoffsetBy
          ⟨c.utf8Size⟩ = ⟨utf8Len before + utf8Len held⟩ := by
        simp [Pos.Raw.unoffsetBy]
      have later := splitOnAux_ofList c (before ++ held ++ [c]) [] rest (ofList held :: parts)
      rw [back, part]
      simpa [Nat.add_assoc, List.splitOnPPrepend_cons_eq_if, -ofList_append, -ofList_cons]
        using later
    · have later := splitOnAux_ofList separator before (held ++ [c]) rest parts
      simpa [Nat.add_assoc, List.splitOnPPrepend_cons_eq_if, same, -ofList_append, -ofList_cons]
        using later
termination_by rest.length

/-- Splitting a text at a character is splitting its characters. -/
theorem splitOn_ofList (chars : List Char) (separator : Char) :
    (String.ofList chars).splitOn (String.ofList [separator]) =
      (chars.splitOnP (· == separator)).map String.ofList := by
  have filled : (String.ofList [separator] == "") = false := by simp
  have all := splitOnAux_ofList separator [] [] chars []
  rw [String.splitOn, filled, if_neg Bool.false_ne_true]
  simpa using all

namespace CodeSet

/-- The interval or the code point that some characters write. -/
def spanOf (entry : List Char) : Span :=
  match entry.splitOnP (· == '-') with
  | [first, last] => ⟨hexNumber first, hexNumber last⟩
  | _ => ⟨hexNumber entry, hexNumber entry⟩

theorem entrySpan_ofList (entry : List Char) : entrySpan (String.ofList entry) = spanOf entry := by
  rw [entrySpan, spanOf, show "-" = String.ofList ['-'] from rfl, splitOn_ofList]
  generalize entry.splitOnP (· == '-') = parts
  match parts with
  | [] | [_] | _ :: _ :: _ :: _ => simp
  | [first, last] => simp

/-- The row of a table is written with some characters, and all of its intervals pass a test. -/
def RowPasses (test : Span → Bool) (row : String) : Prop :=
  ∃ chars, row = String.ofList chars ∧
    ((chars.splitOnP (· == ' ')).all fun entry => test (spanOf entry)) = true

/-- If all rows pass a test, so does every interval of the set. -/
theorem passes_of_rows {test : Span → Bool} {rows : List String}
    (each : ∀ row ∈ rows, RowPasses test row) :
    ∀ span ∈ (ofTable rows).spans, test span = true := by
  intro span listed
  obtain ⟨row, isRow, found⟩ := List.mem_flatMap.mp listed
  obtain ⟨chars, rfl, passes⟩ := each row isRow
  rw [show " " = String.ofList [' '] from rfl, splitOn_ofList, List.map_map] at found
  obtain ⟨entry, isEntry, rfl⟩ := List.mem_map.mp found
  rw [Function.comp_apply, entrySpan_ofList]
  exact List.all_eq_true.mp passes entry isEntry

end CodeSet

end MarkupAudit.Text
