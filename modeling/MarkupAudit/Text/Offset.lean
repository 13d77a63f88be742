/-
# Offsets in bytes

A place in a text can be given by the number of bytes in front of it, where a character takes one
to four bytes. Not every offset is a place: one that lies inside a character, or beyond the end of
the text, is refused.
-/

import Mathlib.Data.String.Basic

namespace MarkupAudit.Text

open String (utf8Len utf8Len_nil utf8Len_cons utf8Len_append utf8ByteSize_ofList)

/-- Cut a text in two at an offset, if there is a place. -/
def cut? : Nat → List Char → Option (List Char × List Char)
  | 0, text => some ([], text)
  | _ + 1, [] => none
  | offset + 1, c :: rest =>
      if offset + 1 < c.utf8Size then none
      else (cut? (offset + 1 - c.utf8Size) rest).map fun parts => (c :: parts.1, parts.2)

/-- The part of a text from an offset on. -/
def sliceFrom? (start : Nat) (text : List Char) : Option (List Char) :=
  (cut? start text).map (·.2)

/-- The part of a text between two offsets. -/
def slice? (start stop : Nat) (text : List Char) : Option (List Char) := do
  let (front, _) ← cut? stop text
  sliceFrom? start front

/-- A text is cut at the end of any front part of it. -/
theorem cut?_append (front rest : List Char) :
    cut? (utf8Len front) (front ++ rest) = some (front, rest) := by
  induction front with
  | nil => rw [utf8Len_nil, List.nil_append, cut?]
  | cons c front ih =>
      have positive := c.utf8Size_pos
      obtain ⟨offset, width⟩ : ∃ offset, utf8Len (c :: front) = offset + 1 :=
        Nat.exists_eq_add_one.mpr (by rw [utf8Len_cons]; omega)
      have left : offset + 1 - c.utf8Size = utf8Len front := by
        rw [← width, utf8Len_cons, Nat.add_sub_cancel]
      rw [width, List.cons_append, cut?, left, ih, if_neg]
      · rfl
      · rw [← width, utf8Len_cons]
        omega

/-- Where a text is cut, the bytes in front are as many as the offset says. -/
theorem of_cut?_eq_some {offset : Nat} {text front rest : List Char}
    (cut : cut? offset text = some (front, rest)) :
    text = front ++ rest ∧ utf8Len front = offset := by
  induction text generalizing offset front with
  | nil =>
      cases offset with
      | zero =>
          cases cut
          exact ⟨rfl, rfl⟩
      | succ offset => simp [cut?] at cut
  | cons c text ih =>
      cases offset with
      | zero =>
          cases cut
          exact ⟨rfl, rfl⟩
      | succ offset =>
          rw [cut?] at cut
          split at cut
          · cases cut
          · obtain ⟨⟨chars, others⟩, inner, same⟩ := Option.map_eq_some_iff.mp cut
            cases same
            obtain ⟨rfl, width⟩ := ih inner
            refine ⟨rfl, ?_⟩
            show utf8Len (c :: chars) = offset + 1
            rw [utf8Len_cons]
            omega

/-- What follows a place that is not the first one is shorter. -/
theorem length_lt_of_sliceFrom? {start : Nat} {text rest : List Char} (positive : 0 < start)
    (sliced : sliceFrom? start text = some rest) : rest.length < text.length := by
  obtain ⟨⟨front, _⟩, cut, rfl⟩ := Option.map_eq_some_iff.mp sliced
  obtain ⟨rfl, width⟩ := of_cut?_eq_some cut
  cases front with
  | nil => exact absurd width (Nat.ne_of_lt positive)
  | cons c front =>
      dsimp only
      rw [List.length_append, List.length_cons]
      omega

/-- The rest of a text is as long as it is without what stands in front. -/
theorem length_le_of_sliceFrom? {start : Nat} {text rest : List Char}
    (sliced : sliceFrom? start text = some rest) : rest.length ≤ text.length := by
  obtain ⟨⟨front, _⟩, cut, rfl⟩ := Option.map_eq_some_iff.mp sliced
  obtain ⟨rfl, _⟩ := of_cut?_eq_some cut
  rw [List.length_append]
  exact Nat.le_add_left _ _

theorem sliceFrom?_append (front rest : List Char) :
    sliceFrom? (utf8Len front) (front ++ rest) = some rest := by
  rw [sliceFrom?, cut?_append]
  rfl

theorem slice?_append (front middle rest : List Char) :
    slice? (utf8Len front) (utf8Len front + utf8Len middle) (front ++ (middle ++ rest)) =
      some middle := by
  rw [slice?, ← utf8Len_append, ← List.append_assoc, cut?_append]
  exact sliceFrom?_append front middle

end MarkupAudit.Text
