/-
# Substitution in place

A template is filled by a loop that keeps no list of characters, but cuts slices out of the text at
offsets in bytes: it looks for the next percent sign, puts out what stands in front of it, measures
the digits behind it, reads their number as a word of sixty-four bits and goes on with the rest. A
slice that would cut a character in two stops the loop without a result.
-/

import MarkupAudit.Report.Template
import MarkupAudit.Text.Offset

namespace MarkupAudit.Template

open String (utf8Len)
open Text (slice? sliceFrom?)

/-- The offset of the first percent sign. -/
def percent? (text : List Char) : Option Nat :=
  if '%' ∈ text then some (utf8Len (text.takeWhile (· ≠ '%'))) else none

/-- A number with one more digit, if it fits into sixty-four bits. -/
def withDigit? (value : Nat) (c : Char) : Option Nat :=
  let next := value * 10 + (c.toNat - '0'.toNat)
  if next < Nat.pow 2 64 then some next else none

/-- The number that digits denote, if there are any and it fits into sixty-four bits. -/
def word? : List Char → Option Nat
  | [] => none
  | digits => digits.foldlM withDigit? 0

/-- The parameter with the number that digits denote, counted from one. -/
def param? (params : List String) (digits : List Char) : Option String :=
  match word? digits with
  | none | some 0 => none
  | some (place + 1) => params[place]?

/-- One round of the loop, for a percent sign at a given offset: what is put out, and the text that
is left. -/
def round? (params : List String) (offset : Nat) (text : List Char) :
    Option (List Char × List Char) := do
  let before ← slice? 0 offset text
  let after ← sliceFrom? (offset + 1) text
  let width := utf8Len after - utf8Len (after.dropWhile isDigit)
  let placeholder ← slice? offset (offset + 1 + width) text
  let digits ← slice? 0 width after
  let rest ← sliceFrom? width after
  match param? params digits with
  | some param => some (before ++ param.toList, rest)
  | none => some (before ++ placeholder, rest)

/-- Every round leaves less of the text. -/
theorem length_lt_of_round? {params : List String} {offset : Nat} {text out rest : List Char}
    (made : round? params offset text = some (out, rest)) : rest.length < text.length := by
  unfold round? at made
  simp only [Option.bind_eq_bind, Option.bind_eq_some_iff] at made
  obtain ⟨_, _, after, isAfter, _, _, _, _, left, isRest, made⟩ := made
  have shorter := Text.length_lt_of_sliceFrom? (Nat.succ_pos offset) isAfter
  have notLonger := Text.length_le_of_sliceFrom? isRest
  split at made <;> cases made <;> omega

/-- Fill a template, behind what has been put out already. -/
def substitute? (params : List String) (out text : List Char) : Option (List Char) :=
  match percent? text with
  | none => some (out ++ text)
  | some offset =>
      match _made : round? params offset text with
      | none => none
      | some (piece, rest) => substitute? params (out ++ piece) rest
termination_by text.length
decreasing_by exact length_lt_of_round? _made

end MarkupAudit.Template
