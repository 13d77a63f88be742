/-
# Reading on behind a parenthesis

A reader takes characters from the front of a text and leaves the rest. When the text is followed
by a closing parenthesis and by others, a reader may come to the same result as before, with the
same rest and what follows it. Then the parenthesis makes no difference. Or it may have used up the
text before it came to a result, and then it goes on behind the parenthesis.

There is one case in which it goes on behind the parenthesis and the text by itself has a result
too: the text ends in a remark, which goes on to the end of the line. As long as the line does not
end, the result is the same then.

All readers of patterns are of this kind, and what is made of such readers, one after the other, is
too.
-/

import Mathlib.Data.Option.Basic
import MarkupAudit.Pattern.Reader

namespace MarkupAudit.Pattern

open MarkupAudit.Text

/-- A reader takes characters from the front of a text and leaves the rest of it. -/
def Shrinks {α : Type} (read : List Char → Option (α × List Char)) : Prop :=
  ∀ ⦃text value rest⦄, read text = some (value, rest) → rest <:+ text

/-- A reader that leaves less than the whole text, and has nothing to read in the empty one. -/
def Consumes {α : Type} (read : List Char → Option (α × List Char)) : Prop :=
  ∀ ⦃text value rest⦄, read text = some (value, rest) → ∃ c left, text = c :: left ∧ rest <:+ left

/-- What a reader makes of a text that is followed by a closing parenthesis and others. Either it
is what the reader makes of the text alone, or the reader has used up the text and gone beyond the
parenthesis. It does so with the same result if the text ends in a remark that does not end with
it. -/
inductive Continues {α : Type} (lead : List Char) (read : List Char → Option (α × List Char))
    (text : List Char) : Prop where
  | kept : (∀ others, read (text ++ ')' :: others) =
      (read text).map fun found => (found.1, found.2 ++ ')' :: others)) →
        Continues lead read text
  | used : (∀ value rest, read text = some (value, rest) → rest = []) →
      (∀ others value rest, read (text ++ ')' :: others) = some (value, rest) →
        rest <:+ lead ++ others) →
      (∀ others result, '\n' ∉ others → read text = some result →
        read (text ++ ')' :: others) = some result) →
        Continues lead read text

section General

variable {α β : Type} {lead : List Char}

theorem Shrinks.eq_nil {read : List Char → Option (α × List Char)} (shrinks : Shrinks read)
    {value : α} {rest : List Char} (found : read [] = some (value, rest)) : rest = [] :=
  List.suffix_nil.mp (shrinks found)

theorem Shrinks.mapValue {γ : Type} {read : List Char → Option (α × List Char)}
    (shrinks : Shrinks read) (change : α → Option β) (make : β → γ) :
    Shrinks fun text => (read text).bind fun found =>
      (change found.1).bind fun value => some (make value, found.2) := by
  intro text value rest found
  obtain ⟨⟨before, between⟩, one, two⟩ := Option.bind_eq_some_iff.mp found
  obtain ⟨changed, _, same⟩ := Option.bind_eq_some_iff.mp two
  cases same
  exact shrinks one

theorem Shrinks.bind {first : List Char → Option (α × List Char)}
    {next : α → List Char → Option (β × List Char)} (shrinks : Shrinks first)
    (later : ∀ value, Shrinks (next value)) :
    Shrinks fun text => (first text).bind fun found => next found.1 found.2 := by
  intro text value rest found
  obtain ⟨⟨before, between⟩, one, two⟩ := Option.bind_eq_some_iff.mp found
  exact (later before two).trans (shrinks one)

/-- A text with an ending of at least one character begins with one, and ends with the rest. -/
theorem exists_cons_of_suffix {c : Char} {left text : List Char} (within : c :: left <:+ text) :
    ∃ d rest, text = d :: rest ∧ left <:+ rest := by
  obtain ⟨before, rfl⟩ := within
  cases before with
  | nil => exact ⟨c, left, rfl, List.suffix_rfl⟩
  | cons d before =>
      exact ⟨d, before ++ c :: left, rfl,
        (List.suffix_cons c left).trans (List.suffix_append before (c :: left))⟩

theorem Shrinks.bind_consumes {first : List Char → Option (α × List Char)}
    {next : α → List Char → Option (β × List Char)} (shrinks : Shrinks first)
    (consumes : ∀ value, Consumes (next value)) :
    Consumes fun text => (first text).bind fun found => next found.1 found.2 := by
  intro text value rest found
  obtain ⟨⟨before, between⟩, one, two⟩ := Option.bind_eq_some_iff.mp found
  obtain ⟨c, left, rfl, within⟩ := consumes before two
  obtain ⟨d, more, rfl, wider⟩ := exists_cons_of_suffix (shrinks one)
  exact ⟨d, more, rfl, within.trans wider⟩

namespace Consumes

variable {read : List Char → Option (α × List Char)}

theorem of_cons (nothing : read [] = none)
    (something : ∀ c left value rest, read (c :: left) = some (value, rest) → rest <:+ left) :
    Consumes read := by
  intro text value rest found
  cases text with
  | nil => rw [nothing] at found; cases found
  | cons c left => exact ⟨c, left, rfl, something c left value rest found⟩

theorem shrinks (consumes : Consumes read) : Shrinks read := by
  intro text value rest found
  obtain ⟨c, left, rfl, within⟩ := consumes found
  exact within.trans (List.suffix_cons c left)

theorem nil (consumes : Consumes read) : read [] = none := by
  cases found : read [] with
  | none => rfl
  | some result =>
      obtain ⟨c, left, same, _⟩ := consumes found
      cases same

theorem suffix (consumes : Consumes read) {c : Char} {left rest : List Char} {value : α}
    (found : read (c :: left) = some (value, rest)) : rest <:+ left := by
  obtain ⟨_, _, same, within⟩ := consumes found
  exact (List.cons.inj same).2 ▸ within

theorem length_lt (consumes : Consumes read) {text rest : List Char} {value : α}
    (found : read text = some (value, rest)) : rest.length < text.length := by
  obtain ⟨c, left, rfl, within⟩ := consumes found
  exact Nat.lt_succ_of_le within.length_le

theorem bind {first : List Char → Option (α × List Char)}
    {next : α → List Char → Option (β × List Char)} (consumes : Consumes first)
    (later : ∀ value, Shrinks (next value)) :
    Consumes fun text => (first text).bind fun found => next found.1 found.2 := by
  intro text value rest found
  obtain ⟨⟨before, between⟩, one, two⟩ := Option.bind_eq_some_iff.mp found
  obtain ⟨c, left, same, within⟩ := consumes one
  exact ⟨c, left, same, (later before two).trans within⟩

theorem mapValue {γ : Type} (consumes : Consumes read) (change : α → Option β) (make : β → γ) :
    Consumes fun text => (read text).bind fun found =>
      (change found.1).bind fun value => some (make value, found.2) := by
  intro text value rest found
  obtain ⟨⟨before, between⟩, one, two⟩ := Option.bind_eq_some_iff.mp found
  obtain ⟨changed, _, same⟩ := Option.bind_eq_some_iff.mp two
  cases same
  exact consumes one

end Consumes

namespace Continues

variable {read : List Char → Option (α × List Char)} {text : List Char}

/-- Without a result for the text alone, it is enough to look at what may come of a longer one. -/
theorem of_none (alone : read text = none)
    (beyond : ∀ others value rest, read (text ++ ')' :: others) = some (value, rest) →
      rest <:+ lead ++ others) : Continues lead read text :=
  .used (by simp [alone]) beyond (by simp [alone])

theorem weaken (continues : Continues [] read text) : Continues lead read text := by
  cases continues with
  | kept same => exact .kept same
  | used emptied beyond remark =>
      exact .used emptied (fun others value rest found =>
        (beyond others value rest found).trans (List.suffix_append lead others)) remark

/-- A reader that leaves a part of the text to another. -/
theorem congr {other : List Char → Option (α × List Char)} {part : List Char}
    (continues : Continues lead other part) (same : read text = other part)
    (sameLonger : ∀ others, read (text ++ ')' :: others) = other (part ++ ')' :: others)) :
    Continues lead read text := by
  cases continues with
  | kept kept => exact .kept (by simpa only [same, sameLonger] using kept)
  | used emptied beyond remark =>
      exact .used (by simpa only [same] using emptied) (by simpa only [sameLonger] using beyond)
        (by simpa only [same, sameLonger] using remark)

/-- A reader that takes a first character and leaves the rest to another. -/
theorem cons {other : List Char → Option (α × List Char)} {c : Char}
    (step : ∀ text, read (c :: text) = other text) (continues : Continues lead other text) :
    Continues lead read (c :: text) :=
  continues.congr (step text) fun others => step (text ++ ')' :: others)

/-- A reader that takes one character, or none, and leaves what follows. -/
theorem of_cons {c : Char} {value? : Option α}
    (step : ∀ rest, read (c :: rest) = value?.map fun value => (value, rest)) (rest : List Char) :
    Continues lead read (c :: rest) :=
  .kept fun others => by cases value? <;> simp [step]

/-- One reader after the other. -/
theorem bind {next : α → List Char → Option (β × List Char)} (continues : Continues [] read text)
    (later : ∀ value rest, read text = some (value, rest) → Continues lead (next value) rest)
    (shrinks : ∀ value, Shrinks (next value)) :
    Continues lead (fun text => (read text).bind fun found => next found.1 found.2) text := by
  cases continues with
  | kept same =>
      cases alone : read text with
      | none =>
          refine .kept fun others => ?_
          simp [same others, alone]
      | some found =>
          have longer (others : List Char) :
              ((read (text ++ ')' :: others)).bind fun found => next found.1 found.2) =
                next found.1 (found.2 ++ ')' :: others) := by
            rw [same others, alone]
            rfl
          cases later found.1 found.2 alone with
          | kept sameLater =>
              refine .kept fun others => ?_
              rw [longer others, alone]
              exact sameLater others
          | used emptied beyond remark =>
              refine .used ?_ ?_ ?_
              · simpa only [alone, Option.bind_some] using emptied
              · simpa only [longer] using beyond
              · simpa only [longer, alone, Option.bind_some] using remark
  | used emptied beyond remark =>
      refine .used ?_ ?_ ?_
      · intro value rest found
        obtain ⟨⟨before, between⟩, one, two⟩ := Option.bind_eq_some_iff.mp found
        obtain rfl := emptied before between one
        exact (shrinks before).eq_nil two
      · intro others value rest found
        obtain ⟨⟨before, between⟩, one, two⟩ := Option.bind_eq_some_iff.mp found
        have behind := (shrinks before two).trans (beyond others before between one)
        exact behind.trans (List.suffix_append lead others)
      · intro others result oneLine found
        obtain ⟨between, one, two⟩ := Option.bind_eq_some_iff.mp found
        exact Option.bind_eq_some_iff.mpr ⟨between, remark others between oneLine one, two⟩

/-- One reader after the other, where the first may leave the parenthesis and the other takes more
than nothing. -/
theorem bind_consumes {next : α → List Char → Option (β × List Char)}
    (continues : Continues [')'] read text)
    (later : ∀ value rest, read text = some (value, rest) → Continues [] (next value) rest)
    (consumes : ∀ value, Consumes (next value)) :
    Continues [] (fun text => (read text).bind fun found => next found.1 found.2) text := by
  cases continues with
  | kept same => exact Continues.bind (.kept same) later fun value => (consumes value).shrinks
  | used emptied beyond remark =>
      have alone : ((read text).bind fun found => next found.1 found.2) = none := by
        cases one : read text with
        | none => rfl
        | some found =>
            have nothing : found.2 = [] := emptied found.1 found.2 one
            rw [Option.bind_some, nothing, (consumes found.1).nil]
      refine .of_none alone fun others value rest found => ?_
      obtain ⟨⟨before, between⟩, one, two⟩ := Option.bind_eq_some_iff.mp found
      obtain ⟨c, left, rfl, within⟩ := consumes before two
      rcases List.suffix_cons_iff.mp (beyond others before _ one) with same | inside
      · obtain ⟨rfl, rfl⟩ : c = ')' ∧ left = others := by simpa using same
        exact within
      · exact (within.trans (List.suffix_cons c left)).trans inside

/-- A change of what has been read, which may refuse it. -/
theorem mapValue {γ : Type} (change : α → Option β) (make : β → γ)
    (continues : Continues lead read text) :
    Continues lead (fun text => (read text).bind fun found =>
      (change found.1).bind fun value => some (make value, found.2)) text := by
  have unchanged {text : List Char} {value : γ} {rest : List Char}
      (found : ((read text).bind fun found =>
        (change found.1).bind fun value => some (make value, found.2)) = some (value, rest)) :
      ∃ before, read text = some (before, rest) := by
    obtain ⟨⟨before, between⟩, one, two⟩ := Option.bind_eq_some_iff.mp found
    obtain ⟨changed, _, same⟩ := Option.bind_eq_some_iff.mp two
    cases same
    exact ⟨before, one⟩
  cases continues with
  | kept same =>
      refine .kept fun others => ?_
      rw [same others]
      cases read text with
      | none => rfl
      | some found =>
          simp only [Option.map_some, Option.bind_some]
          cases change found.1 <;> rfl
  | used emptied beyond remark =>
      refine .used ?_ ?_ ?_
      · intro value rest found
        obtain ⟨before, one⟩ := unchanged found
        exact emptied before rest one
      · intro others value rest found
        obtain ⟨before, one⟩ := unchanged found
        exact beyond others before rest one
      · intro others result oneLine found
        obtain ⟨between, one, two⟩ := Option.bind_eq_some_iff.mp found
        exact Option.bind_eq_some_iff.mpr ⟨between, remark others between oneLine one, two⟩

end Continues

end General

/-! ## Blanks and remarks -/

theorem skipRemarks_suffix (inRemark : Bool) (text : List Char) :
    skipRemarks inRemark text <:+ text := by
  fun_induction skipRemarks inRemark text with
  | case1 => exact List.suffix_rfl
  | case2 c rest ih => exact ih.trans (List.suffix_cons c rest)
  | case3 c rest blank ih => exact ih.trans (List.suffix_cons c rest)
  | case4 c rest blank start ih => exact ih.trans (List.suffix_cons c rest)
  | case5 c rest => exact List.suffix_rfl

theorem skip_suffix (settings : Settings) (text : List Char) : settings.skip text <:+ text := by
  unfold Settings.skip
  split
  · exact skipRemarks_suffix false text
  · exact List.suffix_rfl

/-- A remark goes on to the end of the line. -/
theorem skipRemarks_true_eq_nil {text : List Char} (oneLine : '\n' ∉ text) :
    skipRemarks true text = [] := by
  induction text with
  | nil => rfl
  | cons c rest ih =>
      rw [List.mem_cons, not_or] at oneLine
      have goesOn : (c != '\n') = true := bne_iff_ne.mpr (Ne.symm oneLine.1)
      rw [skipRemarks, goesOn, ih oneLine.2]

theorem isBlank_close : isBlank ')' = false := by decide

/-- Blanks and remarks end before a closing parenthesis, unless a remark goes on behind it. -/
theorem skipRemarks_append (inRemark : Bool) (text : List Char) :
    (∀ others, skipRemarks inRemark (text ++ ')' :: others) =
        skipRemarks inRemark text ++ ')' :: others) ∨
      skipRemarks inRemark text = [] ∧
        (∀ others, skipRemarks inRemark (text ++ ')' :: others) <:+ others) ∧
          ∀ others, '\n' ∉ others → skipRemarks inRemark (text ++ ')' :: others) = [] := by
  fun_induction skipRemarks inRemark text with
  | case1 inRemark =>
      cases inRemark with
      | false =>
          left
          intro others
          rw [List.nil_append, skipRemarks, isBlank_close]
          rfl
      | true =>
          right
          refine ⟨rfl, fun others => ?_, fun others oneLine => ?_⟩
          · exact skipRemarks_suffix true others
          · have sameLine : '\n' ∉ ')' :: others := by simpa using oneLine
            exact skipRemarks_true_eq_nil sameLine
  | case2 c rest ih =>
      simpa only [List.cons_append, skipRemarks] using ih
  | case3 c rest blank ih =>
      simpa only [List.cons_append, skipRemarks, blank, if_true] using ih
  | case4 c rest visible start ih =>
      simpa only [List.cons_append, skipRemarks, visible, start, if_true, if_false,
        Bool.false_eq_true] using ih
  | case5 c rest visible plain =>
      left
      intro others
      rw [List.cons_append, skipRemarks, if_neg visible, if_neg plain]

theorem skipRemarks_skipRemarks (inRemark : Bool) (text : List Char) :
    skipRemarks false (skipRemarks inRemark text) = skipRemarks inRemark text := by
  fun_induction skipRemarks inRemark text with
  | case1 => rfl
  | case2 c rest ih => exact ih
  | case3 c rest blank ih => exact ih
  | case4 c rest visible start ih => exact ih
  | case5 c rest visible plain => rw [skipRemarks, if_neg visible, if_neg plain]

theorem skip_skip (settings : Settings) (text : List Char) :
    settings.skip (settings.skip text) = settings.skip text := by
  unfold Settings.skip
  split
  · exact skipRemarks_skipRemarks false text
  · rfl

/-- A character that is not passed over. -/
def Settings.Counts (settings : Settings) (c : Char) : Prop :=
  settings.verbose = true → isBlank c = false ∧ c ≠ '#'

theorem skip_cons {settings : Settings} {c : Char} (counts : settings.Counts c)
    (rest : List Char) : settings.skip (c :: rest) = c :: rest := by
  unfold Settings.skip
  split
  · rename_i verbose
    obtain ⟨visible, plain⟩ := counts verbose
    rw [skipRemarks, if_neg (by simp [visible]), if_neg (by simpa using plain)]
  · rfl

theorem counts_of_skip {settings : Settings} {c : Char} {rest : List Char}
    (fixed : settings.skip (c :: rest) = c :: rest) : settings.Counts c := by
  intro verbose
  rw [Settings.skip, if_pos verbose, skipRemarks] at fixed
  split at fixed
  · have shorter := (skipRemarks_suffix false rest).length_le
    rw [fixed, List.length_cons] at shorter
    omega
  · rename_i visible
    split at fixed
    · have shorter := (skipRemarks_suffix true rest).length_le
      rw [fixed, List.length_cons] at shorter
      omega
    · rename_i plain
      exact ⟨by simpa using visible, by simpa using plain⟩

theorem counts_brace (settings : Settings) : settings.Counts '\x7b' :=
  fun _ => by decide

/-- Passing over what does not count, as a reader without a result. -/
def skipper (settings : Settings) (text : List Char) : Option (Unit × List Char) :=
  some ((), settings.skip text)

theorem shrinks_skipper (settings : Settings) : Shrinks (skipper settings) := by
  intro text value rest found
  cases found
  exact skip_suffix settings text

theorem continues_skipper (settings : Settings) (text : List Char) :
    Continues [] (skipper settings) text := by
  unfold skipper Settings.skip
  cases settings.verbose with
  | false => exact .kept fun others => rfl
  | true =>
      rcases skipRemarks_append false text with same | ⟨nothing, beyond, remark⟩
      · exact .kept fun others => by simp [same others]
      · refine .used (by simp [nothing]) ?_ ?_
        · intro others value rest found
          cases found
          exact beyond others
        · intro others result oneLine found
          simp only [if_true, nothing] at found
          simp only [if_true, remark others oneLine, found]

section Skip

variable {α : Type} {lead : List Char} {settings : Settings}
  {read : List Char → Option (α × List Char)}

theorem Shrinks.skip (shrinks : Shrinks read) :
    Shrinks fun text => read (settings.skip text) := by
  intro text value rest found
  exact (shrinks found).trans (skip_suffix settings text)

/-- A reader that first passes over what does not count. -/
theorem Continues.skip {text : List Char} (shrinks : Shrinks read)
    (continues : Continues lead read (settings.skip text)) :
    Continues lead (fun text => read (settings.skip text)) text := by
  have both := (continues_skipper settings text).bind
    (fun _ rest found => by cases found; exact continues) fun _ => shrinks
  exact both

end Skip

/-! ## Runs of characters -/

section Runs

variable (settings : Settings) (wanted : Char → Bool)

theorem length_skip_le (text : List Char) : (settings.skip text).length ≤ text.length :=
  (skip_suffix settings text).length_le

theorem takeRun_suffix (steps : Nat) (text : List Char) :
    (takeRun settings wanted steps text).2 <:+ text := by
  fun_induction takeRun settings wanted steps text with
  | case1 text => exact List.suffix_rfl
  | case2 steps => exact List.suffix_rfl
  | case3 steps c rest isWanted run left same ih =>
      rw [same] at ih
      exact (ih.trans (skip_suffix settings rest)).trans (List.suffix_cons c rest)
  | case4 steps c rest => exact List.suffix_rfl

/-- The longest run of certain characters. -/
def run (text : List Char) : List Char × List Char :=
  takeRun settings wanted text.length text

variable {settings wanted}

theorem run_suffix (text : List Char) : (run settings wanted text).2 <:+ text :=
  takeRun_suffix settings wanted text.length text

theorem shrinks_run : Shrinks fun text => some (run settings wanted text) := by
  intro text value rest found
  have left : (run settings wanted text).2 = rest := by rw [Option.some.inj found]
  exact left ▸ run_suffix text

end Runs

end MarkupAudit.Pattern
