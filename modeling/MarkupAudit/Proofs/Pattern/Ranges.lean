/-
# Ranges and named classes before a parenthesis

The readers of ranges and of named classes in brackets, where a parenthesis is a character like any
other. What a hyphen means depends on what follows it. If nothing follows it in the text, as far as
it counts, there is no range. With a parenthesis behind the text there may be one, or the hyphen may
be left to be read as a member.
-/

import MarkupAudit.Pattern.Bracket
import MarkupAudit.Proofs.Pattern.Symbols

namespace MarkupAudit.Pattern

open MarkupAudit.Text

section Sets

variable (settings : Settings)

/-! ## Ranges -/

/-- The characters between two symbols. -/
def between? : Symbol → Symbol → Option CodeSet
  | .literal a _, .literal b _ =>
      if a.toNat ≤ b.toNat then
        (settings.member a).bind fun _ => (settings.member b).bind fun _ =>
          some (CodeSet.range a.toNat b.toNat)
      else none
  | _, _ => none

/-- What the first symbol of a range is by itself. -/
def readAlone (first : Symbol) (rest : List Char) : Option (CodeSet × List Char) :=
  (memberSet settings first).map fun set => (set, rest)

/-- The last symbol of a range. -/
def readLast (first : Symbol) (text : List Char) : Option (CodeSet × List Char) :=
  (readMember settings text).bind fun found =>
    (between? settings first found.1).bind fun set => some (set, found.2)

/-- What follows the hyphen of a range. -/
def readUpper (first : Symbol) (after : List Char) : Option (CodeSet × List Char) :=
  match settings.skip after with
  | [] => none
  | c :: text =>
      if c = ']' ∨ c = '-' then readAlone settings first ('-' :: after)
      else readLast settings first (c :: text)

/-- What follows the first symbol of a range. -/
def readLower (first : Symbol) (rest : List Char) : Option (CodeSet × List Char) :=
  match settings.skip rest with
  | [] => none
  | c :: text =>
      if c = '-' then readUpper settings first text
      else readAlone settings first (c :: text)

theorem readRange_eq (text : List Char) :
    readRange settings text = (readMember settings text).bind fun found =>
      readLower settings found.1 found.2 := by
  rw [readRange]
  cases readMember settings text with
  | none => rfl
  | some found =>
      obtain ⟨first, rest⟩ := found
      simp only [Option.bind_eq_bind, Option.bind_some, readLower]
      cases settings.skip rest with
      | nil => rfl
      | cons c after =>
          by_cases hyphen : c = '-'
          · subst hyphen
            simp only [if_true, readUpper]
            cases settings.skip after with
            | nil => rfl
            | cons d text =>
                by_cases plain : d = ']' ∨ d = '-'
                · rcases plain with rfl | rfl <;> rfl
                · have ends := not_or.mp plain
                  show _ = if d = ']' ∨ d = '-' then _ else _
                  rw [if_neg plain, readLast]
                  split
                  · rename_i nothing
                    cases nothing
                  · rename_i same
                    exact absurd (List.cons.inj same).1 ends.1
                  · rename_i same
                    exact absurd (List.cons.inj same).1 ends.2
                  · refine congrArg _ (funext fun found => ?_)
                    obtain ⟨last, left⟩ := found
                    cases first <;> cases last <;> try rfl
                    simp only [between?, guard]
                    split
                    · simp only [Option.bind_assoc, Option.bind_some]
                      rfl
                    · rfl
          · show _ = if c = '-' then _ else _
            rw [if_neg hyphen]
            split
            · rename_i nothing
              cases nothing
            · rename_i same
              exact absurd (List.cons.inj same).1 hyphen
            · rfl

theorem readAlone_eq_some {first : Symbol} {rest left : List Char} {set : CodeSet}
    (found : readAlone settings first rest = some (set, left)) : left = rest := by
  obtain ⟨_, _, same⟩ := Option.map_eq_some_iff.mp found
  cases same
  rfl

theorem consumes_readLast (first : Symbol) : Consumes (readLast settings first) :=
  (consumes_readMember settings).mapValue (between? settings first) id

theorem readUpper_suffix {first : Symbol} {after rest : List Char} {set : CodeSet}
    (found : readUpper settings first after = some (set, rest)) :
    rest = '-' :: after ∨ rest <:+ settings.skip after := by
  unfold readUpper at found
  cases skipped : settings.skip after with
  | nil => rw [skipped] at found; cases found
  | cons c text =>
      simp only [skipped] at found
      split at found
      · exact .inl (readAlone_eq_some settings found)
      · exact .inr ((consumes_readLast settings first).shrinks found)

theorem readLower_suffix {first : Symbol} {rest left : List Char} {set : CodeSet}
    (found : readLower settings first rest = some (set, left)) : left <:+ settings.skip rest := by
  unfold readLower at found
  cases skipped : settings.skip rest with
  | nil => rw [skipped] at found; cases found
  | cons c text =>
      simp only [skipped] at found
      split at found
      · rename_i hyphen
        subst hyphen
        rcases readUpper_suffix settings found with rfl | within
        · exact List.suffix_rfl
        · exact (within.trans (skip_suffix settings text)).trans (List.suffix_cons _ text)
      · cases readAlone_eq_some settings found
        exact List.suffix_rfl

theorem shrinks_readLower (first : Symbol) : Shrinks (readLower settings first) :=
  fun rest _ _ found => (readLower_suffix settings found).trans (skip_suffix settings rest)

theorem consumes_readRange : Consumes (readRange settings) := by
  rw [funext (readRange_eq settings)]
  exact (consumes_readMember settings).bind (shrinks_readLower settings)

end Sets

/-! ## Named classes -/

section Sets

variable (settings : Settings)

/-- A caret at the start of a text, if there is one, and the rest. -/
def caret : List Char → Bool × List Char
  | '^' :: text => (true, text)
  | text => (false, text)

/-- What follows the first colon of a named class, and a caret if there is one. -/
def readClassName (negated : Bool) (text : List Char) : Option (Option CodeSet × List Char) :=
  match text.dropWhile (· != ':') with
  | ':' :: ']' :: rest =>
      (asciiClass? (String.ofList (text.takeWhile (· != ':')))).bind fun set =>
        some (settings.negate negated (settings.fold set), rest)
  | _ => none

theorem readAsciiClass_colon (text : List Char) :
    readAsciiClass settings (':' :: text) =
      readClassName settings (caret text).1 (caret text).2 := rfl

theorem readAsciiClass_of_ne {c : Char} (other : c ≠ ':') (text : List Char) :
    readAsciiClass settings (c :: text) = none := by
  unfold readAsciiClass
  split
  · rename_i same
    exact absurd (List.cons.inj same).1 other
  · rfl

theorem caret_suffix (text : List Char) : (caret text).2 <:+ text := by
  unfold caret
  split
  · exact List.suffix_cons '^' _
  · exact List.suffix_rfl

theorem shrinks_readClassName (negated : Bool) : Shrinks (readClassName settings negated) := by
  intro text set rest found
  rw [readClassName] at found
  split at found
  · rename_i left same
    obtain ⟨_, _, result⟩ := Option.bind_eq_some_iff.mp found
    cases result
    have within := List.dropWhile_suffix (l := text) (· != ':')
    rw [same] at within
    exact ((List.suffix_cons ']' rest).trans (List.suffix_cons ':' _)).trans within
  · cases found

theorem consumes_readAsciiClass : Consumes (readAsciiClass settings) := by
  refine .of_cons rfl fun c text set rest found => ?_
  by_cases colon : c = ':'
  · subst colon
    rw [readAsciiClass_colon] at found
    exact (shrinks_readClassName settings _ found).trans (caret_suffix text)
  · rw [readAsciiClass_of_ne settings colon] at found
    cases found

end Sets

end MarkupAudit.Pattern
