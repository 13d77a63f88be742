/-
# Sets in brackets before a parenthesis

The readers of sets in brackets end in a text or go on behind the parenthesis that follows it. A set
that is not closed in the text is closed behind the parenthesis or not at all. The number of steps
that the readers are given is always enough, so that it can be left out of account.
-/

import MarkupAudit.Proofs.Pattern.Ranges

namespace MarkupAudit.Pattern

open MarkupAudit.Text

section Sets

variable (settings : Settings)

/-! ## The start of a set -/

theorem leadingHyphens_of_le {steps more : Nat} {members : Members} {text : List Char}
    (enough : text.length ≤ steps) (enoughToo : text.length ≤ more) :
    leadingHyphens settings steps members text = leadingHyphens settings more members text := by
  induction steps generalizing more members text with
  | zero =>
      obtain rfl := List.length_eq_zero_iff.mp (Nat.le_zero.mp enough)
      cases more <;> rfl
  | succ steps ih =>
      cases text with
      | nil => cases more <;> rfl
      | cons c rest =>
          cases more with
          | zero => cases enoughToo
          | succ more =>
              have shorter := length_skip_le settings rest
              rw [List.length_cons] at enough enoughToo
              by_cases hyphen : c = '-'
              · subst hyphen
                exact ih (by omega) (by omega)
              · have stops (steps : Nat) :
                    leadingHyphens settings (steps + 1) members (c :: rest) =
                      (members, c :: rest) :=
                  leadingHyphens.eq_3 settings members (c :: rest) steps
                    fun _ same => hyphen (List.cons.inj same).1
                rw [stops, stops]

/-- The hyphens at the start of a set. -/
def readHyphens (members : Members) (text : List Char) : Option (Members × List Char) :=
  some (leadingHyphens settings text.length members text)

theorem readHyphens_hyphen (members : Members) (rest : List Char) :
    readHyphens settings members ('-' :: rest) =
      readHyphens settings (members.add ⟨CodeSet.single 0x2d, 0⟩) (settings.skip rest) :=
  congrArg some (leadingHyphens_of_le settings (length_skip_le settings rest) (Nat.le_refl _))

theorem readHyphens_of_ne (members : Members) {c : Char} (other : c ≠ '-') (rest : List Char) :
    readHyphens settings members (c :: rest) = some (members, c :: rest) :=
  congrArg some (leadingHyphens.eq_3 settings members (c :: rest) rest.length
    fun _ same => other (List.cons.inj same).1)

theorem shrinks_readHyphens (members : Members) : Shrinks (readHyphens settings members) := by
  intro text value rest found
  induction size : text.length using Nat.strongRecOn generalizing members text with
  | ind bound ih =>
      cases text with
      | nil => cases found; exact List.suffix_rfl
      | cons c text =>
          by_cases hyphen : c = '-'
          · subst hyphen
            rw [readHyphens_hyphen] at found
            have shorter := length_skip_le settings text
            have within := ih _ (by rw [← size, List.length_cons]; omega) _ found rfl
            exact (within.trans (skip_suffix settings text)).trans (List.suffix_cons '-' text)
          · rw [readHyphens_of_ne settings members hyphen] at found
            cases found
            exact List.suffix_rfl

/-- A closing bracket that is the first member of a set. -/
def readFirst (members : Members) (text : List Char) : Option (Members × List Char) :=
  some (match text with
    | ']' :: rest =>
        if members.count = 0 then
          (members.add ⟨CodeSet.single 0x5d, 0⟩, settings.skip rest)
        else (members, text)
    | text => (members, text))

theorem shrinks_readFirst (members : Members) : Shrinks (readFirst settings members) := by
  intro text value rest found
  unfold readFirst at found
  split at found
  · split at found
    · cases found
      exact (skip_suffix settings _).trans (List.suffix_cons ']' _)
    · cases found
      exact List.suffix_rfl
  · cases found
    exact List.suffix_rfl

/-- A caret at the start of a set, and what does not count around it. -/
def readCaret (text : List Char) : Option (Bool × List Char) :=
  (skipper settings text).bind fun found => (some (caret found.2)).bind fun found =>
    (skipper settings found.2).bind fun left => some (found.1, left.2)

theorem readCaret_eq (text : List Char) :
    readCaret settings text = some (match settings.skip text with
      | '^' :: text => (true, settings.skip text)
      | text => (false, text)) := by
  show some (_, _) = _
  have again := skip_skip settings text
  generalize settings.skip text = visible at again
  cases visible with
  | nil => exact congrArg (fun left => some (false, left)) again
  | cons c rest =>
      by_cases isCaret : c = '^'
      · subst isCaret
        rfl
      · have plain : caret (c :: rest) = (false, c :: rest) := by
          unfold caret
          split
          · rename_i same
            exact absurd (List.cons.inj same).1 isCaret
          · rfl
        rw [plain, again]
        split
        · rename_i same
          exact absurd (List.cons.inj same).1 isCaret
        · rfl

theorem shrinks_readCaret : Shrinks (readCaret settings) := by
  intro text value rest found
  cases found
  exact ((skip_suffix settings _).trans (caret_suffix _)).trans (skip_suffix settings text)

/-- What stands in a set before its members are read: whether it is complemented, and the members
that have a meaning of their own elsewhere. -/
def readSetStart (text : List Char) : Option ((Bool × Members) × List Char) :=
  (readCaret settings text).bind fun found =>
    (readHyphens settings Members.none found.2).bind fun first =>
      (readFirst settings first.1 first.2).bind fun second => some ((found.1, second.1), second.2)

theorem shrinks_readSetStart : Shrinks (readSetStart settings) :=
  (shrinks_readCaret settings).bind fun negated =>
    (shrinks_readHyphens settings Members.none).bind fun members =>
      (shrinks_readFirst settings members).mapValue some fun members => (negated, members)

/-- A set that has been read up to its closing bracket. -/
def closed? (negated : Bool) (content : Nested) : Option Nested :=
  (settings.negate negated (settings.fold content.set)).map fun set => ⟨set, content.depth + 1⟩

/-- A set whose opening bracket has been read, given a reader of its members. -/
def readSet (many : Option (Nested × SetOperator) → Members → List Char →
    Option (Nested × List Char)) (text : List Char) : Option (Nested × List Char) :=
  (readSetStart settings text).bind fun start =>
    (many none start.1.2 start.2).bind fun found =>
      (closed? settings start.1.1 found.1).bind fun set => some (set, found.2)

theorem readBracket_succ (steps : Nat) :
    readBracket settings (steps + 1) = readSet settings (readMembers settings steps) := by
  funext text
  unfold readBracket readSet
  simp only [readSetStart, readCaret_eq, closed?, Option.bind_map]
  rfl

theorem consumes_readSet {many : Option (Nested × SetOperator) → Members → List Char →
    Option (Nested × List Char)} (later : ∀ waiting members, Consumes (many waiting members)) :
    Consumes (readSet settings many) :=
  (shrinks_readSetStart settings).bind_consumes fun start =>
    (later none start.2).mapValue (closed? settings start.1) id

/-- An operator between sets at the start of a text. -/
def operator? : List Char → Option (SetOperator × List Char)
  | '&' :: '&' :: rest => some (.inter, rest)
  | '-' :: '-' :: rest => some (.diff, rest)
  | '~' :: '~' :: rest => some (.symmDiff, rest)
  | _ => none

theorem operator?_eq_some {text rest : List Char} {operator : SetOperator}
    (found : operator? text = some (operator, rest)) :
    ∃ c, c ∈ ['&', '-', '~'] ∧ text = c :: c :: rest := by
  unfold operator? at found
  split at found
  · cases found
    exact ⟨'&', by simp, rfl⟩
  · cases found
    exact ⟨'-', by simp, rfl⟩
  · cases found
    exact ⟨'~', by simp, rfl⟩
  · cases found

theorem consumes_operator? : Consumes operator? := by
  intro text operator rest found
  obtain ⟨c, _, rfl⟩ := operator?_eq_some found
  exact ⟨c, c :: rest, rfl, List.suffix_cons c rest⟩

section Readers

variable (bracket : List Char → Option (Nested × List Char))
  (many : Option (Nested × SetOperator) → Members → List Char → Option (Nested × List Char))

/-- A member that is a set of its own, whose opening bracket has been read. -/
def readInner (text : List Char) : Option (Nested × List Char) :=
  match readAsciiClass settings text with
  | some (set, rest) => set.map fun set => (⟨set, 0⟩, rest)
  | none => bracket text

/-- The members from a character on that counts, given readers of inner sets and of the members that
follow. -/
def readVisible (waiting : Option (Nested × SetOperator)) (members : Members) (c : Char)
    (rest : List Char) : Option (Nested × List Char) :=
  if c = ']' then some (settle settings waiting members.nested, rest)
  else
    match operator? (c :: rest) with
    | some (operator, left) =>
        many (some (settle settings waiting members.nested, operator)) Members.none left
    | none =>
        if c = '[' then
          (readInner settings bracket rest).bind fun found =>
            many waiting (members.add found.1) found.2
        else
          (readRange settings (c :: rest)).bind fun found =>
            many waiting (members.add ⟨found.1, 0⟩) found.2

variable {bracket many}

theorem shrinks_readInner (inner : Shrinks bracket) : Shrinks (readInner settings bracket) := by
  intro text item rest found
  rw [readInner] at found
  cases alone : readAsciiClass settings text with
  | none =>
      rw [alone] at found
      exact inner found
  | some result =>
      rw [alone] at found
      obtain ⟨_, _, same⟩ := Option.map_eq_some_iff.mp found
      cases same
      exact (consumes_readAsciiClass settings).shrinks alone

theorem readVisible_suffix (inner : Shrinks bracket)
    (later : ∀ waiting members, Shrinks (many waiting members))
    {waiting : Option (Nested × SetOperator)} {members : Members} {c : Char}
    {rest left : List Char} {content : Nested}
    (found : readVisible settings bracket many waiting members c rest = some (content, left)) :
    left <:+ rest := by
  unfold readVisible at found
  split at found
  · cases found
    exact List.suffix_rfl
  · split at found
    · rename_i isOperator
      exact (later _ _ found).trans (consumes_operator?.suffix isOperator)
    · split at found
      · obtain ⟨⟨item, between⟩, one, two⟩ := Option.bind_eq_some_iff.mp found
        exact (later _ _ two).trans (shrinks_readInner settings inner one)
      · obtain ⟨⟨set, between⟩, one, two⟩ := Option.bind_eq_some_iff.mp found
        exact (later _ _ two).trans ((consumes_readRange settings).suffix one)

end Readers

theorem readMembers_nil (steps : Nat) (waiting : Option (Nested × SetOperator))
    (members : Members) {text : List Char} (nothing : settings.skip text = []) :
    readMembers settings steps waiting members text = none := by
  cases steps with
  | zero => rfl
  | succ steps => simp only [readMembers, nothing]

theorem readMembers_succ (steps : Nat) (waiting : Option (Nested × SetOperator))
    (members : Members) {text rest : List Char} {c : Char}
    (skipped : settings.skip text = c :: rest) :
    readMembers settings (steps + 1) waiting members text =
      readVisible settings (readBracket settings steps) (readMembers settings steps) waiting members
        c rest := by
  rw [readMembers]
  simp only [skipped, readVisible]
  split
  · rename_i nothing
    cases nothing
  · rename_i same
    cases same
    rfl
  · rename_i same
    cases same
    rfl
  · rename_i same
    cases same
    rfl
  · rename_i same
    cases same
    rfl
  · rename_i same
    cases same
    show _ = (readInner settings (readBracket settings steps) rest).bind _
    rw [readInner]
    cases readAsciiClass settings rest with
    | none => rfl
    | some found =>
        obtain ⟨set, left⟩ := found
        cases set <;> rfl
  · rename_i notClosing notInter notDiff notSymm notOpen
    have isOther : c ≠ ']' ∧ c ≠ '[' :=
      ⟨fun same => notClosing rest (by rw [same]), fun same => notOpen rest (by rw [same])⟩
    have noOperator : operator? (c :: rest) = none := by
      unfold operator?
      split
      · rename_i same
        exact (notInter _ same).elim
      · rename_i same
        exact (notDiff _ same).elim
      · rename_i same
        exact (notSymm _ same).elim
      · rfl
    rw [if_neg isOther.1, noOperator]
    dsimp only
    rw [if_neg isOther.2]
    rfl

theorem consumes_readBracket_readMembers (steps : Nat) :
    Consumes (readBracket settings steps) ∧
      ∀ waiting members, Consumes (readMembers settings steps waiting members) := by
  induction steps with
  | zero =>
      refine ⟨fun text value rest found => ?_, fun waiting members text value rest found => ?_⟩
      · cases found
      · cases found
  | succ steps ih =>
      obtain ⟨inner, later⟩ := ih
      refine ⟨?_, fun waiting members text content rest found => ?_⟩
      · rw [readBracket_succ]
        exact consumes_readSet settings later
      · cases skipped : settings.skip text with
        | nil => rw [readMembers_nil settings _ _ _ skipped] at found; cases found
        | cons c left =>
            rw [readMembers_succ settings _ _ _ skipped] at found
            have within := readVisible_suffix settings inner.shrinks
              (fun waiting members => (later waiting members).shrinks) found
            obtain ⟨d, more, rfl, wider⟩ :=
              exists_cons_of_suffix (skipped ▸ skip_suffix settings text)
            exact ⟨d, more, rfl, within.trans wider⟩

/-- A set whose opening bracket has been read. -/
def bracket (text : List Char) : Option (Nested × List Char) :=
  readBracket settings (2 * text.length + 2) text

/-- The members of a set. -/
def many (waiting : Option (Nested × SetOperator)) (members : Members) (text : List Char) :
    Option (Nested × List Char) :=
  readMembers settings (2 * text.length + 1) waiting members text

section Steps

variable (waiting : Option (Nested × SetOperator)) (members : Members) {c : Char}
  {rest : List Char}

end Steps

theorem consumes_bracket : Consumes (bracket settings) := by
  intro text content rest found
  exact (consumes_readBracket_readMembers settings _).1 found

end Sets

end MarkupAudit.Pattern
