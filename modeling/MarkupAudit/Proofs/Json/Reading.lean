/-
# Reading what is written

Whatever text spells a value, reading it gives this value back, and leaves what follows it unread.
So a text spells at most one value, and nothing that is written is lost: not the order of members,
not a key that comes twice, not the digits of a number.

The proof goes along the grammar, one rule at a time. Each rule is one or two calls of the readers,
and every call is for a part of the text, so the length of the text bounds the steps.
-/

import MarkupAudit.Proofs.Json.Tokens

namespace MarkupAudit.Json

/-! ## White space -/

theorem isSpace_of_mem {space : List Char} (blank : IsSpace space) {c : Char}
    (inside : c ∈ space) : isSpace c = true := by
  rcases blank c inside with rfl | rfl | rfl | rfl <;> rfl

theorem skipSpace_append {space : List Char} (blank : IsSpace space) (text : List Char) :
    skipSpace (space ++ text) = skipSpace text :=
  List.dropWhile_append_of_pos fun _ => isSpace_of_mem blank

theorem skipSpace_cons {c : Char} (visible : isSpace c = false) (rest : List Char) :
    skipSpace (c :: rest) = c :: rest :=
  List.dropWhile_cons_of_neg (by simp [visible])

theorem skipSpace_of_isSpace {space : List Char} (blank : IsSpace space) :
    skipSpace space = [] := by
  rw [← List.append_nil space, skipSpace_append blank]
  rfl

/-- White space in front of a value does not matter. -/
theorem readValue_skip {space : List Char} (blank : IsSpace space) (steps limit : Nat)
    (text : List Char) : readValue steps limit (space ++ text) = readValue steps limit text := by
  cases steps with
  | zero => rw [readValue, readValue]
  | succ steps =>
      unfold readValue
      rw [skipSpace_append blank]

theorem readItems_skip {space : List Char} (blank : IsSpace space) (steps limit : Nat)
    (isFirst : Bool) (text : List Char) :
    readItems steps limit isFirst (space ++ text) = readItems steps limit isFirst text := by
  cases steps with
  | zero => rw [readItems, readItems]
  | succ steps =>
      unfold readItems
      rw [skipSpace_append blank]

theorem readMembers_skip {space : List Char} (blank : IsSpace space) (steps limit : Nat)
    (isFirst : Bool) (text : List Char) :
    readMembers steps limit isFirst (space ++ text) = readMembers steps limit isFirst text := by
  cases steps with
  | zero => rw [readMembers, readMembers]
  | succ steps =>
      unfold readMembers
      rw [skipSpace_append blank]

theorem readMember_skip {space : List Char} (blank : IsSpace space) (steps limit : Nat)
    (text : List Char) : readMember steps limit (space ++ text) = readMember steps limit text := by
  cases steps with
  | zero => rw [readMember, readMember]
  | succ steps =>
      unfold readMember
      rw [skipSpace_append blank]

/-! ## Values -/

theorem isSpace_of_isDigit {c : Char} (digit : isDigit c = true) : isSpace c = false := by
  refine Bool.eq_false_iff.mpr fun space => ?_
  simp only [isSpace, Bool.or_eq_true, beq_iff_eq] at space
  rcases space with ((rfl | rfl) | rfl) | rfl <;> exact absurd digit (by decide)

/-- A digit at the beginning is the beginning of a number. -/
theorem readValue_digit {c : Char} (digit : isDigit c = true) (steps limit : Nat)
    (rest : List Char) :
    readValue (steps + 1) limit (c :: rest) = readNumber false (c :: rest) := by
  unfold readValue
  rw [skipSpace_cons (isSpace_of_isDigit digit)]
  split
  case h_1 empty => contradiction
  all_goals
    rename_i same
    obtain ⟨rfl, rfl⟩ := List.cons.inj same
  case h_9 => exact if_pos digit
  all_goals exact absurd digit (by decide)

theorem readValue_array (steps limit : Nat) (text : List Char) :
    readValue (steps + 1) (limit + 1) ('[' :: text) =
      (readItems steps limit true text).map fun result => (.array result.1, result.2) := by
  rw [readValue]
  show (readItems steps limit true text >>= _) = _
  cases readItems steps limit true text <;> rfl

theorem readValue_object (steps limit : Nat) (text : List Char) :
    readValue (steps + 1) (limit + 1) ('\x7b' :: text) =
      (readMembers steps limit true text).map fun result => (.object result.1, result.2) := by
  rw [readValue]
  show (readMembers steps limit true text >>= _) = _
  cases readMembers steps limit true text <;> rfl

/-- An item, and those after it. -/
def readItem (steps limit : Nat) (text : List Char) : Except Fault (List Json × List Char) := do
  let (item, rest) ← readValue steps limit text
  let (items, rest) ← readItems steps limit false rest
  .ok (item :: items, rest)

theorem readItems_comma (steps limit : Nat) (text : List Char) :
    readItems (steps + 1) limit false (',' :: text) = readItem steps limit text := by
  rw [readItems]
  rfl

theorem readItems_close (steps limit : Nat) (isFirst : Bool) (rest : List Char) :
    readItems (steps + 1) limit isFirst (']' :: rest) = .ok ([], rest) := by
  rw [readItems]
  rfl

theorem readMembers_comma (steps limit : Nat) (text : List Char) :
    readMembers (steps + 1) limit false (',' :: text) = readMember steps limit text := by
  rw [readMembers]
  rfl

theorem readMembers_close (steps limit : Nat) (isFirst : Bool) (rest : List Char) :
    readMembers (steps + 1) limit isFirst ('\x7d' :: rest) = .ok ([], rest) := by
  rw [readMembers]
  rfl

/-- The text of a number, with its first digit in front. -/
theorem toDigits_head (n : Nat) : ∃ c more, Nat.toDigits 10 n = c :: more ∧ isDigit c = true := by
  obtain ⟨present, all⟩ := areDigits_toDigits n
  cases digits : Nat.toDigits 10 n with
  | nil => contradiction
  | cons c more => exact ⟨c, more, rfl, all c (digits ▸ List.mem_cons_self)⟩

/-- What begins a value is neither a space nor a closing bracket. -/
theorem Spells.head {value : Json} {text : List Char} (spells : Spells value text) :
    ∃ c more, text = c :: more ∧ isSpace c = false ∧ c ≠ ']' := by
  cases spells with
  | @number numeral _ spells =>
      obtain @⟨fraction, exponent, _, _⟩ := spells
      obtain ⟨c, more, digits, digit⟩ := toDigits_head numeral.whole
      rw [digits]
      cases numeral.negative with
      | false =>
          refine ⟨c, _, rfl, isSpace_of_isDigit digit, ?_⟩
          rintro rfl
          exact absurd digit (by decide)
      | true => exact ⟨_, _, rfl, by decide, by decide⟩
  | string spells =>
      cases spells
      exact ⟨_, _, rfl, by decide, by decide⟩
  | _ => exact ⟨_, _, rfl, by decide, by decide⟩

theorem Spells.length_pos {value : Json} {text : List Char} (spells : Spells value text) :
    0 < text.length := by
  obtain ⟨c, more, rfl, -⟩ := spells.head
  exact Nat.succ_pos more.length

theorem SpellsPadded.length_pos {value : Json} {text : List Char}
    (spells : SpellsPadded value text) : 0 < text.length := by
  obtain ⟨_, spells, _⟩ := spells
  have positive := spells.length_pos
  rw [List.length_append, List.length_append]
  omega

theorem SpellsString.length_pos {string : String} {text : List Char}
    (spells : SpellsString string text) : 1 < text.length := by
  obtain ⟨_⟩ := spells
  simp

theorem SpellsItems.head {items : List Json} {inner : List Char}
    (spells : SpellsItems items inner) :
    ∃ space c more, IsSpace space ∧ inner = space ++ c :: more ∧ isSpace c = false ∧ c ≠ ']' := by
  have padded {item : Json} {text : List Char} (spells : SpellsPadded item text) :
      ∃ space c more, IsSpace space ∧ text = space ++ c :: more ∧ isSpace c = false ∧ c ≠ ']' := by
    obtain ⟨before, spells, after⟩ := spells
    obtain ⟨c, more, rfl, other⟩ := spells.head
    exact ⟨_, c, _, before, by rw [List.append_assoc, List.cons_append], other⟩
  cases spells with
  | last spells => exact padded spells
  | cons first =>
      obtain ⟨space, c, more, blank, rfl, other⟩ := padded first
      exact ⟨space, c, _, blank, by rw [List.append_assoc, List.cons_append], other⟩

theorem readItems_first {items : List Json} {inner : List Char} (spells : SpellsItems items inner)
    (steps limit : Nat) (rest : List Char) :
    readItems (steps + 1) limit true (inner ++ rest) = readItem steps limit (inner ++ rest) := by
  obtain ⟨space, c, more, blank, rfl, visible, noClose⟩ := spells.head
  rw [List.append_assoc, List.cons_append, readItems_skip blank, readItem,
    readValue_skip blank, readItems, skipSpace_cons visible]
  split
  case h_1 => contradiction
  case h_2 same => exact absurd (List.cons.inj same).1 noClose
  case h_3 same =>
    obtain ⟨rfl, rfl⟩ := List.cons.inj same
    exact if_pos rfl

theorem readMembers_first {members : List (String × Json)} {inner : List Char}
    (spells : SpellsMembers members inner) (steps limit : Nat) (rest : List Char) :
    readMembers (steps + 1) limit true (inner ++ rest) =
      readMember steps limit (inner ++ rest) := by
  have quoted {member : String × Json} {text : List Char} (spells : SpellsMember member text) :
      ∃ space more, IsSpace space ∧ text = space ++ '"' :: more := by
    obtain ⟨before, ⟨_⟩, _, _⟩ := spells
    exact ⟨_, _, before, by simp only [List.append_assoc, List.cons_append]; rfl⟩
  have found : ∃ space more, IsSpace space ∧ inner = space ++ '"' :: more := by
    cases spells with
    | last spells => exact quoted spells
    | cons first =>
        obtain ⟨space, more, blank, rfl⟩ := quoted first
        exact ⟨space, _, blank, by rw [List.append_assoc, List.cons_append]⟩
  obtain ⟨space, more, blank, rfl⟩ := found
  rw [List.append_assoc, List.cons_append, readMembers_skip blank, readMember_skip blank,
    readMembers]
  rfl

/-- What ends a number may have white space in front. -/
theorem Avoids.append_space {space rest : List Char} (blank : IsSpace space)
    (ended : Avoids continuesNumber rest) : Avoids continuesNumber (space ++ rest) := by
  cases space with
  | nil => exact ended
  | cons c more =>
      apply avoids_cons.mpr
      rcases blank c List.mem_cons_self with rfl | rfl | rfl | rfl <;> decide

/-- A member is read as its name and its value. -/
theorem readMember_value {key : String} {before name after : List Char}
    (blank : IsSpace before) (spells : SpellsString key name) (blankAfter : IsSpace after)
    (steps limit : Nat) (text : List Char) :
    readMember (steps + 1) limit (before ++ name ++ after ++ ':' :: text) = (do
      let (value, rest) ← readValue steps limit text
      let (members, rest) ← readMembers steps limit false rest
      .ok ((key, value) :: members, rest)) := by
  obtain @⟨inner, chars⟩ := spells
  have colon : skipSpace (after ++ ':' :: text) = ':' :: text := skipSpace_append blankAfter _
  simp only [List.append_assoc, List.cons_append, List.nil_append]
  rw [readMember_skip blank, readMember]
  show (readString (inner ++ '"' :: (after ++ ':' :: text)) >>= _) = _
  rw [readString_of_spells chars, ok_bind]
  dsimp only
  rw [colon]
  rfl

theorem readValue_string {string : String} {text : List Char} (spells : SpellsString string text)
    (steps limit : Nat) (rest : List Char) :
    readValue (steps + 1) limit (text ++ rest) = .ok (.string string, rest) := by
  obtain @⟨inner, chars⟩ := spells
  simp only [List.append_assoc, List.cons_append, List.nil_append]
  rw [readValue]
  show (readString (inner ++ '"' :: rest) >>= _) = _
  rw [readString_of_spells chars]
  rfl

theorem readValue_numeral {numeral : Numeral} {text : List Char}
    (spells : SpellsNumeral numeral text) (finite : numeral.isFinite = true) (steps limit : Nat)
    {rest : List Char} (ended : Avoids continuesNumber rest) :
    readValue (steps + 1) limit (text ++ rest) = .ok (.number numeral, rest) := by
  obtain @⟨fraction, exponent, spellsFraction, spellsExponent⟩ := spells
  have read := readNumber_of_spells spellsFraction spellsExponent finite ended
  cases negative : numeral.negative with
  | false =>
      obtain ⟨c, more, digits, digit⟩ := toDigits_head numeral.whole
      rw [negative, digits] at read
      rw [digits]
      exact (readValue_digit digit steps limit _).trans read
  | true =>
      rw [negative] at read
      rw [readValue]
      exact read

mutual

/-- What spells a value is read as this value, up to where the value ends. -/
theorem readValue_of_spells {value : Json} {text : List Char} (spells : Spells value text)
    {steps limit : Nat} (shallow : value.depth ≤ limit) (enough : text.length ≤ steps)
    {rest : List Char} (ended : Avoids continuesNumber rest) :
    readValue steps limit (text ++ rest) = .ok (value, rest) := by
  -- A container takes one from the limit, and its opening and closing characters give two steps.
  have container {depth : Nat} (nested : depth + 1 ≤ limit) :
      ∃ less, limit = less + 1 ∧ depth ≤ less := ⟨limit - 1, by omega, by omega⟩
  have positive := spells.length_pos
  obtain ⟨steps, rfl⟩ : ∃ fewer, steps = fewer + 1 := ⟨steps - 1, by omega⟩
  cases spells with
  | null =>
      rw [readValue]
      rfl
  | yes =>
      rw [readValue]
      rfl
  | no =>
      rw [readValue]
      rfl
  | number spells finite => exact readValue_numeral spells finite steps limit ended
  | string spells => exact readValue_string spells steps limit rest
  | emptyArray blank =>
      obtain ⟨less, rfl, -⟩ := container shallow
      simp only [List.length_append, List.length_cons, List.length_nil] at enough
      obtain ⟨steps, rfl⟩ : ∃ fewer, steps = fewer + 1 := ⟨steps - 1, by omega⟩
      rw [List.cons_append, List.cons_append, List.append_assoc, List.singleton_append,
        readValue_array, readItems_skip blank, readItems_close]
      rfl
  | array spells =>
      obtain ⟨less, rfl, inside⟩ := container shallow
      simp only [List.length_append, List.length_cons, List.length_nil] at enough
      obtain ⟨steps, rfl⟩ : ∃ fewer, steps = fewer + 1 := ⟨steps - 1, by omega⟩
      rw [List.cons_append, List.cons_append, List.append_assoc, List.singleton_append,
        readValue_array, readItems_first spells,
        readItem_of_spells spells inside (by omega)]
      rfl
  | emptyObject blank =>
      obtain ⟨less, rfl, -⟩ := container shallow
      simp only [List.length_append, List.length_cons, List.length_nil] at enough
      obtain ⟨steps, rfl⟩ : ∃ fewer, steps = fewer + 1 := ⟨steps - 1, by omega⟩
      rw [List.cons_append, List.cons_append, List.append_assoc, List.singleton_append,
        readValue_object, readMembers_skip blank, readMembers_close]
      rfl
  | object spells =>
      obtain ⟨less, rfl, inside⟩ := container shallow
      simp only [List.length_append, List.length_cons, List.length_nil] at enough
      obtain ⟨steps, rfl⟩ : ∃ fewer, steps = fewer + 1 := ⟨steps - 1, by omega⟩
      rw [List.cons_append, List.cons_append, List.append_assoc, List.singleton_append,
        readValue_object, readMembers_first spells,
        readMember_of_spells spells inside (by omega)]
      rfl

/-- The white space after a value is left unread. -/
theorem readValue_of_spellsPadded {value : Json} {text : List Char}
    (spells : SpellsPadded value text) {steps limit : Nat} (shallow : value.depth ≤ limit)
    (enough : text.length ≤ steps) :
    ∃ after, IsSpace after ∧ ∀ rest, Avoids continuesNumber rest →
      readValue steps limit (text ++ rest) = .ok (value, after ++ rest) := by
  cases spells with
  | @padded _ before text after blank spells blankAfter =>
      simp only [List.length_append] at enough
      refine ⟨after, blankAfter, fun rest ended => ?_⟩
      rw [List.append_assoc, List.append_assoc, readValue_skip blank]
      exact readValue_of_spells spells shallow (by omega) (ended.append_space blankAfter)

theorem readItem_of_spells {items : List Json} {inner : List Char}
    (spells : SpellsItems items inner) {steps limit : Nat}
    (shallow : depthOfItems items ≤ limit) (enough : inner.length ≤ steps) (rest : List Char) :
    readItem steps limit (inner ++ ']' :: rest) = .ok (items, rest) := by
  cases spells with
  | last spells =>
      have positive := spells.length_pos
      have shallowItem := Nat.le_trans (Nat.le_max_left _ _) shallow
      obtain ⟨after, blank, read⟩ := readValue_of_spellsPadded spells shallowItem enough
      obtain ⟨fewer, rfl⟩ : ∃ fewer, steps = fewer + 1 := ⟨steps - 1, by omega⟩
      rw [readItem, read _ (avoids_cons.mpr (by decide)), ok_bind]
      dsimp only
      rw [readItems_skip blank, readItems_close]
      rfl
  | @cons item items text more first others =>
      rw [List.length_append, List.length_cons] at enough
      have shallowItem := Nat.le_trans (Nat.le_max_left _ _) shallow
      have shallowItems := Nat.le_trans (Nat.le_max_right _ _) shallow
      have fits : text.length ≤ steps := by omega
      obtain ⟨after, blank, read⟩ := readValue_of_spellsPadded first shallowItem fits
      obtain ⟨fewer, rfl⟩ : ∃ fewer, steps = fewer + 1 := ⟨steps - 1, by omega⟩
      have comma : Avoids continuesNumber (',' :: (more ++ ']' :: rest)) :=
        avoids_cons.mpr (by decide)
      rw [readItem, List.append_assoc, List.cons_append, read _ comma, ok_bind]
      dsimp only
      rw [readItems_skip blank, readItems_comma,
        readItem_of_spells others shallowItems (by omega)]
      rfl

theorem readMember_of_spells {members : List (String × Json)} {inner : List Char}
    (spells : SpellsMembers members inner) {steps limit : Nat}
    (shallow : depthOfMembers members ≤ limit) (enough : inner.length ≤ steps) (rest : List Char) :
    readMember steps limit (inner ++ '\x7d' :: rest) = .ok (members, rest) := by
  cases spells with
  | last spells =>
      obtain @⟨_, _, _, _, _, text, blank, spellsName, blankAfter, spells⟩ := spells
      simp only [List.length_append, List.length_cons] at enough
      have positive := spells.length_pos
      have shallowValue := Nat.le_trans (Nat.le_max_left _ _) shallow
      obtain ⟨fewer, rfl⟩ : ∃ fewer, steps = fewer + 1 + 1 := ⟨steps - 2, by omega⟩
      have fits : text.length ≤ fewer + 1 := by omega
      obtain ⟨_, trailing, read⟩ := readValue_of_spellsPadded spells shallowValue fits
      rw [List.append_assoc, List.cons_append, readMember_value blank spellsName blankAfter,
        read _ (avoids_cons.mpr (by decide)), ok_bind]
      dsimp only
      rw [readMembers_skip trailing, readMembers_close]
      rfl
  | @cons _ members _ more first others =>
      obtain @⟨_, _, _, _, _, text, blank, spellsName, blankAfter, spells⟩ := first
      simp only [List.length_append, List.length_cons] at enough
      have positive := spellsName.length_pos
      have shallowValue := Nat.le_trans (Nat.le_max_left _ _) shallow
      have shallowMembers := Nat.le_trans (Nat.le_max_right _ _) shallow
      obtain ⟨fewer, rfl⟩ : ∃ fewer, steps = fewer + 1 + 1 := ⟨steps - 2, by omega⟩
      have fits : text.length ≤ fewer + 1 := by omega
      obtain ⟨_, trailing, read⟩ := readValue_of_spellsPadded spells shallowValue fits
      have comma : Avoids continuesNumber (',' :: (more ++ '\x7d' :: rest)) :=
        avoids_cons.mpr (by decide)
      rw [List.append_assoc, List.cons_append, List.append_assoc, List.cons_append,
        readMember_value blank spellsName blankAfter, read _ comma, ok_bind]
      dsimp only
      rw [readMembers_skip trailing, readMembers_comma,
        readMember_of_spells others shallowMembers (by omega)]
      rfl

end

/-- No text spells two values. -/
theorem SpellsPadded.unique {value other : Json} {text : List Char}
    (spells : SpellsPadded value text) (again : SpellsPadded other text) : value = other := by
  obtain ⟨_, _, read⟩ := readValue_of_spellsPadded spells
    (Nat.le_max_left value.depth other.depth) (Nat.le_refl text.length)
  obtain ⟨_, _, readAgain⟩ := readValue_of_spellsPadded again
    (Nat.le_max_right value.depth other.depth) (Nat.le_refl text.length)
  have ended := avoids_nil continuesNumber
  have same := (read [] ended).symm.trans (readAgain [] ended)
  exact (Prod.mk.inj (Except.ok.inj same)).1

/-- A text without white space at its ends is read as the value that it spells. -/
theorem read_of_spells {value : Json} {text : List Char} (spells : Spells value text)
    (shallow : value.depth ≤ maxDepth) : read text = .ok (value, []) := by
  have read := readValue_of_spells spells shallow (by omega : text.length ≤ 3 * text.length + 1)
    (avoids_nil continuesNumber)
  rwa [List.append_nil] at read

/-- A whole text is read as the value that it spells, except for the white space at its end. -/
theorem read_of_spellsPadded {value : Json} {text : List Char} (spells : SpellsPadded value text)
    (shallow : value.depth ≤ maxDepth) :
    ∃ after, IsSpace after ∧ read text = .ok (value, after) := by
  have enough : text.length ≤ 3 * text.length + 1 := by omega
  obtain ⟨after, blank, read⟩ := readValue_of_spellsPadded spells shallow enough
  have ended := read [] (avoids_nil continuesNumber)
  rw [List.append_nil, List.append_nil] at ended
  exact ⟨after, blank, ended⟩

end MarkupAudit.Json
