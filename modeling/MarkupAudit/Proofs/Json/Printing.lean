/-
# What is printed

The compact form and the indented form of a value are texts that spell it, so every reader of JSON
reads both of them as this value and as no other. The white space of the indentation goes to the
values next to it: a line break in front of an item or a member, and the one in front of a closing
bracket behind the last of them.

A value may hold numerals that no text spells, with a fraction that is not made of digits or beyond
the range of numbers. Natural numbers of sixty-four bits are not among them.
-/

import MarkupAudit.Proofs.Json.Reading

namespace MarkupAudit

/-! ## Numbers -/

/-- A numeral that a text can spell. -/
structure Numeral.IsLegal (numeral : Numeral) : Prop where
  digits : ∀ c ∈ numeral.fraction, c.isDigit = true
  finite : numeral.isFinite = true

namespace Json

theorem spellsFraction_chars {fraction : List Char} (digits : ∀ c ∈ fraction, c.isDigit = true) :
    SpellsFraction fraction (if fraction.isEmpty then [] else '.' :: fraction) := by
  cases fraction with
  | nil => exact .absent
  | cons c more => exact .digits ⟨nofun, digits⟩

theorem toList_repr (n : Nat) : n.repr.toList = Nat.toDigits 10 n :=
  String.toList_ofList

theorem spellsExponent_chars (power : Int) :
    SpellsExponent (some power) ('e' :: (toString power).toList) := by
  cases power with
  | ofNat n =>
      have spells := SpellsExponent.unsigned (.inl rfl) (areDigits_toDigits n)
      rw [ofDigitChars_toDigits] at spells
      rwa [show toString (Int.ofNat n) = n.repr from rfl, toList_repr]
  | negSucc n =>
      have spells := SpellsExponent.minus (.inl rfl) (areDigits_toDigits (n + 1))
      rw [ofDigitChars_toDigits] at spells
      rwa [show toString (Int.negSucc n) = "-" ++ (n + 1).repr from rfl, String.toList_append,
        toList_repr]

theorem spellsNumeral_numeralChars {numeral : Numeral} (legal : numeral.IsLegal) :
    SpellsNumeral numeral (numeralChars numeral) := by
  rw [numeralChars, show toString numeral.whole = numeral.whole.repr from rfl, toList_repr]
  refine .parts (spellsFraction_chars legal.digits) ?_
  cases numeral.exponent with
  | none => exact .absent
  | some power => exact spellsExponent_chars power

/-! ## Strings -/

/-- The control characters without a letter of their own are written by their numbers. -/
theorem spellsUnit_of_lt {n : Nat} (control : n < 0x20) :
    SpellsUnit n ['0', '0', hexChar (n / 16), hexChar (n % 16)] := by
  have first : n / 0x1000 = 0 := by omega
  have second : n / 0x100 % 0x10 = 0 := by omega
  have third : n / 0x10 % 0x10 = n / 16 := by omega
  refine .digits (by omega) ?_ ?_ ?_ (.inl rfl)
  · rw [first]; exact .inl rfl
  · rw [second]; exact .inl rfl
  · rw [third]; exact .inl rfl

theorem spellsChar_escape (c : Char) : SpellsChar c (escape c) := by
  unfold escape
  split
  case h_8 quote backslash _ _ _ _ _ =>
    split
    · exact .unit (spellsUnit_of_lt ‹_›)
    · exact .plain quote backslash (by omega)
  all_goals exact .letter (by decide)

theorem spellsChars_flatMap_escape (chars : List Char) :
    SpellsChars chars (chars.flatMap escape) := by
  induction chars with
  | nil => exact .nil
  | cons c chars ih => exact .cons (spellsChar_escape c) ih

theorem spellsString_quote (text : String) : SpellsString text (quote text) :=
  .quoted (spellsChars_flatMap_escape text.toList)

/-! ## Values -/

theorem isLegal_ofNat {n : Nat} (small : n < Nat.pow 2 64) : (Numeral.ofNat n).IsLegal :=
  ⟨nofun, isFinite_ofNat small⟩

mutual

/-- Every number in a value is one that a text can spell. -/
def IsLegal : Json → Prop
  | .number numeral => numeral.IsLegal
  | .array items => AreLegal items
  | .object members => HaveLegalValues members
  | _ => True

/-- So is every number in some items. -/
def AreLegal : List Json → Prop
  | [] => True
  | item :: items => IsLegal item ∧ AreLegal items

/-- So is every number in the values of some members. -/
def HaveLegalValues : List (String × Json) → Prop
  | [] => True
  | (_, value) :: members => IsLegal value ∧ HaveLegalValues members

end

theorem areLegal_iff {items : List Json} : AreLegal items ↔ ∀ item ∈ items, item.IsLegal := by
  induction items with
  | nil => simp [AreLegal]
  | cons item items ih => rw [AreLegal, ih, List.forall_mem_cons]

theorem haveLegalValues_iff {members : List (String × Json)} :
    HaveLegalValues members ↔ ∀ member ∈ members, member.2.IsLegal := by
  induction members with
  | nil => simp [HaveLegalValues]
  | cons member members ih =>
      obtain ⟨key, value⟩ := member
      rw [HaveLegalValues, ih, List.forall_mem_cons]

theorem isLegal_string (text : String) : (string text).IsLegal := trivial

theorem isLegal_natural {n : Nat} (small : n < Nat.pow 2 64) : (natural n).IsLegal :=
  isLegal_ofNat small

theorem isLegal_optional {α : Type} {encode : α → Json} {value : Option α}
    (legal : ∀ a ∈ value, (encode a).IsLegal) : (optional encode value).IsLegal := by
  cases value with
  | none => trivial
  | some a => exact legal a rfl

/-! ### The compact form -/

theorem spellsMember_compact (key : String) {value : Json} {text : List Char}
    (spells : Spells value text) : SpellsMember (key, value) (quote key ++ ':' :: text) := by
  have member := SpellsMember.member isSpace_nil (spellsString_quote key) isSpace_nil spells.padded
  rwa [List.nil_append, List.append_nil] at member

mutual

/-- The compact form of a value spells it. -/
theorem spells_compactChars {value : Json} (legal : value.IsLegal) :
    Spells value (compactChars value) := by
  match value with
  | .null => exact .null
  | .bool true => exact .yes
  | .bool false => exact .no
  | .number numeral => exact .number (spellsNumeral_numeralChars legal) legal.finite
  | .string text => exact .string (spellsString_quote text)
  | .array [] => exact .emptyArray isSpace_nil
  | .array (item :: items) =>
      exact .array (spellsItems_compactItems (List.cons_ne_nil item items) legal)
  | .object [] => exact .emptyObject isSpace_nil
  | .object (member :: members) =>
      exact .object (spellsMembers_compactMembers (List.cons_ne_nil member members) legal)

theorem spellsItems_compactItems {items : List Json} (present : items ≠ [])
    (legal : AreLegal items) : SpellsItems items (compactItems items) := by
  match items with
  | [item] => exact .last (spells_compactChars legal.1).padded
  | item :: next :: rest =>
      have others := spellsItems_compactItems (List.cons_ne_nil next rest) legal.2
      exact .cons (spells_compactChars legal.1).padded others

theorem spellsMembers_compactMembers {members : List (String × Json)} (present : members ≠ [])
    (legal : HaveLegalValues members) : SpellsMembers members (compactMembers members) := by
  match members with
  | [(key, value)] => exact .last (spellsMember_compact key (spells_compactChars legal.1))
  | (key, value) :: next :: rest =>
      have others := spellsMembers_compactMembers (List.cons_ne_nil next rest) legal.2
      exact .cons (spellsMember_compact key (spells_compactChars legal.1)) others

end

theorem spells_compact {value : Json} (legal : value.IsLegal) :
    value.Spells value.compact.toList := by
  rw [compact, String.toList_ofList]
  exact spells_compactChars legal

/-! ### The indented form -/

theorem isSpace_newLine (level : Nat) : IsSpace (newLine level) := by
  intro c inside
  rcases List.mem_cons.mp inside with rfl | blank
  · exact .inr (.inr (.inl rfl))
  · exact .inl (List.eq_of_mem_replicate blank)

theorem isSpace_blank : IsSpace [' '] := by
  simp [IsSpace]

/-- A member on a line of its own, with a blank before its value. -/
theorem spellsMember_line (level : Nat) (key : String) {value : Json} {text after : List Char}
    (spells : Spells value text) (blank : IsSpace after) :
    SpellsMember (key, value) (newLine level ++ quote key ++ ':' :: ' ' :: text ++ after) := by
  have padded := SpellsPadded.padded isSpace_blank spells blank
  have member := SpellsMember.member (isSpace_newLine level) (spellsString_quote key) isSpace_nil
    padded
  simpa using member

mutual

/-- The indented form of a value spells it. -/
theorem spells_prettyChars (level : Nat) {value : Json} (legal : value.IsLegal) :
    Spells value (prettyChars level value) := by
  match value with
  | .null => exact .null
  | .bool true => exact .yes
  | .bool false => exact .no
  | .number numeral => exact .number (spellsNumeral_numeralChars legal) legal.finite
  | .string text => exact .string (spellsString_quote text)
  | .array [] => exact .emptyArray isSpace_nil
  | .array (item :: items) =>
      have spells := spellsItems_prettyItems (level + 1) (List.cons_ne_nil item items) legal
        (isSpace_newLine level)
      exact .array spells
  | .object [] => exact .emptyObject isSpace_nil
  | .object (member :: members) =>
      have spells := spellsMembers_prettyMembers (level + 1) (List.cons_ne_nil member members)
        legal (isSpace_newLine level)
      exact .object spells

theorem spellsItems_prettyItems (level : Nat) {items : List Json} (present : items ≠ [])
    (legal : AreLegal items) {after : List Char} (blank : IsSpace after) :
    SpellsItems items (prettyItems level items ++ after) := by
  match items with
  | [item] =>
      rw [prettyItems]
      exact .last (.padded (isSpace_newLine level) (spells_prettyChars level legal.1) blank)
  | item :: next :: rest =>
      have padded := SpellsPadded.padded (isSpace_newLine level)
        (spells_prettyChars level legal.1) isSpace_nil
      rw [List.append_nil] at padded
      have others := spellsItems_prettyItems level (List.cons_ne_nil next rest) legal.2 blank
      rw [prettyItems, List.append_assoc, List.cons_append]
      · exact .cons padded others
      · exact nofun

theorem spellsMembers_prettyMembers (level : Nat) {members : List (String × Json)}
    (present : members ≠ []) (legal : HaveLegalValues members) {after : List Char}
    (blank : IsSpace after) :
    SpellsMembers members (prettyMembers level members ++ after) := by
  match members with
  | [(key, value)] =>
      rw [prettyMembers]
      exact .last (spellsMember_line level key (spells_prettyChars level legal.1) blank)
  | (key, value) :: next :: rest =>
      have member := spellsMember_line level key (spells_prettyChars level legal.1) isSpace_nil
      rw [List.append_nil] at member
      have others := spellsMembers_prettyMembers level (List.cons_ne_nil next rest) legal.2 blank
      rw [prettyMembers, List.append_assoc _ _ after, List.cons_append]
      · exact .cons member others
      · exact nofun

end

theorem spells_pretty {value : Json} (legal : value.IsLegal) :
    value.Spells value.pretty.toList := by
  rw [pretty, String.toList_ofList]
  exact spells_prettyChars 0 legal

/-- A printed value spells the value, with the line break behind it. -/
theorem spellsPadded_pretty {value : Json} (legal : value.IsLegal) :
    value.SpellsPadded (value.pretty ++ "\n").toList := by
  rw [String.toList_append]
  exact SpellsPadded.padded isSpace_nil (spells_pretty legal) (isSpace_newLine 0)

end Json

end MarkupAudit
