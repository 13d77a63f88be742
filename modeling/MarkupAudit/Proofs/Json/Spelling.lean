/-
# The texts of JSON values

Which texts spell a value, as a grammar that leaves every freedom there is: white space between the
parts, each character of a string as it stands or escaped in any of the ways there are for it,
hexadecimal digits in either case, and powers of ten with any sign and any zeros in front. A value
has many texts. The grammar knows nothing of reading, and it shares the numerals' digits with the
printer only.

A number has to be finite. How deep containers are nested is said of the value, since it does not
depend on the text.
-/

import MarkupAudit.Json.Magnitude
import MarkupAudit.Json.Printer

namespace MarkupAudit.Json

/-! ## White space, digits and characters -/

/-- What may stand between the parts of a text: blanks, tabs and line breaks. -/
def IsSpace (text : List Char) : Prop :=
  ∀ c ∈ text, c = ' ' ∨ c = '\t' ∨ c = '\n' ∨ c = '\r'

theorem isSpace_nil : IsSpace [] := nofun

/-- One or more decimal digits. -/
def AreDigits (text : List Char) : Prop :=
  text ≠ [] ∧ ∀ c ∈ text, c.isDigit = true

/-- A character is the hexadecimal digit for a number, in either case. -/
def IsHexDigit (digit : Nat) (c : Char) : Prop :=
  c = hexChar digit ∨ c = (hexChar digit).toUpper

/-- Four hexadecimal digits spell a number below 2^16. -/
inductive SpellsUnit (unit : Nat) : List Char → Prop where
  | digits {a b c d : Char} : unit < 0x10000 → IsHexDigit (unit / 0x1000) a →
      IsHexDigit (unit / 0x100 % 0x10) b → IsHexDigit (unit / 0x10 % 0x10) c →
        IsHexDigit (unit % 0x10) d → SpellsUnit unit [a, b, c, d]

/-- The letters that may follow a backslash, with the characters for which they stand. -/
def letters : List (Char × Char) :=
  [('"', '"'), ('\\', '\\'), ('/', '/'), ('b', '\x08'), ('f', '\x0c'), ('n', '\n'), ('r', '\r'),
    ('t', '\t')]

/-- A text stands for a character inside a string. -/
inductive SpellsChar (c : Char) : List Char → Prop where
  | plain : c ≠ '"' → c ≠ '\\' → 0x20 ≤ c.toNat → SpellsChar c [c]
  | letter {letter : Char} : (letter, c) ∈ letters → SpellsChar c ['\\', letter]
  | unit {digits : List Char} : SpellsUnit c.toNat digits → SpellsChar c ('\\' :: 'u' :: digits)
  /-- A character beyond the first 2^16 is written as two units, each with ten bits of what its
  number exceeds them by. -/
  | pair {first second : List Char} : 0x10000 ≤ c.toNat →
      SpellsUnit (0xd800 + (c.toNat - 0x10000) / 0x400) first →
        SpellsUnit (0xdc00 + (c.toNat - 0x10000) % 0x400) second →
          SpellsChar c ('\\' :: 'u' :: first ++ '\\' :: 'u' :: second)

/-- A text stands for some characters inside a string. -/
inductive SpellsChars : List Char → List Char → Prop where
  | nil : SpellsChars [] []
  | cons {c : Char} {chars text more : List Char} : SpellsChar c text → SpellsChars chars more →
      SpellsChars (c :: chars) (text ++ more)

/-- A text spells a string. -/
inductive SpellsString (string : String) : List Char → Prop where
  | quoted {inner : List Char} : SpellsChars string.toList inner →
      SpellsString string ('"' :: inner ++ ['"'])

/-- A character that needs no escape. -/
def isPlain (c : Char) : Bool := c != '"' && c != '\\' && 0x20 ≤ c.toNat

/-- Plain characters may stand as they are. -/
theorem spellsChars_self {chars : List Char} (plain : chars.all isPlain = true) :
    SpellsChars chars chars := by
  induction chars with
  | nil => exact .nil
  | cons c chars ih =>
      simp only [List.all_cons, isPlain, Bool.and_eq_true, bne_iff_ne, decide_eq_true_eq] at plain
      exact .cons (.plain plain.1.1.1 plain.1.1.2 plain.1.2) (ih plain.2)

/-! ## Numbers -/

/-- What follows the whole part of a number, for given digits after the point. -/
inductive SpellsFraction : List Char → List Char → Prop where
  | absent : SpellsFraction [] []
  | digits {digits : List Char} : AreDigits digits → SpellsFraction digits ('.' :: digits)

/-- The mark before a power of ten. -/
def IsMark (c : Char) : Prop := c = 'e' ∨ c = 'E'

/-- What stands at the end of a number, for a given power of ten. -/
inductive SpellsExponent : Option Int → List Char → Prop where
  | absent : SpellsExponent none []
  | unsigned {mark : Char} {digits : List Char} : IsMark mark → AreDigits digits →
      SpellsExponent (some (Nat.ofDigitChars 10 digits 0)) (mark :: digits)
  | plus {mark : Char} {digits : List Char} : IsMark mark → AreDigits digits →
      SpellsExponent (some (Nat.ofDigitChars 10 digits 0)) (mark :: '+' :: digits)
  | minus {mark : Char} {digits : List Char} : IsMark mark → AreDigits digits →
      SpellsExponent (some (-Nat.ofDigitChars 10 digits 0)) (mark :: '-' :: digits)

/-- A text spells a number. Its whole part has no needless zero in front. -/
inductive SpellsNumeral (numeral : Numeral) : List Char → Prop where
  | parts {fraction exponent : List Char} : SpellsFraction numeral.fraction fraction →
      SpellsExponent numeral.exponent exponent →
        SpellsNumeral numeral ((if numeral.negative then ['-'] else []) ++
          Nat.toDigits 10 numeral.whole ++ fraction ++ exponent)

/-! ## Values -/

mutual

/-- A text spells a value. -/
inductive Spells : Json → List Char → Prop where
  | null : Spells .null ['n', 'u', 'l', 'l']
  | yes : Spells (.bool true) ['t', 'r', 'u', 'e']
  | no : Spells (.bool false) ['f', 'a', 'l', 's', 'e']
  | number {numeral : Numeral} {text : List Char} : SpellsNumeral numeral text →
      numeral.isFinite = true → Spells (.number numeral) text
  | string {string : String} {text : List Char} : SpellsString string text →
      Spells (.string string) text
  | emptyArray {space : List Char} : IsSpace space → Spells (.array []) ('[' :: space ++ [']'])
  | array {items : List Json} {inner : List Char} : SpellsItems items inner →
      Spells (.array items) ('[' :: inner ++ [']'])
  | emptyObject {space : List Char} : IsSpace space →
      Spells (.object []) ('\x7b' :: space ++ ['\x7d'])
  | object {members : List (String × Json)} {inner : List Char} : SpellsMembers members inner →
      Spells (.object members) ('\x7b' :: inner ++ ['\x7d'])

/-- A text spells a value, with white space around it. -/
inductive SpellsPadded : Json → List Char → Prop where
  | padded {value : Json} {before text after : List Char} : IsSpace before → Spells value text →
      IsSpace after → SpellsPadded value (before ++ text ++ after)

/-- A text spells some items, at least one, with commas between them. -/
inductive SpellsItems : List Json → List Char → Prop where
  | last {item : Json} {text : List Char} : SpellsPadded item text → SpellsItems [item] text
  | cons {item : Json} {items : List Json} {text more : List Char} : SpellsPadded item text →
      SpellsItems items more → SpellsItems (item :: items) (text ++ ',' :: more)

/-- A text spells a member. -/
inductive SpellsMember : String × Json → List Char → Prop where
  | member {key : String} {value : Json} {before name after text : List Char} : IsSpace before →
      SpellsString key name → IsSpace after → SpellsPadded value text →
        SpellsMember (key, value) (before ++ name ++ after ++ ':' :: text)

/-- A text spells some members, at least one, with commas between them. -/
inductive SpellsMembers : List (String × Json) → List Char → Prop where
  | last {member : String × Json} {text : List Char} : SpellsMember member text →
      SpellsMembers [member] text
  | cons {member : String × Json} {members : List (String × Json)} {text more : List Char} :
      SpellsMember member text → SpellsMembers members more →
        SpellsMembers (member :: members) (text ++ ',' :: more)

end

/-- No white space is needed around a value. -/
theorem Spells.padded {value : Json} {text : List Char} (spells : Spells value text) :
    SpellsPadded value text := by
  have padded := SpellsPadded.padded isSpace_nil spells isSpace_nil
  rwa [List.nil_append, List.append_nil] at padded

theorem le_ofDigitChars (digits : List Char) (value : Nat) :
    value ≤ Nat.ofDigitChars 10 digits value := by
  induction digits generalizing value with
  | nil => exact Nat.le_refl value
  | cons c digits ih =>
      rw [Nat.ofDigitChars_cons]
      exact Nat.le_trans (by omega) (ih _)

/-- Digits of a number below 2^64 are all read. -/
theorem absorb_eq (digits : List Char) (value : Nat)
    (small : Nat.ofDigitChars 10 digits value < Nat.pow 2 64) :
    Numeral.absorb value digits = (Nat.ofDigitChars 10 digits value, []) := by
  induction digits generalizing value with
  | nil => rfl
  | cons c digits ih =>
      rw [Nat.ofDigitChars_cons, Nat.mul_comm] at small ⊢
      rw [Numeral.absorb, Numeral.digitValue]
      exact (if_pos (Nat.lt_of_le_of_lt (le_ofDigitChars digits _) small)).trans (ih _ small)

theorem ofDigitChars_toDigits (n : Nat) : Nat.ofDigitChars 10 (Nat.toDigits 10 n) 0 = n :=
  Nat.ofDigitChars_toDigits (by decide) (by decide)

theorem isFinite_ofNat {n : Nat} (small : n < Nat.pow 2 64) :
    (Numeral.ofNat n).isFinite = true := by
  have whole := absorb_eq (Nat.toDigits 10 n) 0 (by rwa [ofDigitChars_toDigits])
  rw [ofDigitChars_toDigits] at whole
  simp [Numeral.isFinite, Numeral.leading, Numeral.ofNat, whole, Numeral.absorb]

/-- A natural number below 2^64 is spelled by its digits. -/
theorem spells_natural {n : Nat} (small : n < Nat.pow 2 64) :
    Spells (.natural n) (Nat.toDigits 10 n) := by
  have spells : SpellsNumeral (.ofNat n) ([] ++ Nat.toDigits 10 n ++ [] ++ []) :=
    .parts .absent .absent
  rw [List.append_nil, List.append_nil] at spells
  exact .number spells (isFinite_ofNat small)

mutual

/-- The number of containers that are nested in a value, with the value itself. -/
def depth : Json → Nat
  | .array items => depthOfItems items + 1
  | .object members => depthOfMembers members + 1
  | _ => 0

/-- The greatest depth of some items. -/
def depthOfItems : List Json → Nat
  | [] => 0
  | item :: items => max (depth item) (depthOfItems items)

/-- The greatest depth of the values of some members. -/
def depthOfMembers : List (String × Json) → Nat
  | [] => 0
  | (_, value) :: members => max (depth value) (depthOfMembers members)

end

theorem depthOfItems_le {items : List Json} {bound : Nat}
    (shallow : ∀ item ∈ items, item.depth ≤ bound) : depthOfItems items ≤ bound := by
  induction items with
  | nil => exact Nat.zero_le bound
  | cons item items ih =>
      rw [List.forall_mem_cons] at shallow
      exact Nat.max_le.mpr ⟨shallow.1, ih shallow.2⟩

theorem depthOfMembers_le {members : List (String × Json)} {bound : Nat}
    (shallow : ∀ member ∈ members, member.2.depth ≤ bound) : depthOfMembers members ≤ bound := by
  induction members with
  | nil => exact Nat.zero_le bound
  | cons member members ih =>
      rw [List.forall_mem_cons] at shallow
      exact Nat.max_le.mpr ⟨shallow.1, ih shallow.2⟩

theorem depth_optional_le {α : Type} {encode : α → Json} {bound : Nat}
    (shallow : ∀ a, (encode a).depth ≤ bound) (value : Option α) :
    (optional encode value).depth ≤ bound := by
  cases value with
  | none => exact Nat.zero_le bound
  | some a => exact shallow a

end MarkupAudit.Json
