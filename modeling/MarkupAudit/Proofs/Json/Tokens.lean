/-
# Reading strings and numbers

What spells a string is read as this string up to its closing quote, and what spells a number as
this number up to the first character that cannot belong to it. Numbers are why a reader has to
look at what comes next: all other values end where they say so themselves.
-/

import MarkupAudit.Json.Reader
import MarkupAudit.Proofs.Json.Spelling

namespace MarkupAudit.Json

theorem ok_bind {ε α β : Type} (result : α) (next : α → Except ε β) :
    (Except.ok result >>= next) = next result := rfl

/-! ## Strings -/

theorem hexDigit?_hexChar : ∀ digit < 0x10,
    Text.hexDigit? (hexChar digit) = some digit ∧
      Text.hexDigit? (hexChar digit).toUpper = some digit := by
  decide

theorem IsHexDigit.hexDigit?_eq {digit : Nat} {c : Char} (spells : IsHexDigit digit c)
    (small : digit < 0x10) : Text.hexDigit? c = some digit := by
  rcases spells with rfl | rfl
  · exact (hexDigit?_hexChar digit small).1
  · exact (hexDigit?_hexChar digit small).2

theorem readHex_of_spells {unit : Nat} {digits : List Char} (spells : SpellsUnit unit digits)
    (rest : List Char) : readHex (digits ++ rest) = .ok (unit, rest) := by
  obtain ⟨small, first, second, third, fourth⟩ := spells
  have number : ((unit / 0x1000 * 16 + unit / 0x100 % 0x10) * 16 + unit / 0x10 % 0x10) * 16 +
      unit % 0x10 = unit := by
    omega
  simp only [List.cons_append, List.nil_append, readHex, first.hexDigit?_eq (by omega),
    second.hexDigit?_eq (by omega), third.hexDigit?_eq (by omega), fourth.hexDigit?_eq (by omega),
    number]

theorem readEscape_letter {letter c : Char} (listed : (letter, c) ∈ letters) (rest : List Char) :
    readEscape (letter :: rest) = .ok (c, rest) := by
  simp only [letters, List.mem_cons, Prod.mk.injEq, List.not_mem_nil, or_false] at listed
  rcases listed with ⟨rfl, rfl⟩ | ⟨rfl, rfl⟩ | ⟨rfl, rfl⟩ | ⟨rfl, rfl⟩ | ⟨rfl, rfl⟩ | ⟨rfl, rfl⟩ |
    ⟨rfl, rfl⟩ | ⟨rfl, rfl⟩ <;> rfl

/-- A character is none of the halves of surrogate pairs. -/
theorem not_surrogate (c : Char) :
    isLowSurrogate c.toNat = false ∧ isHighSurrogate c.toNat = false := by
  have valid := c.valid
  simp only [UInt32.isValidChar, Nat.isValidChar] at valid
  have same : c.toNat = c.val.toNat := rfl
  simp only [isLowSurrogate, isHighSurrogate, Bool.and_eq_false_iff, decide_eq_false_iff_not]
  omega

theorem readEscape_unit {c : Char} {digits : List Char} (spells : SpellsUnit c.toNat digits)
    (rest : List Char) : readEscape ('u' :: digits ++ rest) = .ok (c, rest) := by
  obtain ⟨low, high⟩ := not_surrogate c
  rw [List.cons_append, readEscape, readHex_of_spells spells, ok_bind]
  dsimp only
  rw [low, high, if_neg Bool.false_ne_true, if_neg Bool.false_ne_true, Char.ofNat_toNat]

theorem readEscape_pair {c : Char} {first second : List Char} (beyond : 0x10000 ≤ c.toNat)
    (high : SpellsUnit (0xd800 + (c.toNat - 0x10000) / 0x400) first)
    (low : SpellsUnit (0xdc00 + (c.toNat - 0x10000) % 0x400) second) (rest : List Char) :
    readEscape ('u' :: first ++ '\\' :: 'u' :: second ++ rest) = .ok (c, rest) := by
  have limit : c.toNat < 0x110000 := by
    have valid := c.valid
    simp only [UInt32.isValidChar, Nat.isValidChar] at valid
    have same : c.toNat = c.val.toNat := rfl
    omega
  generalize upper : (c.toNat - 0x10000) / 0x400 = quotient at high
  generalize lower : (c.toNat - 0x10000) % 0x400 = remainder at low
  have number : 0x10000 + (0xd800 + quotient - 0xd800) * 0x400 + (0xdc00 + remainder - 0xdc00) =
      c.toNat := by
    omega
  have opens : isLowSurrogate (0xd800 + quotient) = false ∧
      isHighSurrogate (0xd800 + quotient) = true := by
    simp only [isLowSurrogate, isHighSurrogate, Bool.and_eq_false_iff, Bool.and_eq_true,
      decide_eq_true_eq, decide_eq_false_iff_not]
    omega
  have closes : isLowSurrogate (0xdc00 + remainder) = true := by
    simp only [isLowSurrogate, Bool.and_eq_true, decide_eq_true_eq]
    omega
  rw [List.append_assoc, List.cons_append, readEscape, readHex_of_spells high, ok_bind]
  dsimp only
  rw [opens.1, opens.2, if_neg Bool.false_ne_true, if_pos rfl, List.cons_append, List.cons_append,
    readLowSurrogate, readHex_of_spells low, ok_bind]
  dsimp only
  rw [closes, if_pos rfl, number, Char.ofNat_toNat]

/-- What stands for a character is read as this character, and the reading goes on. -/
theorem readChars_of_spells {c : Char} {text : List Char} (spells : SpellsChar c text)
    (steps : Nat) (rest : List Char) :
    readChars (steps + 1) (text ++ rest) =
      (readChars steps rest).map fun result => (c :: result.1, result.2) := by
  have escaped {text : List Char} (read : readEscape (text ++ rest) = .ok (c, rest)) :
      readChars (steps + 1) ('\\' :: text ++ rest) =
        (readChars steps rest).map fun result => (c :: result.1, result.2) := by
    rw [List.cons_append, readChars, if_neg (by decide), if_pos (by decide), read]
    show (readChars steps rest >>= _) = _
    cases readChars steps rest <;> rfl
  cases spells with
  | plain quote backslash control =>
      rw [List.singleton_append, readChars, if_neg (by simpa using quote),
        if_neg (by simpa using backslash), if_neg (Nat.not_lt.mpr control)]
      cases readChars steps rest <;> rfl
  | letter listed => exact escaped (readEscape_letter listed rest)
  | unit digits => exact escaped (readEscape_unit digits rest)
  | pair beyond high low => exact escaped (readEscape_pair beyond high low rest)

theorem SpellsChar.length_pos {c : Char} {text : List Char} (spells : SpellsChar c text) :
    0 < text.length := by
  cases spells <;> simp

theorem readChars_of_spellsChars {chars inner : List Char} (spells : SpellsChars chars inner)
    {steps : Nat} (enough : inner.length < steps) (rest : List Char) :
    readChars steps (inner ++ '"' :: rest) = .ok (chars, rest) := by
  induction spells generalizing steps with
  | nil =>
      obtain ⟨fewer, rfl⟩ := Nat.exists_eq_succ_of_ne_zero (Nat.ne_of_gt enough)
      rfl
  | cons first _ ih =>
      have shorter := first.length_pos
      rw [List.length_append] at enough
      obtain ⟨fewer, rfl⟩ : ∃ fewer, steps = fewer + 1 := ⟨steps - 1, by omega⟩
      rw [List.append_assoc, readChars_of_spells first, ih (by omega)]
      rfl

/-- A string is read up to its closing quote. -/
theorem readString_of_spells {string : String} {inner : List Char}
    (spells : SpellsChars string.toList inner) (rest : List Char) :
    readString (inner ++ '"' :: rest) = .ok (string, rest) := by
  have enough : inner.length < (inner ++ '"' :: rest).length + 1 := by
    rw [List.length_append]
    omega
  rw [readString, readChars_of_spellsChars spells enough, ok_bind]
  dsimp only
  rw [String.ofList_toList]

/-! ## Numbers -/

/-- The first character of a text, if there is one, is none of a given kind. -/
def Avoids (kind : Char → Bool) (text : List Char) : Prop :=
  ∀ c ∈ text.head?, kind c = false

theorem avoids_nil (kind : Char → Bool) : Avoids kind [] := nofun

theorem avoids_cons {kind : Char → Bool} {c : Char} {text : List Char} :
    Avoids kind (c :: text) ↔ kind c = false := by
  simp [Avoids]

theorem Avoids.mono {wide narrow : Char → Bool} {text : List Char} (avoids : Avoids wide text)
    (inside : ∀ c, wide c = false → narrow c = false) : Avoids narrow text :=
  fun c first => inside c (avoids c first)

theorem decimal_eq (digits : List Char) : decimal digits = Nat.ofDigitChars 10 digits 0 := by
  simp only [decimal, Nat.ofDigitChars, Nat.mul_comm, Numeral.digitValue]

/-- Digits are read up to the first other character. -/
theorem readDigits_of_areDigits {digits rest : List Char} (areDigits : AreDigits digits)
    (ended : Avoids isDigit rest) : readDigits (digits ++ rest) = .ok (digits, rest) := by
  obtain ⟨present, all⟩ := areDigits
  have ends : rest.takeWhile isDigit = [] ∧ rest.dropWhile isDigit = rest := by
    cases rest with
    | nil => exact ⟨rfl, rfl⟩
    | cons c rest =>
        have other := avoids_cons.mp ended
        exact ⟨List.takeWhile_cons_of_neg (by simp [other]),
          List.dropWhile_cons_of_neg (by simp [other])⟩
  have read : ∀ c ∈ digits, isDigit c = true := all
  rw [readDigits, List.takeWhile_append_of_pos read, List.dropWhile_append_of_pos read, ends.1,
    ends.2, List.append_nil]
  cases digits with
  | nil => contradiction
  | cons c digits => rfl

theorem areDigits_toDigits (n : Nat) : AreDigits (Nat.toDigits 10 n) :=
  ⟨Nat.toDigits_ne_nil, fun _ => Nat.isDigit_of_mem_toDigits (by decide) (by decide)⟩

/-- The digits of a number of more than one digit do not begin with a zero. -/
theorem toDigits_ne_zero_cons (n : Nat) (c : Char) (rest : List Char) :
    Nat.toDigits 10 n ≠ '0' :: c :: rest := by
  induction n using Nat.strongRecOn generalizing c rest with
  | ind n ih =>
      intro zero
      by_cases small : n < 10
      · have one := congrArg List.length zero
        rw [Nat.toDigits_of_lt_base small] at one
        simp at one
      · rw [Nat.toDigits_of_base_le (by decide) (Nat.le_of_not_lt small)] at zero
        have front : n / 10 = Nat.ofDigitChars 10 (Nat.toDigits 10 (n / 10)) 0 :=
          (Nat.ofDigitChars_toDigits (by decide) (by decide)).symm
        cases digits : Nat.toDigits 10 (n / 10) with
        | nil => exact Nat.toDigits_ne_nil digits
        | cons first more =>
            rw [digits, List.cons_append, List.cons.injEq] at zero
            rw [digits, zero.1] at front
            cases more with
            | nil =>
                have none : n / 10 = 0 := front
                omega
            | cons second others =>
                rw [zero.1] at digits
                exact ih (n / 10) (by omega) second others digits

theorem readWhole_toDigits (n : Nat) {rest : List Char} (ended : Avoids isDigit rest) :
    readWhole (Nat.toDigits 10 n ++ rest) = .ok (n, rest) := by
  have value : decimal (Nat.toDigits 10 n) = n := by
    rw [decimal_eq, Nat.ofDigitChars_toDigits (by decide) (by decide)]
  rw [readWhole, readDigits_of_areDigits (areDigits_toDigits n) ended, ok_bind]
  dsimp only
  split
  · rename_i c more zero
    exact absurd zero (toDigits_ne_zero_cons n c more)
  · rw [value]

theorem readFraction_of_spells {digits text : List Char} (spells : SpellsFraction digits text)
    {rest : List Char} (noDigit : Avoids isDigit rest) (noPoint : Avoids (· == '.') rest) :
    readFraction (text ++ rest) = .ok (digits, rest) := by
  cases spells with
  | absent =>
      cases rest with
      | nil => rfl
      | cons c rest =>
          have other : c ≠ '.' := by simpa using avoids_cons.mp noPoint
          rw [List.nil_append, readFraction]
          intro more point
          exact other (List.cons.inj point).1
  | digits areDigits =>
      rw [List.cons_append, readFraction, readDigits_of_areDigits areDigits noDigit]

/-- A digit is no sign. -/
theorem isDigit_ne_sign {c : Char} (digit : isDigit c = true) : c ≠ '+' ∧ c ≠ '-' := by
  constructor <;> rintro rfl <;> exact absurd digit (by decide)

theorem readExponent_of_spells {power : Option Int} {text : List Char}
    (spells : SpellsExponent power text) {rest : List Char} (noDigit : Avoids isDigit rest)
    (noMark : Avoids (fun c => c == 'e' || c == 'E') rest) :
    readExponent (text ++ rest) = .ok (power, rest) := by
  have marked {mark : Char} (isMark : IsMark mark) : (mark == 'e' || mark == 'E') = true := by
    simpa [IsMark] using isMark
  unfold readExponent
  cases spells with
  | absent =>
      cases rest with
      | nil => rfl
      | cons c rest =>
          have other := avoids_cons.mp noMark
          rw [List.nil_append]
          dsimp only
          rw [other, if_neg Bool.false_ne_true]
  | @unsigned mark digits isMark areDigits =>
      have read := readDigits_of_areDigits areDigits noDigit
      obtain ⟨present, all⟩ := areDigits
      cases digits with
      | nil => contradiction
      | cons c digits =>
          obtain ⟨noPlus, noMinus⟩ := isDigit_ne_sign (all c List.mem_cons_self)
          rw [List.cons_append] at read
          simp only [List.cons_append, if_pos (marked isMark)]
          split
          next more sign => exact absurd (List.cons.inj sign).1 noPlus
          next more sign => exact absurd (List.cons.inj sign).1 noMinus
          next =>
            rw [read, ok_bind, decimal_eq]
            rfl
  | plus isMark areDigits =>
      simp only [List.cons_append, if_pos (marked isMark),
        readDigits_of_areDigits areDigits noDigit, ok_bind, decimal_eq]
      rfl
  | minus isMark areDigits =>
      simp only [List.cons_append, if_pos (marked isMark),
        readDigits_of_areDigits areDigits noDigit, ok_bind, decimal_eq]
      rfl

/-- A character that may stand in a number after its first digit. -/
def continuesNumber (c : Char) : Bool := isDigit c || c == '.' || c == 'e' || c == 'E'

theorem continuesNumber_eq_false {c : Char} (other : continuesNumber c = false) :
    isDigit c = false ∧ (c == '.') = false ∧ (c == 'e' || c == 'E') = false := by
  simp only [continuesNumber, Bool.or_eq_false_iff] at other ⊢
  exact ⟨other.1.1.1, other.1.1.2, other.1.2, other.2⟩

/-- At the end of a number, neither a digit nor a point can follow its fraction. -/
theorem SpellsExponent.avoids {power : Option Int} {text : List Char}
    (spells : SpellsExponent power text) {rest : List Char} (ended : Avoids continuesNumber rest) :
    Avoids isDigit (text ++ rest) ∧ Avoids (· == '.') (text ++ rest) := by
  have marked {mark : Char} {more : List Char} (isMark : IsMark mark) :
      Avoids isDigit (mark :: more) ∧ Avoids (· == '.') (mark :: more) := by
    rcases isMark with rfl | rfl <;>
      exact ⟨avoids_cons.mpr (by decide), avoids_cons.mpr (by decide)⟩
  cases spells with
  | absent =>
      exact ⟨ended.mono fun _ other => (continuesNumber_eq_false other).1,
        ended.mono fun _ other => (continuesNumber_eq_false other).2.1⟩
  | unsigned isMark => exact marked isMark
  | plus isMark => exact marked isMark
  | minus isMark => exact marked isMark

theorem SpellsFraction.avoids {digits text : List Char} (spells : SpellsFraction digits text)
    {rest : List Char} (ended : Avoids isDigit rest) : Avoids isDigit (text ++ rest) := by
  cases spells with
  | absent => exact ended
  | digits => exact avoids_cons.mpr (by decide)

/-- A number is read up to the first character that cannot belong to it. -/
theorem readNumber_of_spells {numeral : Numeral} {fraction exponent rest : List Char}
    (spellsFraction : SpellsFraction numeral.fraction fraction)
    (spellsExponent : SpellsExponent numeral.exponent exponent) (finite : numeral.isFinite = true)
    (ended : Avoids continuesNumber rest) :
    readNumber numeral.negative (Nat.toDigits 10 numeral.whole ++ fraction ++ exponent ++ rest) =
      .ok (.number numeral, rest) := by
  obtain ⟨noDigit, noPoint⟩ := spellsExponent.avoids ended
  have whole := readWhole_toDigits numeral.whole (spellsFraction.avoids noDigit)
  have power := readExponent_of_spells spellsExponent
    (ended.mono fun _ other => (continuesNumber_eq_false other).1)
    (ended.mono fun _ other => (continuesNumber_eq_false other).2.2)
  rw [List.append_assoc, List.append_assoc, readNumber, whole, ok_bind]
  dsimp only
  rw [readFraction_of_spells spellsFraction noDigit noPoint, ok_bind]
  dsimp only
  rw [power, ok_bind]
  dsimp only
  rw [if_pos finite]

end MarkupAudit.Json
