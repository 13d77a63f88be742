/-
# Numbers and dates in TOML

The values that are written without quotes and brackets: truth values, numbers in four bases,
fractions, and dates and times. What is read is only of which kind such a word is, but a word
that is none of them, such as a number with a needless zero or a thirtieth of February, is
refused. A fraction must be a finite double, a whole number one of a hundred and twenty-eight
bits.
-/

import MarkupAudit.Json.Magnitude
import MarkupAudit.Text.Basic
import MarkupAudit.Toml.Tree

namespace MarkupAudit.Toml

/-- A decimal digit. -/
def isDigit (c : Char) : Bool := '0' ≤ c && c ≤ '9'

/-- The digits of a run in which single underscores may stand between digits. -/
def digitsOf (isDigit : Char → Bool) : Bool → List Char → Option (List Char)
  | afterDigit, [] => if afterDigit then some [] else none
  | afterDigit, c :: rest =>
      if isDigit c then (digitsOf isDigit true rest).map (c :: ·)
      else if c == '_' && afterDigit then digitsOf isDigit false rest
      else none

/-- The number that digits denote in a base. -/
def valueIn (base : Nat) (digits : List Char) : Nat :=
  digits.foldl (fun value c => value * base + (Text.hexDigit? c).getD 0) 0

/-- Digits without a needless zero in front. -/
def plainDigits (word : List Char) : Option (List Char) :=
  match digitsOf isDigit false word with
  | some ('0' :: _ :: _) => none
  | digits => digits

/-- A word without its sign, and whether the sign was a minus. -/
def splitSign : List Char → Bool × List Char
  | '+' :: word => (false, word)
  | '-' :: word => (true, word)
  | word => (false, word)

/-- A whole number, in decimal with a sign or in another base without one. -/
def isInteger (word : List Char) : Bool :=
  let inBase (base : Nat) (isDigit : Char → Bool) (word : List Char) :=
    (digitsOf isDigit false word).any fun digits => valueIn base digits < Nat.pow 2 128
  match word with
  | '0' :: 'x' :: word => inBase 16 (fun c => (Text.hexDigit? c).isSome) word
  | '0' :: 'o' :: word => inBase 8 (fun c => '0' ≤ c && c ≤ '7') word
  | '0' :: 'b' :: word => inBase 2 (fun c => c == '0' || c == '1') word
  | word =>
      let (negative, word) := splitSign word
      (plainDigits word).any fun digits =>
        let value := valueIn 10 digits
        if negative then value ≤ Nat.pow 2 127 else value < Nat.pow 2 128

/-- A number of given digits times a power of ten is a finite double. -/
def isFiniteScaled (digits : List Char) (power : Int) : Bool :=
  let value := valueIn 10 digits
  let length : Int := digits.length
  value == 0 || length + power < 300 ||
    (power ≤ 400 &&
      value * Nat.pow 10 power.toNat < doubleLimit * Nat.pow 10 (-power).toNat)

/-- The whole part, the digits after the point and the power of ten of a fraction. -/
def isFraction (word : List Char) : Bool :=
  let (_, word) := splitSign word
  if word == ['i', 'n', 'f'] || word == ['n', 'a', 'n'] then true
  else
    let isMark (c : Char) := c == 'e' || c == 'E'
    let base := word.takeWhile fun c => !isMark c
    let exponent := word.dropWhile fun c => !isMark c
    let whole := base.takeWhile (· != '.')
    let point := base.dropWhile (· != '.')
    let power : Option Int := match exponent with
      | [] => some 0
      | _ :: exponent =>
          let (negative, exponent) := splitSign exponent
          (digitsOf isDigit false exponent).map fun digits =>
            if negative then -(valueIn 10 digits : Int) else valueIn 10 digits
    let fraction : Option (List Char) := match point with
      | [] => some []
      | _ :: digits => digitsOf isDigit false digits
    match plainDigits whole, fraction, power with
    | some whole, some fraction, some power =>
        !(point.isEmpty && exponent.isEmpty) &&
          isFiniteScaled (whole ++ fraction) (power - fraction.length)
    | _, _, _ => false

/-- A number of exactly two digits. -/
def twoDigits? : List Char → Option Nat
  | [a, b] => if isDigit a && isDigit b then some (valueIn 10 [a, b]) else none
  | _ => none

/-- A year has a twenty-ninth of February. -/
def isLeap (year : Nat) : Bool :=
  year % 4 == 0 && (year % 100 != 0 || year % 400 == 0)

/-- The number of days of a month. -/
def daysIn (year month : Nat) : Nat :=
  if month == 2 then (if isLeap year then 29 else 28)
  else if month == 4 || month == 6 || month == 9 || month == 11 then 30
  else 31

/-- A date: year, month and day, with hyphens between them. -/
def isDate (word : List Char) : Bool :=
  match word with
  | [a, b, c, d, '-', e, f, '-', g, h] =>
      match twoDigits? [a, b], twoDigits? [c, d], twoDigits? [e, f], twoDigits? [g, h] with
      | some century, some year, some month, some day =>
          1 ≤ month && month ≤ 12 && 1 ≤ day && day ≤ daysIn (century * 100 + year) month
      | _, _, _, _ => false
  | _ => false

/-- A time of day: hours and minutes, and possibly seconds and a fraction of a second. -/
def isTime (word : List Char) : Bool :=
  let below (limit : Nat) (word : List Char) := (twoDigits? word).any (· < limit)
  match word with
  | a :: b :: ':' :: c :: d :: rest =>
      below 24 [a, b] && below 60 [c, d] &&
        match rest with
        | [] => true
        | ':' :: e :: f :: rest =>
            below 61 [e, f] &&
              match rest with
              | [] => true
              | '.' :: digits => !digits.isEmpty && digits.all isDigit
              | _ => false
        | _ => false
  | _ => false

/-- How far a clock is ahead of or behind universal time. -/
def isOffset (word : List Char) : Bool :=
  match word with
  | ['Z'] | ['z'] => true
  | sign :: a :: b :: ':' :: c :: d :: [] =>
      (sign == '+' || sign == '-') && (twoDigits? [a, b]).any (· < 24) &&
        (twoDigits? [c, d]).any (· < 60)
  | _ => false

/-- A date, a time, or both, of which the last may have an offset. -/
def isMoment (word : List Char) : Bool :=
  isDate word || isTime word ||
    match word.drop 10 with
    | mark :: rest =>
        let time := rest.takeWhile fun c => isDigit c || c == ':' || c == '.'
        let offset := rest.dropWhile fun c => isDigit c || c == ':' || c == '.'
        (mark == 'T' || mark == 't' || mark == ' ') && isDate (word.take 10) && isTime time &&
          (offset.isEmpty || isOffset offset)
    | [] => false

/-- The value of a word without quotes, if it has one. -/
def ofWord? (word : List Char) : Option Toml :=
  if word == ['t', 'r', 'u', 'e'] then some (.bool true)
  else if word == ['f', 'a', 'l', 's', 'e'] then some (.bool false)
  else if isInteger word || isFraction word then some .number
  else if isMoment word then some .moment
  else none

end MarkupAudit.Toml
