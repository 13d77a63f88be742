/-
# Message templates

A template is a text with placeholders: a percent sign and a number, which stands for the
parameter with that number, counted from one. The number is taken as long as it goes. A
placeholder without a parameter, and a percent sign without a number, stay as they are, and
what is put in for a placeholder is not looked at again.
-/

namespace MarkupAudit.Template

/-- A decimal digit of ASCII. -/
def isDigit (c : Char) : Bool := '0' ≤ c && c ≤ '9'

/-- The number that digits denote; no digits denote zero. -/
def number (digits : List Char) : Nat :=
  digits.foldl (fun value c => value * 10 + (c.toNat - '0'.toNat)) 0

/-- What stands for a placeholder with given digits. -/
def placeholder (params : List String) (digits : List Char) : List Char :=
  match number digits with
  | 0 => '%' :: digits
  | place + 1 =>
      match params[place]? with
      | some param => param.toList
      | none => '%' :: digits

/-- Put parameters in for the placeholders of a text. -/
def fill (params : List String) : List Char → List Char
  | [] => []
  | c :: rest =>
      if c = '%' then
        placeholder params (rest.takeWhile isDigit) ++ fill params (rest.dropWhile isDigit)
      else c :: fill params rest
termination_by text => text.length
decreasing_by
  · have := (List.dropWhile_sublist isDigit (l := rest)).length_le
    simp only [List.length_cons]
    omega
  · simp

/-- The message that a template gives for some parameters. -/
def format (template : String) (params : List String) : String :=
  String.ofList (fill params template.toList)

end MarkupAudit.Template
