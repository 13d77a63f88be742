/-
# Lower case

Tag names are compared in lower case. Every character has its own lower-case form, with two
exceptions that Unicode makes: the capital I with a dot above becomes two characters, and a
capital sigma becomes the final form of the small sigma at the end of a word, that is, where a
cased letter stands before it and none after it, ignorable characters apart.
-/

import MarkupAudit.Text.CaseTable

namespace MarkupAudit.Text

/-- The lower-case form of one code point beyond ASCII, where the table has one. -/
def lowerCode (code : Nat) : Nat :=
  match caseRuns.find? (·.covers code) with
  | some run => run.lower code
  | none => code

/-- The lower-case form of a character that stands alone. -/
def lowerChar (c : Char) : List Char :=
  if c.toNat < 0x80 then [c.toLower]
  else if c.toNat == 0x130 then ['i', Char.ofNat 0x307]
  else [Char.ofNat (lowerCode c.toNat)]

/-- The character has the property `Cased`. -/
def isCased (c : Char) : Bool :=
  if c.toNat < 0x80 then c.isAlpha else (CodeSet.ofTable casedTable).contains c.toNat

/-- The character has the property `Case_Ignorable`. -/
def isCaseIgnorable (c : Char) : Bool :=
  (CodeSet.ofTable caseIgnorableTable).contains c.toNat

/-- Among characters read away from a sigma, the first that counts is a cased letter. -/
def meetsCased (chars : List Char) : Bool :=
  match chars.dropWhile isCaseIgnorable with
  | [] => false
  | c :: _ => isCased c

/-- A sigma between `before`, read backwards, and `after` stands at the end of a word. -/
def isFinal (before after : List Char) : Bool :=
  meetsCased before && !meetsCased after

/-- Lower-case the rest of a text, of which `before` has been read, last character first. -/
def lowerFrom (before : List Char) : List Char → List Char
  | [] => []
  | c :: rest =>
      (if c = 'Σ' then [if isFinal before rest then 'ς' else 'σ'] else lowerChar c) ++
        lowerFrom (c :: before) rest

/-- The text in lower case. -/
def lowercase (text : String) : String :=
  String.ofList (lowerFrom [] text.toList)

end MarkupAudit.Text
