/-
# Named sets of characters

The sets of characters that a pattern can refer to by name: digits, spaces and word characters,
the ASCII classes in brackets, and the general categories, scripts and properties of Unicode.
Names are compared without regard to case, blanks, hyphens, underscores and a leading `is`.
A set is closed under case by adding the whole class of every letter in it.
-/

import MarkupAudit.Pattern.CategoryTable
import MarkupAudit.Pattern.FoldTable
import MarkupAudit.Pattern.PropertyTable
import MarkupAudit.Pattern.ScriptTable
import MarkupAudit.Text.CodeSet

namespace MarkupAudit.Pattern

open MarkupAudit.Text

/-- The union of several sets. -/
def unionAll (sets : List CodeSet) : CodeSet :=
  CodeSet.ofSpans (sets.flatMap (·.spans))

/-- The characters of one of the basic categories. -/
def basicCategory (name : String) : CodeSet :=
  unionAll ((categoryTables.filter (·.names.contains name)).map fun entry =>
    CodeSet.ofTable entry.table)

/-- All characters that no category table holds. -/
def unassigned : CodeSet :=
  (unionAll (categoryTables.map fun entry => CodeSet.ofTable entry.table)).compl

/-- The characters of a category, by any of its names. -/
def category? (name : String) : Option CodeSet :=
  if name == "any" then some CodeSet.all
  else if name == "assigned" then some unassigned.compl
  else if name == "ascii" then some (CodeSet.range 0 0x7f)
  else if name == "cn" || name == "unassigned" then some unassigned
  else if name == "c" || name == "other" then
    some (unionAll [basicCategory "cc", basicCategory "cf", basicCategory "co", unassigned])
  else
    match categoryGroups.find? (·.names.contains name) with
    | some group => some (unionAll (group.members.map basicCategory))
    | none => (categoryTables.find? (·.names.contains name)).map fun entry =>
        CodeSet.ofTable entry.table

/-- The characters of a script, by any of its names. -/
def script? (name : String) : Option CodeSet :=
  (scriptTables.find? (·.names.contains name)).map fun entry => CodeSet.ofTable entry.table

/-- The characters that are used with a script, by any of its names. -/
def scriptExtension? (name : String) : Option CodeSet :=
  (scriptTables.find? (·.names.contains name)).map fun entry =>
    ((CodeSet.ofTable entry.table).union (CodeSet.ofTable entry.added)).diff
      (CodeSet.ofTable entry.removed)

/-- The characters with a property, by any of its names. -/
def property? (name : String) : Option CodeSet :=
  (propertyTables.find? (·.names.contains name)).map fun entry =>
    ((unionAll (entry.categories.map basicCategory)).union (CodeSet.ofTable entry.added)).diff
      (CodeSet.ofTable entry.removed)

/-- Without separators and characters beyond ASCII, in lower case. -/
def plainName (chars : List Char) : String :=
  String.ofList ((chars.filter fun c =>
    c != ' ' && c != '_' && c != '-' && c.toNat < 0x80).map Char.toLower)

/-- A name in the form in which the tables hold it. -/
def normalName (name : String) : String :=
  match name.toList with
  | 'i' :: 's' :: rest | 'I' :: 's' :: rest | 'i' :: 'S' :: rest | 'I' :: 'S' :: rest =>
      let plain := plainName rest
      if plain == "c" then "isc" else plain
  | chars => plainName chars

/-- The set with a name that says by itself of what kind it is. -/
def named? (name : String) : Option CodeSet :=
  let name := normalName name
  match property? name with
  | some set => some set
  | none =>
      match category? name with
      | some set => some set
      | none => script? name

/-- The set of a value of a property: a category, a script, or an extended script. -/
def valued? (property value : String) : Option CodeSet :=
  let property := normalName property
  let value := normalName value
  if property == "gc" || property == "generalcategory" then category? value
  else if property == "sc" || property == "script" then script? value
  else if property == "scx" || property == "scriptextensions" then scriptExtension? value
  else none

/-- The decimal digits of all scripts. -/
def digits : CodeSet := basicCategory "nd"

/-- White space. -/
def spaces : CodeSet := (property? "whitespace").getD CodeSet.none

/-- The characters that words are made of: letters, marks, digits, connectors, joiners. -/
def wordChars : CodeSet :=
  unionAll [(property? "alphabetic").getD CodeSet.none, (category? "m").getD CodeSet.none,
    digits, basicCategory "pc", (property? "joincontrol").getD CodeSet.none]

/-- The ASCII digits. -/
def asciiDigits : CodeSet := CodeSet.ofTable ["30-39"]

/-- The blanks and line breaks of ASCII. -/
def asciiSpaces : CodeSet := CodeSet.ofTable ["9-d 20"]

/-- The ASCII letters, digits and the underscore. -/
def asciiWordChars : CodeSet := CodeSet.ofTable ["30-39 41-5a 5f 61-7a"]

/-- The classes that are written between colons inside brackets. -/
def asciiClass? (name : String) : Option CodeSet :=
  [("alnum", "30-39 41-5a 61-7a"), ("alpha", "41-5a 61-7a"), ("ascii", "0-7f"),
   ("blank", "9 20"), ("cntrl", "0-1f 7f"), ("digit", "30-39"), ("graph", "21-7e"),
   ("lower", "61-7a"), ("print", "20-7e"), ("punct", "21-2f 3a-40 5b-60 7b-7e"),
   ("space", "9-d 20"), ("upper", "41-5a"), ("word", "30-39 41-5a 5f 61-7a"),
   ("xdigit", "30-39 41-46 61-66")].lookup name |>.map fun row => CodeSet.ofTable [row]

/-- Every letter that is not the representative of its class, with its representative. -/
def foldPairs : List (Nat × Nat) :=
  foldRuns.flatMap fun run =>
    (List.range ((run.last - run.first) / run.stride + 1)).map fun step =>
      (run.first + step * run.stride, run.target + step * run.stride)

/-- The set with the whole class of every letter in it. -/
def closeCase (set : CodeSet) : CodeSet :=
  let leaders := CodeSet.ofSpans (foldPairs.filterMap fun (code, leader) =>
    if set.contains code || set.contains leader then some ⟨leader, leader⟩ else none)
  unionAll [set, leaders, CodeSet.ofSpans (foldPairs.filterMap fun (code, leader) =>
    if leaders.contains leader then some ⟨code, code⟩ else none)]

/-- The set with both cases of every ASCII letter in it. -/
def closeAsciiCase (set : CodeSet) : CodeSet :=
  unionAll [set, CodeSet.ofSpans ((List.range 26).flatMap fun letter =>
    if set.contains (0x41 + letter) || set.contains (0x61 + letter) then
      [⟨0x41 + letter, 0x41 + letter⟩, ⟨0x61 + letter, 0x61 + letter⟩]
    else [])]

end MarkupAudit.Pattern
