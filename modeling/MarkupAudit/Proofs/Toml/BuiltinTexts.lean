/-
# The texts of the built-in tables

The built-in tables are kept as they are used and as the texts of files that hold them. Reading
these texts gives the tables, so it makes no difference which of the two forms a run begins with.
-/

import MarkupAudit.Report.TemplateTable
import MarkupAudit.Rules.Builtin

namespace MarkupAudit

/-- The table that the characters of a file describe, as its entries. -/
def Toml.readChars (chars : List Char) : Option (List (String × Toml)) := do
  let (top, parts) ← readParts ((dropMark chars).length + 1) (dropMark chars)
  ofSections top parts

theorem Toml.read_ofList (chars : List Char) : read (String.ofList chars) = readChars chars := by
  rw [read, String.toList_ofList]
  rfl

-- The characters of a text are named before they are read. The kernel has them at once then, and
-- need not take them out of the encoding of the text.

set_option maxRecDepth 16000 in
theorem RuleTable.ofText_builtinText : ofText builtinText = .ok builtin := by
  obtain ⟨chars, written, described⟩ : ∃ chars, builtinText = String.ofList chars ∧
      (Toml.readChars chars).bind ofEntries? = some builtin :=
    ⟨_, rfl, by decide +kernel⟩
  rw [ofText, written, Toml.read_ofList, described]

theorem RuleSet.ofText_eq {text : String} {table : RuleTable}
    (read : RuleTable.ofText text = .ok table) : ofText text = compile table := by
  rw [ofText, read]
  rfl

theorem RuleSet.ofText_builtinText : ofText RuleTable.builtinText = builtin :=
  ofText_eq RuleTable.ofText_builtinText

set_option maxRecDepth 16000 in
theorem TemplateTable.ofText_builtinText : ofText builtinText = .ok builtin := by
  obtain ⟨chars, written, described⟩ : ∃ chars, builtinText = String.ofList chars ∧
      (Toml.readChars chars).bind (·.mapM textOf?) =
        some (builtin.entries.map fun entry => (entry.1.name, entry.2)) :=
    ⟨_, rfl, by decide +kernel⟩
  rw [ofText, written, Toml.read_ofList, described]
  rfl

end MarkupAudit
