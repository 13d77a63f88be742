/-
# Configuration

Which tables a run uses. A table that is named on the command line comes first; else the table
of the same name in the user's directory is used, if that is a file; else the built-in one. A file
of the user's is chosen before it is read, so if it cannot be read, nothing else stands in for it.
Loading can fail because a file cannot be read, or because its text is refused. The standard input
has no text if it cannot be read to its end, or if its bytes spell none.
-/

import MarkupAudit.CommandLine.Arguments
import MarkupAudit.CommandLine.Files
import MarkupAudit.Report.TemplateTable
import MarkupAudit.Rules.Builtin

namespace MarkupAudit.CommandLine

/-- The settings of a run. -/
structure Config where
  input : String
  /-- The file of the rule table; none means the built-in table. -/
  rules : Option String
  /-- The file of the template table; none means the built-in table. -/
  templates : Option String
  json : Bool
  logLevel : String
  deriving Repr, DecidableEq

/-- Why a text cannot be read. -/
inductive ReadFault where
  | missing
  | directory
  /-- There is something to read, but it gives no text. -/
  | unreadable
  deriving Repr, DecidableEq

/-- Read what is at a path. -/
def Files.read (files : Files) (path : String) : Except ReadFault String :=
  match files path with
  | .file text | .stream text => .ok text
  | .unreadable => .error .unreadable
  | .directory => .error .directory
  | .missing => .error .missing

theorem Files.toOption_read (files : Files) (path : String) :
    (files.read path).toOption = files.text? path := by
  unfold read text?
  cases files path <;> rfl

theorem Files.read_eq_ok_iff {files : Files} {path text : String} :
    files.read path = .ok text ↔ files.text? path = some text := by
  unfold read text?
  cases files path <;> simp

/-- Why a table cannot be loaded. -/
inductive LoadFault where
  /-- The file of a table cannot be read. -/
  | unreadable (kind : TableKind) (path : String) (fault : ReadFault)
  /-- The text of a table is refused. -/
  | refused (kind : TableKind) (path : String) (failure : Failure)
  /-- The built-in table is refused. -/
  | builtin (failure : Failure)
  deriving Repr, DecidableEq

/-- Load a table from a file. -/
def loadFile {α : Type} (files : Files) (kind : TableKind) (path : String)
    (ofText : String → Except Failure α) : Except LoadFault α :=
  match files.read path with
  | .error fault => .error (.unreadable kind path fault)
  | .ok text =>
      match ofText text with
      | .error failure => .error (.refused kind path failure)
      | .ok table => .ok table

/-- A table is loaded from the text at a path, and only this can be seen of what is there. -/
theorem toOption_loadFile {α : Type} (files : Files) (kind : TableKind) (path : String)
    (ofText : String → Except Failure α) :
    (loadFile files kind path ofText).toOption =
      (files.text? path).bind fun text => (ofText text).toOption := by
  rw [loadFile, ← files.toOption_read path]
  cases files.read path with
  | error fault => rfl
  | ok text => cases made : ofText text <;> simp [made, Except.toOption]

namespace Config

/-- The file to use: the one that is named, else the user's own, if there is one. -/
def choose (files : Files) (userDirectory : Option String) (named : Option String)
    (file : String) : Option String :=
  match named, userDirectory with
  | some path, _ => some path
  | none, none => none
  | none, some directory =>
      let path := joinPath directory file
      if files.isFile path then some path else none

/-- The settings that follow from the arguments and from the user's directory. -/
def resolve (files : Files) (userDirectory : Option String) (arguments : Arguments) :
    Config where
  input := arguments.input
  rules := choose files userDirectory arguments.rules "rules.toml"
  templates := choose files userDirectory arguments.templates "templates.toml"
  json := arguments.json
  logLevel := arguments.logLevel

/-- The rules to use. -/
def loadRules (files : Files) (config : Config) : Except LoadFault RuleSet :=
  match config.rules with
  | some path => loadFile files .rules path RuleSet.ofText
  | none =>
      match RuleSet.builtin with
      | .ok rules => .ok rules
      | .error failure => .error (.builtin failure)

/-- The templates to use. -/
def loadTemplates (files : Files) (config : Config) : Except LoadFault TemplateTable :=
  match config.templates with
  | some path => loadFile files .templates path TemplateTable.ofText
  | none => .ok TemplateTable.builtin

/-- The document comes from the standard input. -/
def readsStdin (config : Config) : Bool := config.input == "-"

/-- The text of the document, which is that of the standard input, if it has one, or of a file. -/
def readDocument (files : Files) (stdin : Option String) (config : Config) :
    Except ReadFault String :=
  if config.readsStdin then stdin.elim (.error .unreadable) .ok else files.read config.input

end Config

end MarkupAudit.CommandLine
