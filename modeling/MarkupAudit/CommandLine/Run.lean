/-
# A run of the validator

What the validator prints, and with which exit code it ends. Zero means that the document is
valid and one that it is not or could not be loaded; two means that there was no verdict,
because a table or the document could not be read, and then nothing is printed. A document that
cannot be loaded has an audit of its own, with the reason as its only entry.
-/

import MarkupAudit.Audit.Json
import MarkupAudit.CommandLine.Config
import MarkupAudit.Document.Load
import MarkupAudit.Report.Basic
import MarkupAudit.Rules.Inspection

namespace MarkupAudit.CommandLine

/-- How a run ends. -/
structure Output where
  exitCode : Nat
  stdout : String
  deriving Repr, DecidableEq

/-- The end of a run without a verdict. -/
def Output.noVerdict : Output := ⟨2, ""⟩

/-- The name and the version of the program. -/
def versionText : String := "amp-validate 0.1.0\n"

/-- The answer to a question for help. -/
def helpText : String :=
  "Validate a parsed AMP document and report violations\n\n" ++
  "Usage: amp-validate [OPTIONS] <INPUT>\n\n" ++
  "Arguments:\n" ++
  "  <INPUT>  Parsed document (JSON element tree), '-' reads stdin\n\n" ++
  "Options:\n" ++
  "      --rules <RULES>          " ++
  "TOML rule table (defaults to the built-in AMP core rules)\n" ++
  "      --templates <TEMPLATES>  TOML message templates, keyed by error code\n" ++
  "      --json                   Print the result as JSON instead of a text report\n" ++
  "      --log-level <LOG_LEVEL>  " ++
  "Log level (trace, debug, info, warn, error) [default: warn]\n" ++
  "  -h, --help                   Print help\n" ++
  "  -V, --version                Print version\n"

/-- How a run ends whose arguments are not followed. -/
def Refusal.output : Refusal → Output
  | help => ⟨0, helpText⟩
  | version => ⟨0, versionText⟩
  | usage => Output.noVerdict

/-- The audit of a document given by its text. -/
def auditText (rules : RuleSet) (text : String) : Except Failure Audit :=
  match Document.load text with
  | .error failure => .ok (Audit.ofLoadFailure failure.message)
  | .ok document => rules.validate document

/-- What is printed of an audit. -/
def printed (json : Bool) (templates : TemplateTable) (audit : Audit) : String :=
  if json then audit.toJson.pretty ++ "\n" else (Report.write templates audit).2

/-- Run with given settings. -/
def execute (files : Files) (stdin : Option String) (config : Config) : Output :=
  match config.loadRules files, config.loadTemplates files, config.readDocument files stdin with
  | .ok rules, .ok templates, .ok text =>
      match auditText rules text with
      | .error _ => Output.noVerdict
      | .ok audit => ⟨if audit.isValid then 0 else 1, printed config.json templates audit⟩
  | _, _, _ => Output.noVerdict

/-- Run with given arguments. -/
def run (files : Files) (userDirectory : Option String) (stdin : Option String)
    (arguments : List String) : Output :=
  match Arguments.read arguments with
  | .error refusal => refusal.output
  | .ok arguments => execute files stdin (Config.resolve files userDirectory arguments)

end MarkupAudit.CommandLine
