/-
# How a run ends

A run whose arguments are followed has a verdict unless something it was told to use cannot be
had: the file with the rules, the file with the templates, or the document. A file that is there
but cannot be read is as bad as none, and worse if it is the user's own table, because the built-in
one is not used then; the standard input may have no text either. Validation does not stand in its
way, since it never fails, and neither do the built-in tables. Whether the document is valid is said
three times, by the exit code, by the first line of the report, and by the status in the printed
object, and each time the same is said.
-/

import MarkupAudit.CommandLine.Run
import MarkupAudit.Proofs.Audit.Printed
import MarkupAudit.Proofs.CommandLine.Arguments
import MarkupAudit.Proofs.Report.Shape
import MarkupAudit.Proofs.Report.Verdict
import MarkupAudit.Proofs.Rules.Builtin

namespace MarkupAudit.CommandLine

open Text (BeginsWithLine)

/-! ## What stands in the way of a verdict -/

/-- Nothing can be made of what is at a path: nothing is there that can be read, or the text that
is read is refused. -/
def Files.Withholds {α : Type} (files : Files) (ofText : String → Except Failure α)
    (path : String) : Prop :=
  ∀ text, files.text? path = some text → ∃ failure, ofText text = .error failure

/-- Something that a run with given settings needs cannot be had. -/
inductive Config.IsBlocked (files : Files) (stdin : Option String) (config : Config) : Prop where
  | rules {path : String} : config.rules = some path →
      files.Withholds RuleSet.ofText path → IsBlocked files stdin config
  | templates {path : String} : config.templates = some path →
      files.Withholds TemplateTable.ofText path → IsBlocked files stdin config
  | document : config.input ≠ "-" → files.text? config.input = none → IsBlocked files stdin config
  | stdin : config.input = "-" → stdin = none → IsBlocked files stdin config

theorem exists_loadFile_iff {α : Type} {files : Files} {ofText : String → Except Failure α}
    {path : String} (kind : TableKind) :
    (∃ table, loadFile files kind path ofText = .ok table) ↔ ¬files.Withholds ofText path := by
  have loads : (∃ table, loadFile files kind path ofText = .ok table) ↔
      ((files.text? path).bind fun text => (ofText text).toOption).isSome = true := by
    rw [← toOption_loadFile files kind]
    cases loadFile files kind path ofText <;> simp [Except.toOption]
  rw [loads, Files.Withholds]
  cases files.text? path with
  | none => simp
  | some text => cases made : ofText text <;> simp [made, Except.toOption]

namespace Config

variable {files : Files} {stdin : Option String} {config : Config}

theorem exists_loadRules (free : ¬config.IsBlocked files stdin) :
    ∃ rules, config.loadRules files = .ok rules := by
  obtain ⟨rules, made⟩ := RuleSet.exists_builtin
  unfold loadRules
  -- The built-in rules are made opaque, so that no step of the proof makes them.
  generalize RuleSet.builtin = builtin at made ⊢
  cases made
  split
  · rename_i path chosen
    exact (exists_loadFile_iff .rules).mpr fun withheld => free (.rules chosen withheld)
  · exact ⟨rules, rfl⟩

theorem exists_loadTemplates (free : ¬config.IsBlocked files stdin) :
    ∃ templates, config.loadTemplates files = .ok templates := by
  unfold loadTemplates
  split
  · rename_i path chosen
    exact (exists_loadFile_iff .templates).mpr fun withheld => free (.templates chosen withheld)
  · exact ⟨_, rfl⟩

theorem exists_readDocument (free : ¬config.IsBlocked files stdin) :
    ∃ text, config.readDocument files stdin = .ok text := by
  unfold readDocument readsStdin
  split
  · rename_i dash
    cases stdin with
    | some text => exact ⟨text, rfl⟩
    | none => exact absurd (.stdin (by simpa using dash) rfl) free
  · rename_i named
    cases found : files.text? config.input with
    | some text => exact ⟨text, Files.read_eq_ok_iff.mpr found⟩
    | none => exact absurd (.document (by simpa using named) found) free

theorem not_isBlocked {rules : RuleSet} {templates : TemplateTable} {text : String}
    (loadedRules : config.loadRules files = .ok rules)
    (loadedTemplates : config.loadTemplates files = .ok templates)
    (read : config.readDocument files stdin = .ok text) : ¬config.IsBlocked files stdin := by
  intro blocked
  cases blocked with
  | rules chosen withheld =>
      rw [loadRules, chosen] at loadedRules
      exact (exists_loadFile_iff .rules).mp ⟨rules, loadedRules⟩ withheld
  | templates chosen withheld =>
      rw [loadTemplates, chosen] at loadedTemplates
      exact (exists_loadFile_iff .templates).mp ⟨templates, loadedTemplates⟩ withheld
  | document named noText =>
      rw [readDocument, readsStdin, if_neg (by simpa using named), Files.read_eq_ok_iff,
        noText] at read
      contradiction
  | stdin dash noText =>
      rw [readDocument, readsStdin, if_pos (by simpa using dash), noText] at read
      contradiction

/-- No file is needed for the built-in tables and a document on the standard input. -/
theorem not_isBlocked_of_defaults {text logLevel : String} {json : Bool} :
    ¬IsBlocked files (some text) ⟨"-", none, none, json, logLevel⟩ := by
  rintro (⟨chosen, _⟩ | ⟨chosen, _⟩ | ⟨named, _⟩ | ⟨_, noText⟩)
  · contradiction
  · contradiction
  · exact named rfl
  · contradiction

end Config

/-- Without what it needs, a run has no verdict. -/
theorem execute_of_isBlocked {files : Files} {stdin : Option String} {config : Config}
    (blocked : config.IsBlocked files stdin) : execute files stdin config = .noVerdict := by
  unfold execute
  split
  · rename_i loadedRules loadedTemplates read
    exact absurd blocked (Config.not_isBlocked loadedRules loadedTemplates read)
  · rfl

/-! ## The verdict -/

/-- The end of a run whose verdict is an audit. -/
def Output.ofAudit (json : Bool) (templates : TemplateTable) (audit : Audit) : Output :=
  ⟨if audit.isValid then 0 else 1, printed json templates audit⟩

/-- There is an audit of every text, and without violations its verdict is a pass. -/
theorem exists_auditText (rules : RuleSet) (text : String) :
    ∃ audit, auditText rules text = .ok audit ∧
      (audit.violations.toList = [] → audit.status = .pass) := by
  unfold auditText
  cases Document.load text with
  | error failure => exact ⟨_, rfl, nofun⟩
  | ok document =>
      obtain ⟨audit, validated, found, status, _⟩ := rules.validate_eq_ok document
      refine ⟨audit, validated, fun nothing => ?_⟩
      rw [found, List.map_eq_nil_iff] at nothing
      rw [status, nothing, if_pos Violation.allWarnings_nil]

/-- With what it needs, a run ends with an audit. -/
theorem execute_of_loaded {files : Files} {config : Config} {rules : RuleSet}
    {templates : TemplateTable} {stdin : Option String} {text : String} {audit : Audit}
    (loadedRules : config.loadRules files = .ok rules)
    (loadedTemplates : config.loadTemplates files = .ok templates)
    (read : config.readDocument files stdin = .ok text) (made : auditText rules text = .ok audit) :
    execute files stdin config = .ofAudit config.json templates audit := by
  rw [execute, loadedRules, loadedTemplates, read]
  dsimp only
  rw [made, Output.ofAudit]

theorem execute_of_free {files : Files} {stdin : Option String} {config : Config}
    (free : ¬config.IsBlocked files stdin) :
    ∃ rules templates text audit, config.loadRules files = .ok rules ∧
      config.loadTemplates files = .ok templates ∧
      config.readDocument files stdin = .ok text ∧ auditText rules text = .ok audit ∧
      (audit.violations.toList = [] → audit.status = .pass) ∧
      execute files stdin config = .ofAudit config.json templates audit := by
  obtain ⟨rules, loadedRules⟩ := Config.exists_loadRules free
  obtain ⟨templates, loadedTemplates⟩ := Config.exists_loadTemplates free
  obtain ⟨text, read⟩ := Config.exists_readDocument free
  obtain ⟨audit, made, clean⟩ := exists_auditText rules text
  exact ⟨rules, templates, text, audit, loadedRules, loadedTemplates, read, made, clean,
    execute_of_loaded loadedRules loadedTemplates read made⟩

/-! ## What is printed -/

/-- The report on a document that cannot be loaded, for a given reason. -/
def loadFailureReport (reason : String) : String :=
  "UNKNOWN\n\nGLOBAL WARNING\n- UNKNOWN_CODE" ++ reason ++
    "\n   [code: UNKNOWN_CODE category: UNKNOWN]\n"

/-- What the audit of a document that cannot be loaded holds. -/
def loadFailureViolation (reason : String) : Violation :=
  { Violation.ofDocument .unknownCode [] with detail := some reason }

theorem isLegal_ofLoadFailure (reason : String) : (Audit.ofLoadFailure reason).toJson.IsLegal := by
  have small : 0 < Nat.pow 2 64 := by decide
  refine Audit.isLegal_toJson small fun violation listed => ?_
  rw [List.mem_singleton.mp listed]
  exact ⟨small, nofun⟩

/-- No template is used for the reason, since there are no parameters to put into one. -/
theorem line_loadFailureViolation (templates : TemplateTable) (reason : String) :
    templates.line (loadFailureViolation reason).categorized =
      "- " ++ (Code.unknownCode.name ++ reason) ++ "\n   [code: " ++ Code.unknownCode.name ++
        (" category: " ++ Category.unknown.name) ++ "" ++ "]" ++ "" := by
  have message : templates.message (loadFailureViolation reason).categorized =
      Code.unknownCode.name ++ reason := by
    unfold TemplateTable.message
    split <;> rfl
  rw [TemplateTable.line, message]
  rfl

/-- The report on a document that cannot be loaded is the same whatever the templates are. -/
theorem write_ofLoadFailure (templates : TemplateTable) (reason : String) :
    (Report.write templates (Audit.ofLoadFailure reason)).2 = loadFailureReport reason := by
  have listed : (Audit.ofLoadFailure reason).annotate.close.violations.toList =
      [(loadFailureViolation reason).categorized] := Array.toList_map
  have body : Report.body templates .start [(loadFailureViolation reason).categorized] =
      Report.documentTitle ++ templates.line (loadFailureViolation reason).categorized ++
        "\n" ++ "" := rfl
  have text : (Report.write templates (Audit.ofLoadFailure reason)).2 =
      Status.unknown.name ++ "\n" ++
        Report.body templates .start [(loadFailureViolation reason).categorized] := by
    rw [Report.write]
    dsimp only
    rw [Report.text, Report.firstLine_eq (by simp [listed]), listed]
    rfl
  have head : Status.unknown.name ++ "\n" ++ Report.documentTitle ++ "- " ++
      Code.unknownCode.name = "UNKNOWN\n\nGLOBAL WARNING\n- UNKNOWN_CODE" := by
    decide +kernel
  have tail : "\n   [code: " ++ Code.unknownCode.name ++ " category: " ++ Category.unknown.name ++
      "]" ++ "\n" = "\n   [code: UNKNOWN_CODE category: UNKNOWN]\n" := by
    decide +kernel
  rw [text, body, line_loadFailureViolation]
  calc
    _ = Status.unknown.name ++ "\n" ++ Report.documentTitle ++ "- " ++ Code.unknownCode.name ++
          reason ++ ("\n   [code: " ++ Code.unknownCode.name ++ " category: " ++
            Category.unknown.name ++ "]" ++ "\n") := by
        simp only [String.append_assoc, String.append_empty]
    _ = loadFailureReport reason := by
        rw [head, tail]
        rfl

/-- A text is a printed object: its indented form, which spells it, unless a number in it is beyond
the range of numbers. -/
structure Prints (stdout : String) (object : Json) : Prop where
  stdout_eq : stdout = object.pretty ++ "\n"
  spells : object.IsLegal → object.SpellsPadded stdout.toList

theorem prints_pretty (object : Json) : Prints (object.pretty ++ "\n") object :=
  ⟨rfl, Json.spellsPadded_pretty⟩

/-! ## How a run ends -/

/-- How a run with given settings ends. -/
structure Settles (files : Files) (stdin : Option String) (config : Config) (output : Output) :
    Prop where
  /-- There is no verdict, and nothing is printed, exactly if something that is needed cannot be
  had. -/
  noVerdict_iff : output = .noVerdict ↔ config.IsBlocked files stdin
  /-- This is also what the exit code says. -/
  exitCode_eq_two_iff : output.exitCode = 2 ↔ config.IsBlocked files stdin
  exitCode_of_free : ¬config.IsBlocked files stdin → output.exitCode = 0 ∨ output.exitCode = 1
  /-- The report begins with a pass exactly if the exit code says so. -/
  report : config.json = false → (BeginsWithLine output.stdout "PASS" ↔ output.exitCode = 0)
  /-- The printed object says that it is a pass exactly if the exit code says so. -/
  object : config.json = true → ¬config.IsBlocked files stdin →
    ∃ object : Json, Prints output.stdout object ∧
      (object.member? "status" = some (.string "PASS") ↔ output.exitCode = 0)
  /-- A document that cannot be loaded has an unknown verdict, and the reason why it cannot be
  loaded is all that is printed with it. -/
  unloadable : ∀ {text failure}, ¬config.IsBlocked files stdin →
    config.readDocument files stdin = .ok text → Document.load text = .error failure →
      output.exitCode = 1 ∧
        (config.json = false → output.stdout = loadFailureReport failure.message) ∧
        (config.json = true → ∃ object : Json, Prints output.stdout object ∧ object.IsLegal ∧
          object.member? "status" = some (.string "UNKNOWN"))

namespace Output

variable (json : Bool) (templates : TemplateTable) (audit : Audit)

theorem exitCode_ofAudit :
    (ofAudit json templates audit).exitCode = if audit.status = .pass then 0 else 1 := by
  simp [ofAudit, Audit.isValid]

theorem exitCode_ofAudit_eq_zero_iff :
    (ofAudit json templates audit).exitCode = 0 ↔ audit.status = .pass := by
  rw [exitCode_ofAudit]
  split <;> simp_all

theorem exitCode_ofAudit_ne_two : (ofAudit json templates audit).exitCode ≠ 2 := by
  rw [exitCode_ofAudit]
  split <;> decide

/-- The report of an audit whose verdict is a pass if it has no violations. -/
theorem beginsWithLine_ofAudit {audit : Audit}
    (clean : audit.violations.toList = [] → audit.status = .pass) :
    BeginsWithLine (ofAudit false templates audit).stdout "PASS" ↔ audit.status = .pass := by
  show BeginsWithLine (Report.write templates audit).2 Status.pass.name ↔ _
  rw [Report.write_beginsWithLine_iff, Report.firstLine_eq clean, Status.name_inj, eq_comm]

theorem prints_ofAudit : Prints (ofAudit true templates audit).stdout audit.toJson :=
  prints_pretty audit.toJson

theorem member?_status_eq_iff (status : Status) :
    audit.toJson.member? "status" = some (.string status.name) ↔ audit.status = status := by
  rw [Audit.member?_status, Option.some.injEq, Json.string.injEq, Status.name_inj]

end Output

/-- Nothing up to the exit code looks at the wish for JSON. -/
theorem exitCode_execute_withJson (files : Files) (stdin : Option String) (config : Config)
    (json : Bool) :
    (execute files stdin { config with json := json }).exitCode =
      (execute files stdin config).exitCode := by
  have rules : Config.loadRules files { config with json := json } = config.loadRules files := rfl
  have templates : Config.loadTemplates files { config with json := json } =
      config.loadTemplates files := rfl
  have document : Config.readDocument files stdin { config with json := json } =
      config.readDocument files stdin := rfl
  rw [execute, execute, rules, templates, document]
  split
  · split <;> rfl
  · rfl

theorem settles_execute (files : Files) (stdin : Option String) (config : Config) :
    Settles files stdin config (execute files stdin config) := by
  by_cases blocked : config.IsBlocked files stdin
  · rw [execute_of_isBlocked blocked]
    constructor
    case noVerdict_iff => exact iff_of_true rfl blocked
    case exitCode_eq_two_iff => exact iff_of_true rfl blocked
    case exitCode_of_free => exact fun free => absurd blocked free
    case report =>
      exact fun _ => iff_of_false (Text.not_beginsWithLine_empty "PASS") (by decide)
    case object => exact fun _ free => absurd blocked free
    case unloadable => exact fun free => absurd blocked free
  · obtain ⟨rules, templates, text, audit, loadedRules, loadedTemplates, read, made, clean, ends⟩ :=
      execute_of_free blocked
    rw [ends]
    constructor
    case noVerdict_iff =>
      refine iff_of_false (fun same => ?_) blocked
      exact Output.exitCode_ofAudit_ne_two config.json templates audit (congrArg (·.exitCode) same)
    case exitCode_eq_two_iff =>
      exact iff_of_false (Output.exitCode_ofAudit_ne_two config.json templates audit) blocked
    case exitCode_of_free =>
      intro _
      rw [Output.exitCode_ofAudit]
      split
      · exact .inl rfl
      · exact .inr rfl
    case report =>
      intro asked
      rw [Output.exitCode_ofAudit_eq_zero_iff, asked]
      exact Output.beginsWithLine_ofAudit templates clean
    case object =>
      intro asked _
      rw [Output.exitCode_ofAudit_eq_zero_iff, asked]
      exact ⟨audit.toJson, Output.prints_ofAudit templates audit,
        Output.member?_status_eq_iff audit .pass⟩
    case unloadable =>
      intro other failure _ readOther unloadable
      cases read.symm.trans readOther
      rw [auditText, unloadable] at made
      cases made
      refine ⟨rfl, fun asked => ?_, fun asked => ?_⟩
      · rw [asked]
        exact write_ofLoadFailure templates failure.message
      · rw [asked]
        exact ⟨_, Output.prints_ofAudit templates _, isLegal_ofLoadFailure failure.message,
          (Output.member?_status_eq_iff _ .unknown).mpr rfl⟩

/-- How a run ends whose arguments are followed. The exit code does not depend on whether JSON is
asked for, and where it is not, the option for it can be put in front. -/
theorem run_settles (files : Files) (userDirectory stdin : Option String)
    {arguments : List String} {given : Arguments}
    (accepted : Arguments.read arguments = .ok given) :
    Settles files stdin (Config.resolve files userDirectory given)
        (run files userDirectory stdin arguments) ∧
      (∀ others json, Arguments.read others = .ok { given with json := json } →
        (run files userDirectory stdin others).exitCode =
          (run files userDirectory stdin arguments).exitCode) ∧
      (given.json = false →
        Arguments.read ("--json" :: arguments) = .ok { given with json := true }) := by
  have settles : run files userDirectory stdin arguments =
      execute files stdin (Config.resolve files userDirectory given) := by
    rw [run, accepted]
  rw [settles]
  refine ⟨settles_execute files stdin _, fun others json read => ?_,
    Arguments.read_json accepted⟩
  rw [run, read]
  exact exitCode_execute_withJson files stdin (Config.resolve files userDirectory given) json

/-- A number on the standard input is no document, and nothing else stands in the way. If the
standard input has no text, or if there are rules in the user's directory that cannot be read, there
is no verdict. -/
theorem run_settles_number :
    let files : Files := fun _ => .missing
    let locked : Files := fun path => if path = "own/rules.toml" then .unreadable else .missing
    let output := run files none (some "3") ["-"]
    Arguments.read ["-"] = .ok ⟨"-", none, none, false, "warn"⟩ ∧
      Settles files (some "3") ⟨"-", none, none, false, "warn"⟩ output ∧
      (∀ others json, Arguments.read others = .ok ⟨"-", none, none, json, "warn"⟩ →
        (run files none (some "3") others).exitCode = output.exitCode) ∧
      Arguments.read ["--json", "-"] = .ok ⟨"-", none, none, true, "warn"⟩ ∧
      output.exitCode = 1 ∧
      output.stdout = loadFailureReport (Failure.tree .shape).message ∧
      run files none none ["-"] = .noVerdict ∧
      run locked (some "own") (some "3") ["-"] = .noVerdict := by
  intro files locked output
  have accepted : Arguments.read ["-"] = .ok ⟨"-", none, none, false, "warn"⟩ := rfl
  obtain ⟨settles, same, first⟩ := run_settles files none (some "3") accepted
  have free : ¬Config.IsBlocked files (some "3") ⟨"-", none, none, false, "warn"⟩ :=
    Config.not_isBlocked_of_defaults
  have noDocument : Document.load "3" = .error (.tree .shape) := by decide +kernel
  obtain ⟨code, report, _⟩ := settles.unloadable free rfl noDocument
  have noText := (run_settles files none none accepted).1.noVerdict_iff.mpr (.stdin rfl rfl)
  have noRules : run locked (some "own") (some "3") ["-"] = .noVerdict :=
    (run_settles locked (some "own") (some "3") accepted).1.noVerdict_iff.mpr
      (.rules rfl fun text found => by cases found)
  exact ⟨accepted, settles, same, first rfl, code, report rfl, noText, noRules⟩

end MarkupAudit.CommandLine
