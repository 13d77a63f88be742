/-
# What a run depends on

A run depends on four things: the text of the rule table in force, that of the template table in
force, that of the document, and whether JSON is wanted. It does not matter where these texts come
from. They may be the content of a file that is named, the content of the user's own file, the
standard input, or what is built in; two runs with the same texts end in the same way, whatever the
paths and the other files are. A text may also be missing, because nothing is there or because what
is there cannot be read, and that is all one too.
-/

import MarkupAudit.CommandLine.Run
import MarkupAudit.Proofs.Toml.BuiltinTexts

namespace MarkupAudit.CommandLine

/-! ## Texts in force -/

/-- The text of the table in force: that of the file that is named; else that of the user's own
file, if there is one; else the built-in text. A file that is named but is not there has none, and
neither has a file that cannot be read. -/
def Files.tableText (files : Files) (userDirectory named : Option String)
    (file builtinText : String) : Option String :=
  match named, userDirectory with
  | some path, _ => files.text? path
  | none, none => some builtinText
  | none, some directory =>
      match files (joinPath directory file) with
      | .file text => some text
      | .unreadable => none
      | .stream _ | .directory | .missing => some builtinText

/-- What a run depends on. A text that cannot be had is missing. -/
structure Texts where
  rules : Option String
  templates : Option String
  document : Option String
  json : Bool

/-- What arguments tell a run to use. -/
def Arguments.texts (given : Arguments) (files : Files) (userDirectory stdin : Option String) :
    Texts where
  rules := files.tableText userDirectory given.rules "rules.toml" RuleTable.builtinText
  templates :=
    files.tableText userDirectory given.templates "templates.toml" TemplateTable.builtinText
  document := if given.input = "-" then stdin else files.text? given.input
  json := given.json

/-- How a run ends that has some tables and a document, or lacks some of them. -/
def Output.ofLoaded (json : Bool) :
    Option RuleSet → Option TemplateTable → Option String → Output
  | some rules, some templates, some text =>
      match auditText rules text with
      | .error _ => noVerdict
      | .ok audit => ⟨if audit.isValid then 0 else 1, printed json templates audit⟩
  | _, _, _ => noVerdict

/-- How a run ends that uses some texts. -/
def Texts.output (texts : Texts) : Output :=
  .ofLoaded texts.json (texts.rules.bind fun text => (RuleSet.ofText text).toOption)
    (texts.templates.bind fun text => (TemplateTable.ofText text).toOption) texts.document

/-! ## Loading looks at the texts alone -/

theorem execute_eq_ofLoaded (files : Files) (stdin : Option String) (config : Config) :
    execute files stdin config =
      .ofLoaded config.json (config.loadRules files).toOption
        (config.loadTemplates files).toOption (config.readDocument files stdin).toOption := by
  unfold execute
  cases config.loadRules files with
  | error fault => rfl
  | ok rules =>
      cases config.loadTemplates files with
      | error fault => rfl
      | ok templates => cases config.readDocument files stdin <;> rfl

/-- A table is loaded from the text in force. The built-in table is what its text is read as. -/
theorem toOption_load {α : Type} (files : Files) (kind : TableKind)
    (ofText : String → Except Failure α) (userDirectory named : Option String)
    {file builtinText : String} {builtin : Except LoadFault α}
    (read : builtin.toOption = (ofText builtinText).toOption) :
    (match Config.choose files userDirectory named file with
      | some path => loadFile files kind path ofText
      | none => builtin).toOption =
      (files.tableText userDirectory named file builtinText).bind
        fun text => (ofText text).toOption := by
  cases named with
  | some path => exact toOption_loadFile files kind path ofText
  | none =>
      cases userDirectory with
      | none => exact read
      | some directory =>
          have loaded := toOption_loadFile files kind (joinPath directory file) ofText
          unfold Files.text? at loaded
          unfold Config.choose Files.tableText Files.isFile
          dsimp only
          -- What is not a file is not chosen, even if there is a text.
          cases found : files (joinPath directory file) with
          | stream | directory | missing => exact read
          | unreadable | file =>
              rw [found] at loaded
              exact loaded

namespace Config

variable (files : Files) (userDirectory : Option String) (given : Arguments)

theorem toOption_loadRules : ((resolve files userDirectory given).loadRules files).toOption =
    (files.tableText userDirectory given.rules "rules.toml" RuleTable.builtinText).bind
      fun text => (RuleSet.ofText text).toOption := by
  apply toOption_load
  rw [RuleSet.ofText_builtinText]
  cases RuleSet.builtin <;> rfl

theorem toOption_loadTemplates :
    ((resolve files userDirectory given).loadTemplates files).toOption =
      (files.tableText userDirectory given.templates "templates.toml"
        TemplateTable.builtinText).bind fun text => (TemplateTable.ofText text).toOption := by
  apply toOption_load
  rw [TemplateTable.ofText_builtinText]
  rfl

theorem toOption_readDocument (stdin : Option String) :
    ((resolve files userDirectory given).readDocument files stdin).toOption =
      if given.input = "-" then stdin else files.text? given.input := by
  have input : (resolve files userDirectory given).input = given.input := rfl
  rw [readDocument, readsStdin, input]
  by_cases dash : given.input = "-"
  · rw [if_pos dash, if_pos (beq_iff_eq.mpr dash)]
    cases stdin with
    | some text => rfl
    | none => rfl
  · rw [if_neg dash, if_neg fun same => dash (beq_iff_eq.mp same)]
    exact files.toOption_read given.input

end Config

theorem execute_resolve (files : Files) (userDirectory stdin : Option String)
    (given : Arguments) :
    execute files stdin (Config.resolve files userDirectory given) =
      (given.texts files userDirectory stdin).output := by
  rw [execute_eq_ofLoaded, Config.toOption_loadRules, Config.toOption_loadTemplates,
    Config.toOption_readDocument]
  rfl

theorem run_of_accepted {arguments : List String} {given : Arguments}
    (accepted : Arguments.read arguments = .ok given) (files : Files)
    (userDirectory stdin : Option String) :
    run files userDirectory stdin arguments = (given.texts files userDirectory stdin).output := by
  rw [run, accepted]
  exact execute_resolve files userDirectory stdin given

/-! ## Runs with the same texts -/

theorem Files.text?_congr {files others : Files} {path : String} (same : others path = files path) :
    others.text? path = files.text? path := by
  rw [text?, text?, same]

/-- With both tables named, what a run uses is found at three paths. -/
theorem Arguments.texts_congr {given : Arguments} {rules templates : String}
    (namedRules : given.rules = some rules) (namedTemplates : given.templates = some templates)
    {files others : Files} (same : ∀ path ∈ [rules, templates, given.input],
      others path = files path) (userDirectory otherDirectory stdin : Option String) :
    given.texts others otherDirectory stdin = given.texts files userDirectory stdin := by
  rw [List.forall_mem_cons, List.forall_mem_cons, List.forall_mem_singleton] at same
  obtain ⟨sameRules, sameTemplates, sameInput⟩ := same
  unfold texts
  rw [namedRules, namedTemplates, Files.text?_congr sameInput]
  dsimp only [Files.tableText]
  rw [Files.text?_congr sameRules, Files.text?_congr sameTemplates]

/-- Runs whose arguments are followed end in the same way if they use the same texts. With both
tables named, it makes no difference where the user's own tables would be, nor what is anywhere
but at the paths that are named. -/
theorem run_eq_of_texts_eq {files others : Files}
    {userDirectory otherDirectory stdin otherStdin : Option String}
    {arguments otherArguments : List String} {given otherGiven : Arguments}
    (accepted : Arguments.read arguments = .ok given)
    (otherAccepted : Arguments.read otherArguments = .ok otherGiven)
    (same : given.texts files userDirectory stdin =
      otherGiven.texts others otherDirectory otherStdin) :
    run files userDirectory stdin arguments = run others otherDirectory otherStdin otherArguments ∧
      ∀ rules templates, given.rules = some rules → given.templates = some templates →
        ∀ changed elsewhere, (∀ path ∈ [rules, templates, given.input], changed path = files path) →
          run changed elsewhere stdin arguments = run files userDirectory stdin arguments := by
  constructor
  · rw [run_of_accepted accepted, run_of_accepted otherAccepted, same]
  · intro rules templates namedRules namedTemplates changed elsewhere unchanged
    rw [run_of_accepted accepted, run_of_accepted accepted,
      Arguments.texts_congr namedRules namedTemplates unchanged userDirectory elsewhere stdin]

/-- Files with the built-in tables and a paragraph, and maybe something in the user's own file. -/
def paragraphFiles (own : Entry) : Files := fun path =>
  if path = "rules.toml" then .file RuleTable.builtinText
  else if path = "templates.toml" then .file TemplateTable.builtinText
  else if path = "page.json" then .file "[\"p\", 1]"
  else if path = "config/rules.toml" then own
  else .missing

/-- It is all one whether a paragraph and the built-in tables are in files or not, and if other
rules are named, it is of no interest that those in the user's directory cannot be read. -/
theorem run_paragraphFiles :
    let named := ["--rules", "rules.toml", "--log-level", "trace", "--templates",
      "templates.toml", "page.json"]
    Arguments.read named =
        .ok ⟨"page.json", some "rules.toml", some "templates.toml", false, "trace"⟩ ∧
      Arguments.read ["-"] = .ok ⟨"-", none, none, false, "warn"⟩ ∧
      run (paragraphFiles .missing) none none named =
        run (fun _ => .missing) (some "config") (some "[\"p\", 1]") ["-"] ∧
      run (paragraphFiles .unreadable) (some "config") none named =
        run (paragraphFiles .missing) none none named := by
  intro named
  have accepted : Arguments.read named =
      .ok ⟨"page.json", some "rules.toml", some "templates.toml", false, "trace"⟩ := rfl
  have otherAccepted : Arguments.read ["-"] = .ok ⟨"-", none, none, false, "warn"⟩ := rfl
  have sameTexts :
      Arguments.texts ⟨"page.json", some "rules.toml", some "templates.toml", false, "trace"⟩
          (paragraphFiles .missing) none none =
        Arguments.texts ⟨"-", none, none, false, "warn"⟩ (fun _ => .missing) (some "config")
          (some "[\"p\", 1]") := rfl
  obtain ⟨same, unaffected⟩ := run_eq_of_texts_eq accepted otherAccepted sameTexts
  refine ⟨accepted, otherAccepted, same, unaffected _ _ rfl rfl _ _ ?_⟩
  intro path listed
  simp only [List.mem_cons, List.not_mem_nil, or_false] at listed
  rcases listed with rfl | rfl | rfl <;> rfl

end MarkupAudit.CommandLine
