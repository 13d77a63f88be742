/-
# The categories that are printed

A report shows the category of every violation, because writing it assigns the categories. An
object is printed from the audit as it is. After a validation that makes no difference, for the
violations have their categories then. It does for a document that cannot be loaded: the object
has an error without a category, and the report on the same document shows one.
-/

import MarkupAudit.Proofs.CommandLine.Outcome

namespace MarkupAudit

/-- An error as it is printed shows the category that belongs to its code and its parameters. -/
def Json.ShowsCategory (error : Json) : Prop :=
  ∃ code params, error.member? "code" = some (.string (Code.name code)) ∧
    error.member? "params" = some (.array (params.map .string)) ∧
      error.member? "category" = some (.string (Category.of code params).name)

namespace Violation

theorem showsCategory_iff (violation : Violation) :
    violation.toJson.ShowsCategory ↔ violation.category = some violation.categorize := by
  constructor
  · rintro ⟨code, params, sameCode, sameParams, shown⟩
    rw [member?_code, Option.some.injEq, Json.string.injEq, Code.name_inj] at sameCode
    rw [member?_params, Option.some.injEq, Json.array.injEq] at sameParams
    have params_eq := List.map_injective_iff.mpr (fun _ _ => Json.string.inj) sameParams
    rw [member?_category, Option.some.injEq] at shown
    cases assigned : violation.category with
    | none =>
        rw [assigned] at shown
        contradiction
    | some category =>
        rw [assigned] at shown
        have named := Category.name_inj.mp (Json.string.inj shown)
        rw [named, categorize, sameCode, params_eq]
  · intro category
    refine ⟨violation.code, violation.params, violation.member?_code, violation.member?_params, ?_⟩
    rw [member?_category, category]
    rfl

end Violation

namespace CommandLine

/-- What is printed for a text, with and without the wish for JSON: the errors in the object, and
the report. -/
structure Categorizes (text : String) (templates : TemplateTable) (audit : Audit)
    (errors : List Json) (report : String) : Prop where
  /-- The object has an error for each violation, as it is. -/
  errors_eq : errors = audit.violations.toList.map Violation.toJson
  /-- The report is about the same violations, with their categories. -/
  report_eq : report = Report.text templates audit.annotate
  /-- All errors show the category that belongs to them exactly if the document can be loaded. -/
  showsCategory_iff : (∀ error ∈ errors, error.ShowsCategory) ↔
    ∃ document, Document.load text = .ok document
  /-- Then the report and the object show the same categories. -/
  loaded : ∀ {document}, Document.load text = .ok document → audit.annotate = audit
  /-- If the document cannot be loaded, the only error has no category, though the report shows
  one. -/
  unloaded : ∀ {failure}, Document.load text = .error failure →
    report = loadFailureReport failure.message ∧
      ∃ error, errors = [error] ∧ error.member? "code" = some (.string "UNKNOWN_CODE") ∧
        error.member? "params" = some (.array []) ∧ error.member? "category" = some .null

/-- Where the audit of a text comes from. -/
theorem auditText_cases {rules : RuleSet} {text : String} {audit : Audit}
    (made : auditText rules text = .ok audit) :
    (∃ failure, Document.load text = .error failure ∧
      audit = Audit.ofLoadFailure failure.message) ∨
    (∃ document findings, Document.load text = .ok document ∧
      audit.violations.toList = List.map Violation.categorized findings) := by
  unfold auditText at made
  split at made
  · rename_i failure loads
    cases made
    exact .inl ⟨failure, loads, rfl⟩
  · rename_i document loads
    obtain ⟨validated, same, found, _⟩ := rules.validate_eq_ok document
    cases same.symm.trans made
    exact .inr ⟨document, _, loads, found⟩

theorem categorizes_auditText {rules : RuleSet} {text : String} {audit : Audit}
    (made : auditText rules text = .ok audit) (templates : TemplateTable) :
    Categorizes text templates audit (audit.violations.toList.map Violation.toJson)
      (Report.write templates audit).2 := by
  rcases auditText_cases made with ⟨failure, loads, rfl⟩ | ⟨document, findings, loads, found⟩
  · constructor
    case errors_eq => rfl
    case report_eq => rfl
    case showsCategory_iff =>
      refine iff_of_false (fun shown => ?_) (by simp [loads])
      have first := (Violation.showsCategory_iff _).mp (shown _ List.mem_cons_self)
      contradiction
    case loaded => simp [loads]
    case unloaded =>
      intro other again
      cases loads.symm.trans again
      exact ⟨write_ofLoadFailure templates failure.message, _, rfl, rfl, rfl, rfl⟩
  · constructor
    case errors_eq => rfl
    case report_eq => rfl
    case showsCategory_iff =>
      refine iff_of_true ?_ ⟨document, loads⟩
      rw [found, List.map_map]
      exact List.forall_mem_map.mpr fun violation _ =>
        (Violation.showsCategory_iff violation.categorized).mpr rfl
    case loaded => exact fun _ => Audit.annotate_of_categorized found
    case unloaded => simp [loads]

/-- A run with JSON prints the categories exactly if its document can be loaded. -/
theorem run_categorizes (files : Files) (userDirectory stdin : Option String)
    {arguments : List String} {given : Arguments}
    (accepted : Arguments.read arguments = .ok given) (asked : given.json = true)
    (free : ¬(Config.resolve files userDirectory given).IsBlocked files stdin) :
    ∃ text templates audit errors report,
      (Config.resolve files userDirectory given).readDocument files stdin = .ok text ∧
      (Config.resolve files userDirectory given).loadTemplates files = .ok templates ∧
      Prints (run files userDirectory stdin arguments).stdout audit.toJson ∧
      audit.toJson.member? "errors" = some (.array errors) ∧
      (∀ others, Arguments.read others = .ok { given with json := false } →
        (run files userDirectory stdin others).stdout = report) ∧
      Categorizes text templates audit errors report := by
  obtain ⟨rules, templates, text, audit, loadedRules, loadedTemplates, read, made, _⟩ :=
    execute_of_free free
  refine ⟨text, templates, audit, _, _, read, loadedTemplates, ?_, audit.member?_errors, ?_,
    categorizes_auditText made templates⟩
  · have ends := execute_of_loaded loadedRules loadedTemplates read made
    rw [run, accepted]
    dsimp only
    rw [ends, show (Config.resolve files userDirectory given).json = true from asked]
    exact Output.prints_ofAudit templates audit
  · intro others acceptedText
    let config : Config := { Config.resolve files userDirectory given with json := false }
    have ends : execute files stdin config = .ofAudit false templates audit :=
      execute_of_loaded loadedRules loadedTemplates read made
    rw [run, acceptedText]
    exact congrArg Output.stdout ends

/-- A paragraph on the standard input can be loaded, so all categories are printed. -/
theorem run_categorizes_paragraph :
    let files : Files := fun _ => .missing
    let stdin := some "[\"p\", 1]"
    let stdout := (run files none stdin ["--json", "-"]).stdout
    Arguments.read ["--json", "-"] = .ok ⟨"-", none, none, true, "warn"⟩ ∧
    ¬Config.IsBlocked files stdin ⟨"-", none, none, true, "warn"⟩ ∧
    ∃ object errors, Prints stdout object ∧ object.member? "errors" = some (.array errors) ∧
      ∀ error ∈ errors, error.ShowsCategory := by
  intro files stdin stdout
  have accepted : Arguments.read ["--json", "-"] = .ok ⟨"-", none, none, true, "warn"⟩ := rfl
  have free : ¬Config.IsBlocked files stdin ⟨"-", none, none, true, "warn"⟩ :=
    Config.not_isBlocked_of_defaults
  obtain ⟨text, templates, audit, errors, report, read, _, prints, listed, _, categorizes⟩ :=
    run_categorizes files none stdin accepted rfl free
  have loads : Document.load "[\"p\", 1]" =
      .ok ⟨#[⟨⟨0⟩, "p", ⟨[]⟩, 1, none, []⟩], [⟨0⟩]⟩ := by
    decide +kernel
  cases read
  exact ⟨accepted, free, _, errors, prints, listed, categorizes.showsCategory_iff.mpr ⟨_, loads⟩⟩

/-- A number cannot be loaded. The category of the error that is printed of it is missing, though
the report has it. -/
theorem category_missing :
    let reason := (Failure.tree .shape).message
    let object := (Audit.ofLoadFailure reason).toJson
    let error := (loadFailureViolation reason).toJson
    run (fun _ => .missing) none (some "3") ["--json", "-"] = ⟨1, object.pretty ++ "\n"⟩ ∧
      object.member? "errors" = some (.array [error]) ∧
      error.member? "category" = some .null ∧ ¬error.ShowsCategory ∧
      run (fun _ => .missing) none (some "3") ["-"] = ⟨1, loadFailureReport reason⟩ := by
  intro reason object error
  obtain ⟨rules, builtin⟩ := RuleSet.exists_builtin
  have noDocument : Document.load "3" = .error (.tree .shape) := by decide +kernel
  have made : auditText rules "3" = .ok (Audit.ofLoadFailure reason) := by
    rw [auditText, noDocument]
  have ends (json : Bool) :
      execute (fun _ => .missing) (some "3") ⟨"-", none, none, json, "warn"⟩ =
      .ofAudit json TemplateTable.builtin (Audit.ofLoadFailure reason) := by
    refine execute_of_loaded ?_ rfl rfl made
    rw [Config.loadRules, builtin]
  refine ⟨ends true, rfl, rfl, fun shown => ?_, (ends false).trans ?_⟩
  · have first := (Violation.showsCategory_iff _).mp shown
    contradiction
  · exact congrArg (Output.mk 1) (write_ofLoadFailure TemplateTable.builtin reason)

end CommandLine

end MarkupAudit
