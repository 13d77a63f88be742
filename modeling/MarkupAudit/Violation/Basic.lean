/-
# Violations

One detected deviation of a document from its rules, with what is needed to report it: the
parameters of its message, the element and the line it concerns, and the heading under which a
report groups it. A violation is made in a context. While one element is being checked, it is
stamped with that element; otherwise it concerns the document as a whole.
-/

import MarkupAudit.Scan.Context
import MarkupAudit.Violation.Category

namespace MarkupAudit

/-- How serious a violation is; a warning does not make a document invalid. -/
inductive Severity where
  | error
  | warning
  deriving Repr, DecidableEq, Inhabited

/-- The written name of a severity. -/
def Severity.name : Severity → String
  | .error => "ERROR"
  | .warning => "WARNING"

/-- One deviation of a document from its rules. -/
structure Violation where
  code : Code
  /-- What is put into the message; placeholder `%1` stands for the first of them. -/
  params : List String
  /-- Free text for messages without parameters. -/
  detail : Option String
  line : Nat
  element : Option ElementId
  /-- The heading under which a report lists the violation. -/
  heading : String
  phase : Phase
  severity : Severity
  /-- The triage category, once it has been assigned. -/
  category : Option Category
  /-- Where the broken rule is documented. -/
  specUrl : Option String
  /-- The description of a repair that some earlier stage has made. -/
  action : Option String
  deriving Repr, DecidableEq, Inhabited

namespace Violation

/-- The heading of the violations that concern no single element. -/
def globalHeading : String := "GLOBAL WARNING"

/-- A violation that concerns the document as a whole. -/
def ofDocument (code : Code) (params : List String) : Violation :=
  ⟨code, params, none, 0, none, globalHeading, .global, .error, none, none, none⟩

/-- A violation found in a context: stamped with the element that is being checked, if one is. -/
def found (context : Context) (code : Code) (params : List String) : Violation :=
  match context.phase with
  | .global => ofDocument code params
  | .local =>
      { ofDocument code params with
        phase := .local
        element := context.element
        line := context.line
        heading := context.tag.getD globalHeading }

/-- The same violation as a warning. -/
def asWarning (violation : Violation) : Violation :=
  { violation with severity := .warning }

/-- The same violation with the place where its rule is documented, if that is known. -/
def documentedAt (violation : Violation) : Option String → Violation
  | none => violation
  | some url => { violation with specUrl := some url }

/-- The category that the violation belongs to. -/
def categorize (violation : Violation) : Category :=
  Category.of violation.code violation.params

/-- The same violation with its category assigned. -/
def categorized (violation : Violation) : Violation :=
  { violation with category := some violation.categorize }

/-- A category that has been assigned is assigned again without a change. -/
theorem categorized_categorized (violation : Violation) :
    violation.categorized.categorized = violation.categorized := rfl

end Violation

end MarkupAudit
