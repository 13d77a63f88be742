/-
# Reports

An audit as text: the verdict on the first line, and then the violations in their order, each
with its message and what is known about it. A header is put before a violation when its heading
is another than that of the violation before, and also when it concerns another element than
the last violation that concerned one. Writing a report assigns the violations their categories
and closes the audit.
-/

import MarkupAudit.Audit.Basic
import MarkupAudit.Report.Template
import MarkupAudit.Report.TemplateTable

namespace MarkupAudit

namespace TemplateTable

/-- The message of a violation: its template with the parameters put in. Without a template or
without parameters it is the name of the code, followed by the detail. -/
def message (table : TemplateTable) (violation : Violation) : String :=
  let plain := violation.code.name ++ violation.detail.getD ""
  match table.get? violation.code with
  | none => plain
  | some template =>
      if violation.params.isEmpty then plain else Template.format template violation.params

/-- A part of a line that is there only if a value is. -/
def part (label : String) : Option String → String
  | none => ""
  | some text => label ++ text

/-- The lines of a violation, without the last line break: its message, its code and category
and where its rule is documented, and the repair that was made. -/
def line (table : TemplateTable) (violation : Violation) : String :=
  "- " ++ table.message violation ++ "\n   [code: " ++ violation.code.name ++
    part " category: " (violation.category.map Category.name) ++
    part " see: " violation.specUrl ++ "]" ++ part "\n   " violation.action

end TemplateTable

namespace Report

/-- The header above a violation: an empty line, and the heading with the line number. The
heading of violations of the document as a whole has no line number. -/
def header (violation : Violation) : String :=
  if violation.heading = Violation.globalHeading then "\n" ++ Violation.globalHeading ++ "\n"
  else "\n" ++ violation.heading ++ " on line " ++ toString violation.line ++ "\n"

/-- What is remembered of the violations before: the last heading written, and the element of
the last violation that was found on an element, if there was one. -/
structure Memory where
  heading : Option String
  element : Option (Option ElementId)

namespace Memory

/-- Nothing has been written. -/
def start : Memory := ⟨none, none⟩

/-- A violation begins a new group. -/
def startsGroup (memory : Memory) (violation : Violation) : Bool :=
  memory.heading != some violation.heading ||
    (violation.phase == .local && memory.element.any (· != violation.element))

/-- What is remembered after a violation. -/
def after (memory : Memory) (violation : Violation) : Memory where
  heading := if memory.startsGroup violation then some violation.heading else memory.heading
  element := if violation.phase = .local then some violation.element else memory.element

end Memory

/-- The violations with their headers. -/
def body (table : TemplateTable) : Memory → List Violation → String
  | _, [] => ""
  | memory, violation :: rest =>
      (if memory.startsGroup violation then header violation else "") ++
        table.line violation ++ "\n" ++ body table (memory.after violation) rest

/-- The first line: a pass if there are no violations, else the verdict. -/
def firstLine (audit : Audit) : String :=
  if audit.violations.isEmpty then Status.pass.name else audit.status.name

/-- The text of an audit as it is. -/
def text (table : TemplateTable) (audit : Audit) : String :=
  firstLine audit ++ "\n" ++ body table .start audit.violations.toList

/-- Write the report of an audit, which is annotated and closed by it. -/
def write (table : TemplateTable) (audit : Audit) : Audit × String :=
  let audit := audit.annotate.close
  (audit, text table audit)

end Report

end MarkupAudit
