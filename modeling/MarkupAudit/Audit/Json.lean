/-
# Audits in JSON

How an audit is written as a JSON value. Every field of a violation is written, in a fixed
order, and what is missing is null; only whether the audit is closed is left out.
-/

import MarkupAudit.Audit.Basic
import MarkupAudit.Json.Printer

namespace MarkupAudit

/-- A violation as a JSON object. -/
def Violation.toJson (violation : Violation) : Json :=
  .object
    [("code", .string violation.code.name),
     ("params", .array (violation.params.map .string)),
     ("detail", .optional .string violation.detail),
     ("line", .natural violation.line),
     ("element", .optional (.natural ·.index) violation.element),
     ("context_string", .string violation.heading),
     ("phase", .string violation.phase.name),
     ("severity", .string violation.severity.name),
     ("category", .optional (.string ·.name) violation.category),
     ("spec_url", .optional .string violation.specUrl),
     ("action_taken",
      .optional (fun text => .object [("human_description", .string text)]) violation.action)]

/-- An audit as a JSON object. -/
def Audit.toJson (audit : Audit) : Json :=
  .object
    [("status", .string audit.status.name),
     ("errors", .array (audit.violations.toList.map Violation.toJson)),
     ("tags_processed", .natural audit.tagsProcessed)]

end MarkupAudit
