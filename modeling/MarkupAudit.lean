import MarkupAudit.Document.Load
import MarkupAudit.Main
import MarkupAudit.Proofs.Audit.Annotation
import MarkupAudit.Proofs.Audit.Append
import MarkupAudit.Proofs.Audit.AppendOnly
import MarkupAudit.Proofs.Audit.Decoding
import MarkupAudit.Proofs.Audit.Printed
import MarkupAudit.Proofs.Audit.Rendered
import MarkupAudit.Proofs.Audit.Verdict
import MarkupAudit.Proofs.CommandLine.Arguments
import MarkupAudit.Proofs.CommandLine.Categories
import MarkupAudit.Proofs.CommandLine.Outcome
import MarkupAudit.Proofs.CommandLine.Texts
import MarkupAudit.Proofs.Document.Attributes
import MarkupAudit.Proofs.Document.Editing
import MarkupAudit.Proofs.Document.Iteration
import MarkupAudit.Proofs.Document.Loading
import MarkupAudit.Proofs.Document.Notations
import MarkupAudit.Proofs.Document.Offences
import MarkupAudit.Proofs.Document.Preorder
import MarkupAudit.Proofs.Document.Rearrangement
import MarkupAudit.Proofs.Json.Printing
import MarkupAudit.Proofs.Json.Reading
import MarkupAudit.Proofs.Pattern.WholeValues
import MarkupAudit.Proofs.Report.Grouping
import MarkupAudit.Proofs.Report.Outline
import MarkupAudit.Proofs.Report.Seams
import MarkupAudit.Proofs.Report.Shape
import MarkupAudit.Proofs.Report.Substitution
import MarkupAudit.Proofs.Report.Verdict
import MarkupAudit.Proofs.Rules.Abridgement
import MarkupAudit.Proofs.Rules.Absence
import MarkupAudit.Proofs.Rules.Bookkeeping
import MarkupAudit.Proofs.Rules.Builtin
import MarkupAudit.Proofs.Rules.Codes
import MarkupAudit.Proofs.Rules.Compilation
import MarkupAudit.Proofs.Rules.Conformance
import MarkupAudit.Proofs.Rules.Exclusion
import MarkupAudit.Proofs.Rules.Findings
import MarkupAudit.Proofs.Rules.HeldValues
import MarkupAudit.Proofs.Rules.LastDefinition
import MarkupAudit.Proofs.Rules.Legibility
import MarkupAudit.Proofs.Rules.LetterCase
import MarkupAudit.Proofs.Rules.Padding
import MarkupAudit.Proofs.Rules.Phases
import MarkupAudit.Proofs.Rules.Placement
import MarkupAudit.Proofs.Rules.Rearrangement
import MarkupAudit.Proofs.Rules.Refusal
import MarkupAudit.Proofs.Rules.Repetition
import MarkupAudit.Proofs.Rules.Respelling
import MarkupAudit.Proofs.Rules.Spellings
import MarkupAudit.Proofs.Rules.TableOrder
import MarkupAudit.Proofs.Rules.Triage
import MarkupAudit.Proofs.Rules.Wording
import MarkupAudit.Proofs.Scan.Protocol
import MarkupAudit.Proofs.Text.Idempotence
import MarkupAudit.Proofs.Toml.BuiltinTexts
import MarkupAudit.Proofs.Violation.DecisionList
import MarkupAudit.Report.Substitution
import MarkupAudit.Rules.Register
