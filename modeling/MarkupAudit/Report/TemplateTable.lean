/-
# Template tables

The messages of violations, by code. A table is written in TOML, with the names of codes as
keys and templates as values. A value that is no template is reported before a key that is no
code. The built-in table has a template for every code but the unknown one; it is kept as it is
used and also as the text that a file with it has.
-/

import MarkupAudit.Toml.Reader
import MarkupAudit.Violation.Code

namespace MarkupAudit

/-- A table of templates, at most one for each code. -/
structure TemplateTable where
  entries : List (Code × String)
  deriving Repr, DecidableEq, Inhabited

namespace TemplateTable

/-- The template for a code. -/
def get? (table : TemplateTable) (code : Code) : Option String :=
  table.entries.lookup code

/-- The number of templates. -/
def size (table : TemplateTable) : Nat := table.entries.length

/-- An entry of a table whose value is a template. -/
def textOf? : String × Toml → Option (String × String)
  | (name, .string template) => some (name, template)
  | _ => none

/-- Read the names of codes. -/
def ofNames (entries : List (String × String)) : Except Failure TemplateTable := do
  let entries ← entries.mapM fun (name, template) => do
    let code ← Code.ofName name
    .ok (code, template)
  .ok ⟨entries⟩

/-- Read a table from its text. -/
def ofText (text : String) : Except Failure TemplateTable :=
  match (Toml.read text).bind (·.mapM textOf?) with
  | some entries => ofNames entries
  | none => .error (.table .templates)

/-- The built-in messages. -/
def builtin : TemplateTable where
  entries :=
    [(.mandatoryTagMissing,
      "The mandatory tag '%1' is missing or incorrect."),
     (.tagRequiredByMissing,
      "The '%1' tag is missing or incorrect, but required by '%2'."),
     (.disallowedTag,
      "The tag '%1' is disallowed."),
     (.disallowedTagAncestor,
      "The tag '%1' may not appear as a descendant of tag '%2'."),
     (.mandatoryTagAncestor,
      "The tag '%1' may only appear as a descendant of tag '%2'."),
     (.mandatoryTagAncestorWithHint,
      "The tag '%1' may only appear as a descendant of tag '%2'. Did you mean '%3'?"),
     (.wrongParentTag,
      "The parent tag of tag '%1' is '%2', but it can only be '%3'."),
     (.duplicateUniqueTag,
      "The tag '%1' appears more than once in the document."),
     (.disallowedAttr,
      "The attribute '%1' may not appear in tag '%2'."),
     (.invalidAttrValue,
      "The attribute '%1' in tag '%2' is set to the invalid value '%3'."),
     (.mandatoryAttrMissing,
      "The mandatory attribute '%1' is missing in tag '%2'."),
     (.mandatoryOneofAttrMissing,
      "The tag '%1' is missing a mandatory attribute - pick one of %2."),
     (.mutuallyExclusiveAttrs,
      "Mutually exclusive attributes encountered in tag '%1' - pick one of %2."),
     (.deprecatedAttr,
      "The attribute '%1' in tag '%2' is deprecated - use '%3' instead."),
     (.deprecatedTag,
      "The tag '%1' is deprecated - use '%2' instead."),
     (.missingUrl,
      "Missing URL for attribute '%1' in tag '%2'."),
     (.invalidUrl,
      "Malformed URL '%3' for attribute '%1' in tag '%2'."),
     (.invalidUrlProtocol,
      "Invalid URL protocol '%3:' for attribute '%1' in tag '%2'."),
     (.disallowedPropertyInAttrValue,
      "The property '%1' in attribute '%2' in tag '%3' is disallowed."),
     (.invalidPropertyValueInAttrValue,
      "The property '%1' in attribute '%2' in tag '%3' is set to '%4', which is invalid."),
     (.mandatoryPropertyMissingFromAttrValue,
      "The property '%1' is missing from attribute '%2' in tag '%3'.")]

/-- The text of the built-in messages. -/
def builtinText : String :=
  r#"# Default English messages, keyed by violation code.
# %1, %2, ... are replaced by the violation's parameters in order.

MANDATORY_TAG_MISSING = "The mandatory tag '%1' is missing or incorrect."
TAG_REQUIRED_BY_MISSING = "The '%1' tag is missing or incorrect, but required by '%2'."
DISALLOWED_TAG = "The tag '%1' is disallowed."
DISALLOWED_TAG_ANCESTOR = "The tag '%1' may not appear as a descendant of tag '%2'."
MANDATORY_TAG_ANCESTOR = "The tag '%1' may only appear as a descendant of tag '%2'."
MANDATORY_TAG_ANCESTOR_WITH_HINT = "The tag '%1' may only appear as a descendant of tag '%2'. Did you mean '%3'?"
WRONG_PARENT_TAG = "The parent tag of tag '%1' is '%2', but it can only be '%3'."
DUPLICATE_UNIQUE_TAG = "The tag '%1' appears more than once in the document."
DISALLOWED_ATTR = "The attribute '%1' may not appear in tag '%2'."
INVALID_ATTR_VALUE = "The attribute '%1' in tag '%2' is set to the invalid value '%3'."
MANDATORY_ATTR_MISSING = "The mandatory attribute '%1' is missing in tag '%2'."
MANDATORY_ONEOF_ATTR_MISSING = "The tag '%1' is missing a mandatory attribute - pick one of %2."
MUTUALLY_EXCLUSIVE_ATTRS = "Mutually exclusive attributes encountered in tag '%1' - pick one of %2."
DEPRECATED_ATTR = "The attribute '%1' in tag '%2' is deprecated - use '%3' instead."
DEPRECATED_TAG = "The tag '%1' is deprecated - use '%2' instead."
MISSING_URL = "Missing URL for attribute '%1' in tag '%2'."
INVALID_URL = "Malformed URL '%3' for attribute '%1' in tag '%2'."
INVALID_URL_PROTOCOL = "Invalid URL protocol '%3:' for attribute '%1' in tag '%2'."
DISALLOWED_PROPERTY_IN_ATTR_VALUE = "The property '%1' in attribute '%2' in tag '%3' is disallowed."
INVALID_PROPERTY_VALUE_IN_ATTR_VALUE = "The property '%1' in attribute '%2' in tag '%3' is set to '%4', which is invalid."
MANDATORY_PROPERTY_MISSING_FROM_ATTR_VALUE = "The property '%1' is missing from attribute '%2' in tag '%3'."
"#

end TemplateTable

end MarkupAudit
