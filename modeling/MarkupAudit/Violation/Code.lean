/-
# Violation codes

The kinds of deviation that an audit can record. Each has a written name, by which message
tables and results refer to it; a name is read back to the only code that has it.
-/

import MarkupAudit.Failure

namespace MarkupAudit

/-- A kind of deviation. -/
inductive Code where
  | unknownCode
  | mandatoryTagMissing
  | tagRequiredByMissing
  | disallowedTag
  | disallowedTagAncestor
  | mandatoryTagAncestor
  | mandatoryTagAncestorWithHint
  | wrongParentTag
  | duplicateUniqueTag
  | disallowedAttr
  | invalidAttrValue
  | mandatoryAttrMissing
  | mandatoryOneofAttrMissing
  | mutuallyExclusiveAttrs
  | deprecatedAttr
  | deprecatedTag
  | missingUrl
  | invalidUrl
  | invalidUrlProtocol
  | disallowedPropertyInAttrValue
  | invalidPropertyValueInAttrValue
  | mandatoryPropertyMissingFromAttrValue
  deriving Repr, DecidableEq, Inhabited

namespace Code

/-- Every code, in the order in which they are listed. -/
def all : List Code :=
  [unknownCode, mandatoryTagMissing, tagRequiredByMissing, disallowedTag, disallowedTagAncestor,
   mandatoryTagAncestor, mandatoryTagAncestorWithHint, wrongParentTag, duplicateUniqueTag,
   disallowedAttr, invalidAttrValue, mandatoryAttrMissing, mandatoryOneofAttrMissing,
   mutuallyExclusiveAttrs, deprecatedAttr, deprecatedTag, missingUrl, invalidUrl,
   invalidUrlProtocol, disallowedPropertyInAttrValue, invalidPropertyValueInAttrValue,
   mandatoryPropertyMissingFromAttrValue]

/-- The written name of a code. -/
def name : Code → String
  | unknownCode => "UNKNOWN_CODE"
  | mandatoryTagMissing => "MANDATORY_TAG_MISSING"
  | tagRequiredByMissing => "TAG_REQUIRED_BY_MISSING"
  | disallowedTag => "DISALLOWED_TAG"
  | disallowedTagAncestor => "DISALLOWED_TAG_ANCESTOR"
  | mandatoryTagAncestor => "MANDATORY_TAG_ANCESTOR"
  | mandatoryTagAncestorWithHint => "MANDATORY_TAG_ANCESTOR_WITH_HINT"
  | wrongParentTag => "WRONG_PARENT_TAG"
  | duplicateUniqueTag => "DUPLICATE_UNIQUE_TAG"
  | disallowedAttr => "DISALLOWED_ATTR"
  | invalidAttrValue => "INVALID_ATTR_VALUE"
  | mandatoryAttrMissing => "MANDATORY_ATTR_MISSING"
  | mandatoryOneofAttrMissing => "MANDATORY_ONEOF_ATTR_MISSING"
  | mutuallyExclusiveAttrs => "MUTUALLY_EXCLUSIVE_ATTRS"
  | deprecatedAttr => "DEPRECATED_ATTR"
  | deprecatedTag => "DEPRECATED_TAG"
  | missingUrl => "MISSING_URL"
  | invalidUrl => "INVALID_URL"
  | invalidUrlProtocol => "INVALID_URL_PROTOCOL"
  | disallowedPropertyInAttrValue => "DISALLOWED_PROPERTY_IN_ATTR_VALUE"
  | invalidPropertyValueInAttrValue => "INVALID_PROPERTY_VALUE_IN_ATTR_VALUE"
  | mandatoryPropertyMissingFromAttrValue => "MANDATORY_PROPERTY_MISSING_FROM_ATTR_VALUE"

/-- The code with a given name. -/
def ofName? (text : String) : Option Code :=
  all.find? (·.name == text)

/-- Every code is listed. -/
theorem mem_all (code : Code) : code ∈ all := by
  cases code <;> decide

/-- A written name is read back to the code that has it. -/
theorem ofName?_name (code : Code) : ofName? code.name = some code := by
  cases code <;> decide

/-- No two codes have one name. -/
theorem name_inj {first second : Code} : first.name = second.name ↔ first = second := by
  refine ⟨fun same => ?_, congrArg name⟩
  have read := congrArg ofName? same
  rw [ofName?_name, ofName?_name] at read
  exact Option.some.inj read

/-- The code with a given name; there must be one. -/
def ofName (text : String) : Except Failure Code :=
  match ofName? text with
  | some code => .ok code
  | none => .error (.unknownCode text)

end Code

end MarkupAudit
