/-
# Triage categories

Every violation falls into one coarse category, which depends on its code and its parameters
alone. For each code the conditions are asked in a fixed order, and the first that holds
decides; a condition on a parameter that is missing does not hold. A violation without any
parameters is always of the unknown category.
-/

import MarkupAudit.Violation.Code

namespace MarkupAudit

/-- The coarse kind of a violation. -/
inductive Category where
  | unknown
  | disallowedHtmlWithEquivalent
  | disallowedHtml
  | mandatoryTagMissingOrIncorrect
  | layoutProblem
  | customScriptDisallowed
  | namespaceTagProblem
  | deprecation
  | generic
  deriving Repr, DecidableEq, Inhabited

namespace Category

/-- The written name of a category. -/
def name : Category → String
  | unknown => "UNKNOWN"
  | disallowedHtmlWithEquivalent => "DISALLOWED_HTML_WITH_EQUIVALENT"
  | disallowedHtml => "DISALLOWED_HTML"
  | mandatoryTagMissingOrIncorrect => "MANDATORY_TAG_MISSING_OR_INCORRECT"
  | layoutProblem => "LAYOUT_PROBLEM"
  | customScriptDisallowed => "CUSTOM_SCRIPT_DISALLOWED"
  | namespaceTagProblem => "NAMESPACE_TAG_PROBLEM"
  | deprecation => "DEPRECATION"
  | generic => "GENERIC"

/-- No two categories have one name. -/
theorem name_inj {first second : Category} : first.name = second.name ↔ first = second := by
  cases first <;> cases second <;> decide

/-- How the names of the tags begin that the framework itself defines. -/
def reservedStart : String := "amp-"

/-- The parameter by which the missing marker attribute of the top tag is recognized: a
backslash and four letters and digits, not a character that they stand for. -/
def sentinel : String := "\\u26a"

/-- Plain tags for which the framework has a tag of its own. -/
def tagsWithEquivalent : List String := ["img", "video", "audio", "iframe", "font"]

/-- Attributes that describe how much room an element takes. -/
def layoutAttributes : List String := ["width", "height", "layout"]

/-- A text begins with another one. -/
def startsWith (start text : String) : Bool :=
  start.toList.isPrefixOf text.toList

/-- A text ends with another one. -/
def endsWith (tail text : String) : Bool :=
  tail.toList.isSuffixOf text.toList

/-- The parameter at a place is there and satisfies a condition. -/
def paramHas (params : List String) (place : Nat) (condition : String → Bool) : Bool :=
  params[place]?.any condition

/-- The parameter at a place names a tag that the framework defines. -/
def isReserved (params : List String) (place : Nat) : Bool :=
  paramHas params place (startsWith reservedStart)

/-- The category of a problem of a tag: the framework's own tags have one of theirs. -/
def ofTag (reserved : Bool) : Category :=
  if reserved then namespaceTagProblem else disallowedHtml

/-- The category of an attribute with a value that its tag does not allow. -/
def ofInvalidValue (params : List String) : Category :=
  if paramHas params 0 layoutAttributes.contains then layoutProblem
  else if paramHas params 0 (· == "src") && paramHas params 1 (endsWith "script") then
    customScriptDisallowed
  else if paramHas params 0 (· == "type") && paramHas params 1 (startsWith "script") then
    customScriptDisallowed
  else ofTag (isReserved params 1)

/-- The category of an attribute that its tag requires and does not have. -/
def ofMissingAttribute (params : List String) : Category :=
  if paramHas params 0 (· == sentinel) then mandatoryTagMissingOrIncorrect
  else if paramHas params 0 layoutAttributes.contains then layoutProblem
  else ofTag (isReserved params 1)

/-- The category of a violation with a given code and at least one parameter. -/
def ofCode (code : Code) (params : List String) : Category :=
  match code with
  | .unknownCode => unknown
  | .mandatoryTagMissing => mandatoryTagMissingOrIncorrect
  | .tagRequiredByMissing => if isReserved params 1 then namespaceTagProblem else generic
  | .disallowedTag =>
      if paramHas params 0 tagsWithEquivalent.contains then disallowedHtmlWithEquivalent
      else disallowedHtml
  | .disallowedTagAncestor => generic
  | .mandatoryTagAncestor => generic
  | .mandatoryTagAncestorWithHint => disallowedHtmlWithEquivalent
  | .wrongParentTag => ofTag ([0, 1, 2].any (isReserved params))
  | .duplicateUniqueTag => mandatoryTagMissingOrIncorrect
  | .disallowedAttr => ofTag (isReserved params 1)
  | .invalidAttrValue => ofInvalidValue params
  | .mandatoryAttrMissing => ofMissingAttribute params
  | .mandatoryOneofAttrMissing => namespaceTagProblem
  | .mutuallyExclusiveAttrs => if isReserved params 0 then namespaceTagProblem else generic
  | .deprecatedAttr => deprecation
  | .deprecatedTag => deprecation
  | .missingUrl => ofTag (isReserved params 1)
  | .invalidUrl => ofTag (isReserved params 1)
  | .invalidUrlProtocol => ofTag (isReserved params 1)
  | .disallowedPropertyInAttrValue
  | .invalidPropertyValueInAttrValue
  | .mandatoryPropertyMissingFromAttrValue =>
      if paramHas params 2 (· == "meta name=viewport") then mandatoryTagMissingOrIncorrect
      else generic

/-- The category of a violation with a given code and given parameters. -/
def of (code : Code) (params : List String) : Category :=
  if params.isEmpty then unknown else ofCode code params

end Category

end MarkupAudit
