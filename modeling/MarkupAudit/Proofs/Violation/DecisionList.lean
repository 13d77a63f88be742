/-
# Triage as a decision list

Triage is laid down as an ordered list of conditions on the code and the parameters of a violation:
the first condition that holds decides the category. The conditions overlap, so their order is part
of what is laid down. The categorizer does not go through such a list. It branches on the code and
asks only what is left to ask for this code, in an order of its own for each.

The list is written down here as data, in its seventeen rows, with conditions that are read as
statements about texts and not as computations. The categorizer gives the category that the list
decides, for every code and all parameters, and nothing but these has a part in it.
-/

import MarkupAudit.Violation.Basic

namespace MarkupAudit

/-! ## Conditions -/

namespace DecisionList

/-- A condition on the text of a parameter. -/
inductive Test where
  | is (text : String)
  | among (texts : List String)
  | begins (start : String)
  | ends (tail : String)
  deriving Repr, DecidableEq

/-- A condition on the code and the parameters of a violation. -/
inductive Guard where
  | always
  | noParams
  | coded (codes : List Code)
  /-- The parameter at a place is there and satisfies a condition. -/
  | param (place : Nat) (test : Test)
  | both (first second : Guard)
  | either (first second : Guard)
  deriving Repr, DecidableEq

/-- A text satisfies a condition. It begins or ends with another one if it is that one with some
text after or before it, so no character is ever cut. -/
def Test.Holds (text : String) : Test → Prop
  | is other => text = other
  | among texts => text ∈ texts
  | begins start => ∃ rest, text = start ++ rest
  | ends tail => ∃ rest, text = rest ++ tail

/-- A code and parameters satisfy a condition. -/
def Guard.Holds (code : Code) (params : List String) : Guard → Prop
  | always => True
  | noParams => params = []
  | coded codes => code ∈ codes
  | param place test => ∃ text, params[place]? = some text ∧ test.Holds text
  | both first second => first.Holds code params ∧ second.Holds code params
  | either first second => first.Holds code params ∨ second.Holds code params

/-- The category of the first entry whose condition holds. -/
def Decides (entries : List (Guard × Category)) (code : Code) (params : List String)
    (category : Category) : Prop :=
  ∃ before guard after, entries = before ++ (guard, category) :: after ∧
    guard.Holds code params ∧ ∀ entry ∈ before, ¬entry.1.Holds code params

/-! ## The list -/

/-- The parameter at a place names a tag that the framework defines. -/
def Guard.reserved (place : Nat) : Guard := .param place (.begins "amp-")

/-- What is laid down for triage, row by row. A row with an alternative has two entries. -/
def rows : List (List (Guard × Category)) := [
  -- 1
  [(.either .noParams (.coded [.unknownCode]), .unknown)],
  -- 2
  [(.both (.coded [.disallowedTag])
      (.param 0 (.among ["img", "video", "audio", "iframe", "font"])),
    .disallowedHtmlWithEquivalent),
   (.coded [.disallowedTag], .disallowedHtml)],
  -- 3
  [(.coded [.mandatoryTagAncestorWithHint], .disallowedHtmlWithEquivalent)],
  -- 4
  [(.either (.coded [.mandatoryTagMissing])
      (.both (.coded [.mandatoryAttrMissing]) (.param 0 (.is "\\u26a"))),
    .mandatoryTagMissingOrIncorrect)],
  -- 5
  [(.both (.coded [.disallowedPropertyInAttrValue, .invalidPropertyValueInAttrValue,
        .mandatoryPropertyMissingFromAttrValue])
      (.param 2 (.is "meta name=viewport")),
    .mandatoryTagMissingOrIncorrect)],
  -- 6
  [(.both (.coded [.invalidAttrValue, .mandatoryAttrMissing])
      (.param 0 (.among ["width", "height", "layout"])),
    .layoutProblem)],
  -- 7
  [(.both (.coded [.invalidAttrValue]) (.both (.param 0 (.is "src")) (.param 1 (.ends "script"))),
    .customScriptDisallowed)],
  -- 8
  [(.both (.coded [.invalidAttrValue])
      (.both (.param 0 (.is "type")) (.param 1 (.begins "script"))),
    .customScriptDisallowed)],
  -- 9
  [(.both (.coded [.invalidAttrValue, .disallowedAttr, .mandatoryAttrMissing]) (.reserved 1),
    .namespaceTagProblem),
   (.coded [.invalidAttrValue, .disallowedAttr, .mandatoryAttrMissing], .disallowedHtml)],
  -- 10
  [(.coded [.mandatoryOneofAttrMissing], .namespaceTagProblem)],
  -- 11
  [(.coded [.deprecatedAttr, .deprecatedTag], .deprecation)],
  -- 12
  [(.both (.coded [.wrongParentTag]) (.either (.reserved 0) (.either (.reserved 1) (.reserved 2))),
    .namespaceTagProblem),
   (.coded [.wrongParentTag], .disallowedHtml)],
  -- 13
  [(.both (.coded [.tagRequiredByMissing]) (.reserved 1), .namespaceTagProblem)],
  -- 14
  [(.both (.coded [.mutuallyExclusiveAttrs]) (.reserved 0), .namespaceTagProblem)],
  -- 15
  [(.coded [.duplicateUniqueTag], .mandatoryTagMissingOrIncorrect)],
  -- 16
  [(.both (.coded [.missingUrl, .invalidUrl, .invalidUrlProtocol]) (.reserved 1),
    .namespaceTagProblem),
   (.coded [.missingUrl, .invalidUrl, .invalidUrlProtocol], .disallowedHtml)],
  -- 17
  [(.always, .generic)]]

/-- The entries of all rows, in order. -/
def entries : List (Guard × Category) := rows.flatten

/-! ## Running a list -/

/-- Whether a text satisfies a condition. -/
def Test.test (text : String) : Test → Bool
  | is other => text == other
  | among texts => texts.contains text
  | begins start => Category.startsWith start text
  | ends tail => Category.endsWith tail text

/-- Whether a code and parameters satisfy a condition. -/
def Guard.test (code : Code) (params : List String) : Guard → Bool
  | always => true
  | noParams => params.isEmpty
  | coded codes => codes.contains code
  | param place test => Category.paramHas params place test.test
  | both first second => first.test code params && second.test code params
  | either first second => first.test code params || second.test code params

/-- Go through a list up to the first entry whose condition holds. -/
def firstMatch (code : Code) (params : List String) :
    List (Guard × Category) → Option Category
  | [] => none
  | (guard, category) :: rest =>
      if guard.test code params then some category else firstMatch code params rest

theorem startsWith_iff_exists (start text : String) :
    Category.startsWith start text = true ↔ ∃ rest, text = start ++ rest := by
  rw [Category.startsWith, List.isPrefixOf_iff_prefix]
  constructor
  · rintro ⟨rest, split⟩
    exact ⟨.ofList rest, String.toList_inj.mp (by simp [split])⟩
  · rintro ⟨rest, rfl⟩
    exact ⟨rest.toList, String.toList_append.symm⟩

theorem endsWith_iff_exists (tail text : String) :
    Category.endsWith tail text = true ↔ ∃ rest, text = rest ++ tail := by
  rw [Category.endsWith, List.isSuffixOf_iff_suffix]
  constructor
  · rintro ⟨rest, split⟩
    exact ⟨.ofList rest, String.toList_inj.mp (by simp [split])⟩
  · rintro ⟨rest, rfl⟩
    exact ⟨rest.toList, String.toList_append.symm⟩

theorem Test.test_iff (text : String) (test : Test) :
    test.test text = true ↔ test.Holds text := by
  cases test with
  | is other => exact beq_iff_eq
  | among texts => exact List.contains_iff_mem
  | begins start => exact startsWith_iff_exists start text
  | ends tail => exact endsWith_iff_exists tail text

theorem Guard.test_iff (code : Code) (params : List String) (guard : Guard) :
    guard.test code params = true ↔ guard.Holds code params := by
  induction guard with
  | always => exact iff_of_true rfl trivial
  | noParams => exact List.isEmpty_iff
  | coded codes => exact List.contains_iff_mem
  | param place test =>
      rw [Guard.test, Category.paramHas, Option.any_eq_true]
      exact exists_congr fun text => and_congr_right fun _ => test.test_iff text
  | both first second ihFirst ihSecond =>
      rw [Guard.test, Bool.and_eq_true, ihFirst, ihSecond]
      rfl
  | either first second ihFirst ihSecond =>
      rw [Guard.test, Bool.or_eq_true, ihFirst, ihSecond]
      rfl

theorem firstMatch_eq_find? (code : Code) (params : List String)
    (entries : List (Guard × Category)) :
    firstMatch code params entries =
      (entries.find? fun entry => entry.1.test code params).map Prod.snd := by
  induction entries with
  | nil => rfl
  | cons entry rest ih =>
      obtain ⟨guard, category⟩ := entry
      rw [firstMatch, List.find?_cons, ih]
      cases guard.test code params with
      | true => rfl
      | false => rfl

/-- The first entry that is found is the one that decides. -/
theorem firstMatch_eq_some_iff (code : Code) (params : List String)
    (entries : List (Guard × Category)) (category : Category) :
    firstMatch code params entries = some category ↔ Decides entries code params category := by
  have fails (guard : Guard) :
      (!guard.test code params) = true ↔ ¬guard.Holds code params := by
    rw [Bool.not_eq_true', ← Bool.not_eq_true, guard.test_iff]
  rw [firstMatch_eq_find?, Option.map_eq_some_iff]
  simp only [List.find?_eq_some_iff_append, Guard.test_iff, fails]
  constructor
  · rintro ⟨⟨guard, _⟩, ⟨holds, before, after, split, earlier⟩, rfl⟩
    exact ⟨before, guard, after, split, holds, earlier⟩
  · rintro ⟨before, guard, after, split, holds, earlier⟩
    exact ⟨(guard, category), ⟨holds, before, after, split, earlier⟩, rfl⟩

/-! ## The categorizer -/

/-- For each code, the entries that can hold of it ask what the categorizer asks, in the same
order. -/
theorem firstMatch_entries (code : Code) (params : List String) :
    firstMatch code params entries = some (Category.of code params) := by
  cases params with
  | nil => rfl
  | cons first rest =>
      cases code with
      | disallowedTag | tagRequiredByMissing | disallowedAttr | mutuallyExclusiveAttrs
      | missingUrl | invalidUrl | invalidUrlProtocol
      | disallowedPropertyInAttrValue | invalidPropertyValueInAttrValue
      | mandatoryPropertyMissingFromAttrValue => exact (apply_ite some _ _ _).symm
      | wrongParentTag =>
          simp only [Category.of, Category.ofCode, Category.ofTag, List.any_cons, List.any_nil,
            Bool.or_false, apply_ite some]
          rfl
      | invalidAttrValue =>
          simp only [Category.of, Category.ofCode, Category.ofInvalidValue, Category.ofTag,
            apply_ite some]
          rfl
      | mandatoryAttrMissing =>
          simp only [Category.of, Category.ofCode, Category.ofMissingAttribute, Category.ofTag,
            apply_ite some]
          rfl
      | _ => rfl

end DecisionList

/-- The category of a violation is the one that the first condition decides which holds of its code
and its parameters, and whatever else is known of the violation makes no difference. -/
theorem Violation.categorize_decides (violation : Violation) :
    (∀ category, violation.categorize = category ↔
      DecisionList.Decides DecisionList.entries violation.code violation.params category) ∧
    ∀ detail line element heading phase severity category specUrl action,
      Violation.categorize ⟨violation.code, violation.params, detail, line, element, heading,
        phase, severity, category, specUrl, action⟩ = violation.categorize := by
  refine ⟨fun category => ?_, fun _ _ _ _ _ _ _ _ _ => rfl⟩
  rw [← DecisionList.firstMatch_eq_some_iff, DecisionList.firstMatch_entries, Option.some.injEq]
  rfl

/-- The conditions of rows 7 and 9 both hold here, and the earlier one decides. -/
example : Violation.categorize (.ofDocument .invalidAttrValue ["src", "amp-script", "x.js"]) =
    .customScriptDisallowed := by decide +kernel

end MarkupAudit
