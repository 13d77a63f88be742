/-
# Legible reports

Whether the groups of a report can be read off its empty lines depends on texts that the report
quotes: names of tags in headers, and whatever the messages and references contain. They come from
the document and from the rules, and nothing is escaped. So a document can fake a header, by a line
feed in the name of a tag or an empty line in an attribute, and if neither the document nor the
rules have any of these, no report on it has a header that is not one.
-/

import Mathlib.Tactic.MkIffOfInductiveProp
import MarkupAudit.Proofs.Report.Outline
import MarkupAudit.Proofs.Rules.Placement
import MarkupAudit.Proofs.Rules.Wording

namespace MarkupAudit

open Text (HasEmptyLine)

/-! ## What is added to violations -/

namespace Violation

/-- Nothing is known about where the rule is documented, nor about a repair. -/
structure IsBare (violation : Violation) : Prop where
  specUrl_eq : violation.specUrl = none
  action_eq : violation.action = none

/-- Nothing is known about a repair, and the rule is documented where some rule says. -/
structure IsReferred (rules : RuleSet) (violation : Violation) : Prop where
  specUrl_mem : ∀ url ∈ violation.specUrl, ∃ rule ∈ rules.tags, rule.definition.specUrl = some url
  action_eq : violation.action = none

variable {rules : RuleSet} {violation : Violation}

@[simp]
theorem isBare_found (context : Context) (code : Code) (params : List String) :
    (found context code params).IsBare := by
  unfold found
  cases context.phase <;> exact ⟨rfl, rfl⟩

@[simp]
theorem isBare_asWarning_found (context : Context) (code : Code) (params : List String) :
    (found context code params).asWarning.IsBare :=
  ⟨(isBare_found context code params).specUrl_eq, (isBare_found context code params).action_eq⟩

theorem IsBare.isReferred (bare : violation.IsBare) : violation.IsReferred rules :=
  ⟨by simp [bare.specUrl_eq], bare.action_eq⟩

theorem IsBare.documentedAt (bare : violation.IsBare) {rule : TagRule}
    (defined : rule ∈ rules.tags) :
    (violation.documentedAt rule.definition.specUrl).IsReferred rules := by
  cases known : rule.definition.specUrl with
  | none => exact bare.isReferred
  | some url =>
      refine ⟨?_, bare.action_eq⟩
      rintro _ ⟨⟩
      exact ⟨rule, defined, known⟩

end Violation

namespace TagRule

variable (rules : RuleSet) (rule : TagRule) (context : Context) (tag : String)
  (attributes : AttributeSet) (occurrences : Nat)

theorem isReferred_findings (defined : rule ∈ rules.tags) :
    ∀ violation ∈ rule.findings rules context tag attributes occurrences,
      violation.IsReferred rules := by
  have deprecation : ∀ violation ∈ rule.deprecationFindings context tag, violation.IsBare := by
    unfold deprecationFindings
    split <;> simp
  have uniqueness : ∀ violation ∈ rule.uniquenessFindings context tag occurrences,
      violation.IsBare := by
    unfold uniquenessFindings
    split <;> simp
  have parent : ∀ violation ∈ rule.parentFindings context tag, violation.IsBare := by
    unfold parentFindings
    split
    · simp
    · dsimp only
      split <;> simp
  have given (name value : String) :
      ∀ violation ∈ attributeFindings rules rule context tag name value, violation.IsBare := by
    unfold attributeFindings
    split
    · rename_i known _
      unfold knownAttributeFindings
      cases known.definition.replacement <;> split <;> simp
    · split <;> simp
  have missing : ∀ violation ∈ rule.missingFindings context tag attributes, violation.IsBare :=
    List.forall_mem_map.mpr fun _ _ => Violation.isBare_found _ _ _
  have oneOf : ∀ violation ∈ rule.oneOfFindings context tag attributes, violation.IsBare := by
    unfold oneOfFindings
    dsimp only
    split <;> simp
  have exclusive : ∀ violation ∈ rule.exclusiveFindings context tag attributes,
      violation.IsBare := by
    unfold exclusiveFindings
    dsimp only
    split <;> simp
  refine List.forall_mem_map.mpr fun violation listed => ?_
  refine Violation.IsBare.documentedAt ?_ defined
  simp only [List.mem_append, List.mem_flatMap] at listed
  rcases listed with (((((found | found) | found) | ⟨entry, _, found⟩) | found) | found) | found
  · exact deprecation _ found
  · exact uniqueness _ found
  · exact parent _ found
  · exact given _ _ _ found
  · exact missing _ found
  · exact oneOf _ found
  · exact exclusive _ found

end TagRule

namespace RuleSet

variable (rules : RuleSet) (document : Document)

theorem mem_tags_of_tag? {name : String} {rule : TagRule} (defined : rules.tag? name = some rule) :
    rule ∈ rules.tags :=
  List.mem_reverse.mp (List.mem_of_find?_eq_some defined)

theorem isReferred_allFindings :
    ∀ violation ∈ rules.allFindings document, violation.IsReferred rules := by
  intro violation listed
  rcases List.mem_append.mp listed with visit | whole
  · obtain ⟨_, element, _, _, found⟩ := rules.mem_visitFindings document visit
    unfold elementFindings tagFindings at found
    split at found
    · obtain rfl := List.mem_singleton.mp found
      exact (Violation.isBare_found _ _ _).isReferred
    · rename_i rule defined
      exact rule.isReferred_findings rules _ _ _ _ (rules.mem_tags_of_tag? defined) _ found
  · rcases List.mem_append.mp whole with missing | required
    · obtain ⟨rule, chosen, rfl⟩ := List.mem_map.mp missing
      exact (Violation.isBare_found _ _ _).documentedAt (List.mem_filter.mp chosen).1
    · obtain ⟨tag, _, found⟩ := List.mem_flatMap.mp required
      split at found
      · cases found
      · rename_i rule defined
        obtain ⟨name, _, rfl⟩ := List.mem_map.mp found
        exact (Violation.isBare_found _ _ _).documentedAt (rules.mem_tags_of_tag? defined)

end RuleSet

/-! ## Texts that are quoted -/

/-- The texts of a rule that can be quoted in a report. -/
def TagRule.texts (rule : TagRule) : List String :=
  rule.definition.name :: (rule.definition.mandatoryParent.toList ++
    rule.definition.replacement.toList ++ rule.definition.requires ++ rule.definition.oneOf ++
    rule.definition.exclusive ++ rule.definition.specUrl.toList ++
    rule.attributes.flatMap fun known =>
      known.definition.name :: known.definition.replacement.toList)

/-- No text of the rules that can be quoted has an empty line. -/
def RuleSet.IsTidy (rules : RuleSet) : Prop :=
  ∀ rule ∈ rules.tags, ∀ text ∈ rule.texts, ¬HasEmptyLine text.toList

instance (rules : RuleSet) : Decidable rules.IsTidy :=
  inferInstanceAs (Decidable (∀ rule ∈ rules.tags, ∀ text ∈ rule.texts, ¬HasEmptyLine text.toList))

/-- The names of the tags of a document are without line feeds, and its attributes are without empty
lines. -/
@[mk_iff]
structure Document.IsTidy (document : Document) : Prop where
  name : ∀ element ∈ document.elements, '\n' ∉ element.name.toList
  entries : ∀ element ∈ document.elements, ∀ entry ∈ element.attributes.entries,
    ¬HasEmptyLine entry.1.toList ∧ ¬HasEmptyLine entry.2.toList

instance (document : Document) : Decidable document.IsTidy :=
  decidable_of_iff' _ (Document.isTidy_iff document)

/-- Where names are listed, there is no empty line but in a name. -/
theorem not_hasEmptyLine_listParam {names : List String}
    (tidy : ∀ name ∈ names, ¬HasEmptyLine name.toList) :
    ¬HasEmptyLine (listParam names).toList := by
  have quoted : ∀ name ∈ names, ¬HasEmptyLine ("'" ++ name ++ "'").toList := by
    intro name listed
    have split : ("'" ++ name ++ "'").toList = '\'' :: (name.toList ++ ['\'']) := by simp
    rw [split, Text.hasEmptyLine_cons (by decide), Text.hasEmptyLine_append_cons (by decide),
      or_iff_left Text.not_hasEmptyLine_nil]
    exact tidy name listed
  have listed : ¬HasEmptyLine
      (", ".intercalate (names.map fun name => "'" ++ name ++ "'")).toList := by
    clear tidy
    rw [String.toList_intercalate, List.map_map]
    induction names with
    | nil => exact Text.not_hasEmptyLine_nil
    | cons name rest ih =>
        obtain ⟨here, later⟩ := List.forall_mem_cons.mp quoted
        cases rest with
        | nil => simpa using here
        | cons next more =>
            rw [List.map_cons, List.map_cons, List.intercalate_cons_cons, List.append_assoc]
            show ¬HasEmptyLine (_ ++ ',' :: ' ' :: _)
            rw [Text.hasEmptyLine_append_cons (by decide), Text.hasEmptyLine_cons (by decide)]
            exact not_or.mpr ⟨here, ih later⟩
  have bracketed : (listParam names).toList =
      '[' :: ((", ".intercalate (names.map fun name => "'" ++ name ++ "'")).toList ++ [']']) := by
    simp [listParam]
  rw [bracketed, Text.hasEmptyLine_cons (by decide), Text.hasEmptyLine_append_cons (by decide),
    or_iff_left Text.not_hasEmptyLine_nil]
  exact listed

theorem Document.IsTidy.parentName {document : Document} (tidy : document.IsTidy)
    (element : Element) : ¬HasEmptyLine (document.parentName element).toList := by
  have known {id : ElementId} {parent : Element} (found : document.get? id = some parent) :
      ¬HasEmptyLine parent.name.toList :=
    Text.not_hasEmptyLine_of_not_mem (tidy.name parent (Array.mem_of_getElem? found))
  unfold Document.parentName
  cases element.parent with
  | none =>
      show ¬HasEmptyLine noParent.toList
      decide
  | some id =>
      cases found : document.get? id with
      | none =>
          simp only [Option.bind_some, found, Option.map_none]
          show ¬HasEmptyLine noParent.toList
          decide
      | some parent => simpa [found] using known found

section Quoted

variable {rules : RuleSet} {document : Document} (tidyRules : rules.IsTidy)
  (tidyDocument : document.IsTidy)
include tidyRules tidyDocument

/-- What a defect by a rule quotes has no empty line. -/
theorem Defect.Breaks.not_hasEmptyLine {rule : TagRule} (defined : rule ∈ rules.tags)
    {element : Element} (listed : element ∈ document.elements) {occurrences : Nat} {defect : Defect}
    (breaks : defect.Breaks rules rule (document.parentName element) element.attributes
      occurrences) :
    ∀ param ∈ defect.params element.name, ¬HasEmptyLine param.toList := by
  have tag := Text.not_hasEmptyLine_of_not_mem (tidyDocument.name element listed)
  have text := tidyRules rule defined
  have attributes := tidyDocument.entries element listed
  have ofKnown {known : AttributeRule} (isKnown : known ∈ rule.attributes) {quoted : String}
      (isQuoted : quoted ∈ known.definition.name :: known.definition.replacement.toList) :
      ¬HasEmptyLine quoted.toList :=
    text _ (List.mem_cons_of_mem _ (List.mem_append_right _
      (List.mem_flatMap.mpr ⟨known, isKnown, isQuoted⟩)))
  cases breaks <;> simp only [params, List.forall_mem_cons, List.not_mem_nil, IsEmpty.forall_iff,
    implies_true, and_true]
  case deprecatedTag replacement replaced =>
    exact ⟨tag, text _ (by simp [TagRule.texts, replaced])⟩
  case repeatedTag => exact tag
  case wrongParent expected placed _ =>
    exact ⟨tag, tidyDocument.parentName element, text _ (by simp [TagRule.texts, placed])⟩
  case disallowedAttribute given _ _ => exact ⟨(attributes _ given).1, tag⟩
  case invalidValue given _ _ => exact ⟨(attributes _ given).1, tag, (attributes _ given).2⟩
  case deprecatedAttribute given found replaced =>
    have quoted := ofKnown (List.mem_of_find?_eq_some found)
      (List.mem_cons_of_mem _ (Option.mem_toList.mpr replaced))
    exact ⟨(attributes _ given).1, tag, quoted⟩
  case missingAttribute wanted isKnown _ _ => exact ⟨ofKnown isKnown List.mem_cons_self, tag⟩
  case missingChoice =>
    have quoted : ∀ name ∈ rule.definition.oneOf, ¬HasEmptyLine name.toList :=
      fun name listed => text _ (by simp [TagRule.texts, listed])
    exact ⟨tag, not_hasEmptyLine_listParam quoted⟩
  case exclusiveAttributes =>
    have quoted : ∀ name ∈ rule.definition.exclusive, ¬HasEmptyLine name.toList :=
      fun name listed => text _ (by simp [TagRule.texts, listed])
    exact ⟨tag, not_hasEmptyLine_listParam quoted⟩

/-- What the cause of a violation quotes has no empty line. -/
theorem Cause.Holds.not_hasEmptyLine (wellFormed : document.WellFormed) {cause : Cause}
    (holds : cause.Holds rules document) :
    ∀ param ∈ cause.params, ¬HasEmptyLine param.toList := by
  have tag {element : Element} (visited : element ∈ document.walk) :
      ¬HasEmptyLine element.name.toList :=
    Text.not_hasEmptyLine_of_not_mem
      (tidyDocument.name element ((wellFormed.mem_walk_iff element).mp visited))
  cases holds with
  | @onElement element defect visited holds =>
      cases holds with
      | disallowedTag _ => exact List.forall_mem_singleton.mpr (tag visited)
      | broken defined _ breaks =>
          exact breaks.not_hasEmptyLine tidyRules tidyDocument (rules.mem_tags_of_tag? defined)
            ((wellFormed.mem_walk_iff element).mp visited)
  | @missingTag rule defined _ _ =>
      exact List.forall_mem_singleton.mpr (tidyRules rule defined _ List.mem_cons_self)
  | @missingRequirement element rule missing visited defined required _ =>
      have quoted := tidyRules rule (rules.mem_tags_of_tag? defined) missing
        (by simp [TagRule.texts, required])
      exact List.forall_mem_cons.mpr ⟨quoted, List.forall_mem_singleton.mpr (tag visited)⟩

end Quoted

/-! ## Reports on validations -/

/-- The built-in template of a code with which something is reported displays its parameters. -/
theorem Cause.displays_reported : ∀ entry ∈ Cause.reported,
    ∃ text, TemplateTable.builtin.get? entry.1 = some (String.ofList text) ∧
      Template.displays entry.2 (Template.pieces text) = true := by
  simp only [reported, List.forall_mem_cons]
  refine ⟨?_, ?_, ?_, ?_, ?_, ?_, ?_, ?_, ?_, ?_, ?_, ?_,
    List.forall_mem_nil _⟩ <;>
    exact ⟨_, rfl, by decide +kernel⟩

namespace Report

/-- What a report says that is written of an audit, and how it can be read. -/
structure Outlines (table : TemplateTable) (audit : Audit) (elements : List Element)
    (report : String) : Prop where
  /-- Every violation belongs to one of the groups. -/
  violations_eq : (groupsOf audit elements).flatMap (·.violations) = audit.violations.toList
  /-- The lines that follow an empty line are the headers exactly if all groups are tidy. -/
  headers_iff : Text.afterEmpty (Text.lines report) = (groupsOf audit elements).map (·.header) ↔
    ∀ group ∈ groupsOf audit elements, group.IsTidy
  /-- Between the empty lines there are the groups then, after the verdict. -/
  groups_eq : (∀ group ∈ groupsOf audit elements, group.IsTidy) →
    (Text.lines report).splitOn "" = [audit.status.name] ::
      (groupsOf audit elements).map fun group => group.header :: group.body table

end Report

namespace RuleSet

variable (rules : RuleSet)

section Validated

variable {document : Document} {audit : Audit} (validated : rules.validate document = .ok audit)
include validated

/-- The report on a validation has the outline of the groups of its audit. -/
theorem write_eq_outline (table : TemplateTable) (wellFormed : document.WellFormed) :
    (Report.write table audit).2 =
      Report.outline table audit.status (Report.groupsOf audit document.walk) := by
  have ordered := wellFormed.preorder_walk
  have distinct := wellFormed.nodup_ids ordered
  have consists := rules.consists_of_validate validated
  obtain ⟨_, validatedToo, found, status, _⟩ := rules.validate_eq_ok document
  cases validated.symm.trans validatedToo
  have clean : audit.violations.toList = [] → audit.status = .pass := by
    intro nothing
    rw [found, List.map_eq_nil_iff] at nothing
    rw [status, nothing, if_pos Violation.allWarnings_nil]
  have isOnDocument : ∀ violation ∈ audit.foundOnDocument, violation.IsOnDocument := by
    rw [consists.foundOnDocument_eq]
    exact consists.onWhole
  have outlined : Report.text table audit =
      Report.outline table audit.status (Report.groupsOf audit document.walk) :=
    Report.text_eq_outline table distinct
      (fun element listed =>
        wellFormed.name_ne_globalHeading ((wellFormed.mem_preorder_iff ordered).mp listed))
      (fun element listed violation => consists.isOn_of_mem_foundOn distinct listed)
      isOnDocument (rules.violations_eq_of_validate validated wellFormed) clean
  rw [Report.write, Audit.annotate_of_categorized found]
  exact outlined

/-- What a validation reports has a cause, and refers to the rules alone. -/
theorem explained_of_validate :
    ∀ violation ∈ audit.violations.toList, violation.IsReferred rules ∧
      ∃ cause : Cause, cause.Holds rules document ∧ cause.Explains violation := by
  intro violation listed
  obtain ⟨_, validatedToo, explained⟩ := rules.exists_cause_validate document
  cases validated.symm.trans validatedToo
  obtain ⟨cause, holds, explains, _⟩ := explained violation listed
  obtain ⟨_, validatedToo, found, _⟩ := rules.validate_eq_ok document
  cases validated.symm.trans validatedToo
  rw [found] at listed
  obtain ⟨origin, isFinding, rfl⟩ := List.mem_map.mp listed
  have referred := rules.isReferred_allFindings document origin isFinding
  exact ⟨⟨referred.specUrl_mem, referred.action_eq⟩, cause, holds, explains⟩

/-- The built-in templates display what a validation reports. -/
theorem displays_of_validate :
    ∀ violation ∈ audit.violations.toList, TemplateTable.builtin.Displays violation := by
  intro violation listed
  obtain ⟨referred, cause, _, explains⟩ := rules.explained_of_validate validated violation listed
  have displays := Cause.displays_reported _ cause.mem_reported
  rw [← explains.tells.code_eq, ← explains.tells.params_eq] at displays
  exact ⟨displays, explains.tells.params_eq ▸ cause.params_ne_nil, referred.action_eq⟩

/-- If there is nothing untidy in a document and in rules, nothing in them leads to an untidy
group. -/
theorem isTidy_groupsOf (wellFormed : document.WellFormed) (tidyDocument : document.IsTidy)
    (tidyRules : rules.IsTidy) :
    ∀ group ∈ Report.groupsOf audit document.walk, group.IsTidy := by
  intro group listed
  constructor
  case header =>
    rcases Report.mem_groupsOf listed with ⟨element, isElement, rfl⟩ | rfl
    · rw [Report.not_mem_header_groupOn]
      exact tidyDocument.name element ((wellFormed.mem_walk_iff element).mp isElement)
    · show '\n' ∉ Violation.globalHeading.toList
      decide
  case violations =>
    intro violation below
    obtain ⟨referred, cause, holds, explains⟩ := rules.explained_of_validate validated violation
      (Report.mem_violations_of_mem_groupsOf listed below)
    constructor
    · rw [explains.tells.params_eq]
      exact holds.not_hasEmptyLine tidyRules tidyDocument wellFormed
    · intro url given
      obtain ⟨rule, defined, documented⟩ := referred.specUrl_mem url given
      exact tidyRules rule defined url (by simp [TagRule.texts, documented])

end Validated

/-- The lines of a report that follow an empty line are the headers of its groups and nothing else,
exactly if no header contains a line feed and nothing that the violations quote contains an empty
line; the groups can be read off the report then. So it is for every document and all rules that
contain nothing of that kind themselves. -/
theorem validate_outlines {text : String} {document : Document}
    (loaded : Document.load text = .ok document) :
    ∃ audit elements, rules.validate document = .ok audit ∧
      document.Preorder document.roots elements ∧ elements.Perm document.elements.toList ∧
      audit.IsPlaced document elements ∧
      Report.Outlines TemplateTable.builtin audit elements
        (Report.write TemplateTable.builtin audit).2 ∧
      (document.IsTidy → rules.IsTidy →
        ∀ group ∈ Report.groupsOf audit elements, group.IsTidy) := by
  have wellFormed := (Document.reachable_of_load loaded).wellFormed
  have ordered := wellFormed.preorder_walk
  obtain ⟨audit, validated, _⟩ := rules.validate_eq_ok document
  have shown : ∀ group ∈ Report.groupsOf audit document.walk,
      group.IsShown TemplateTable.builtin := fun group =>
    Report.isShown_of_mem_groupsOf (rules.displays_of_validate validated)
  refine ⟨audit, document.walk, validated, ordered, wellFormed.perm_of_preorder ordered,
    (rules.consists_of_validate validated).isPlaced wellFormed, ?_,
    rules.isTidy_groupsOf validated wellFormed⟩
  rw [rules.write_eq_outline validated _ wellFormed]
  exact ⟨Report.flatMap_violations_groupsOf (rules.violations_eq_of_validate validated wellFormed),
    Report.afterEmpty_outline_eq_iff audit.status shown,
    Report.splitOn_lines_outline audit.status shown⟩

/-- The text of a page with two paragraphs. -/
def pageText : String :=
  r#"["html", 1, [["lang", "en"]], [["p", 2], ["p", 2]]]"#

/-- The headers of the page are read off its report, that of each paragraph and that of the
document. -/
theorem validate_outlines_sized :
    Document.load pageText = .ok .page ∧
      ∃ audit, sized.validate .page = .ok audit ∧
        Text.afterEmpty (Text.lines (Report.write TemplateTable.builtin audit).2) =
          ["p on line 2", "p on line 2", "GLOBAL WARNING"] := by
  have loaded : Document.load pageText = .ok .page := by decide +kernel
  obtain ⟨audit, elements, validated, ordered, _, _, outlines, tidy⟩ :=
    sized.validate_outlines loaded
  cases validate_sized.symm.trans validated
  obtain rfl := ordered.unique Document.reachable_page.wellFormed.preorder_walk
  refine ⟨loaded, _, validated, ?_⟩
  rw [outlines.headers_iff.mpr (tidy (by decide +kernel) (by decide +kernel))]
  decide +kernel

/-- The text of a paragraph with an attribute in whose name there is an empty line. -/
def fakingText : String :=
  r#"["p", 1, [["x\n\nhtml on line 9\n", ""]]]"#

/-- The paragraph is not allowed to have this attribute. -/
def faking : Violation :=
  Violation.categorized
    { Violation.ofDocument .disallowedAttr ["x\n\nhtml on line 9\n", "p"] with
      phase := .local, element := some ⟨0⟩, line := 1, heading := "p" }

/-- The empty line in the name of the attribute fakes the header of an element that there is not. -/
theorem header_faked :
    let attributes : AttributeSet := ⟨[("x\n\nhtml on line 9\n", "")]⟩
    let document : Document := ⟨#[⟨⟨0⟩, "p", attributes, 1, none, []⟩], [⟨0⟩]⟩
    let audit : Audit := ⟨.fail, #[faking], 1, false⟩
    Document.load fakingText = .ok document ∧
      RuleSet.validate ⟨"plain", none, [], [⟨TagDefinition.plain "p", []⟩]⟩ document = .ok audit ∧
      (Report.groupsOf audit document.walk).map (·.header) = ["p on line 1"] ∧
      Text.afterEmpty (Text.lines (Report.write TemplateTable.builtin audit).2) =
        ["p on line 1", "html on line 9"] := by
  decide +kernel

end RuleSet

end MarkupAudit
