/-
# The outline of a report

A reader finds the groups of a report by its empty lines: what follows one of them is a header, and
up to the next one there are the lines of the violations below. This recovers the groups exactly if
no header contains a line feed and nothing that is put into the lines of the violations contains an
empty line.

The templates see to it that it takes an empty line in a single parameter. A parameter never stands
next to another one nor next to a line break, so that line breaks on the two sides of a seam cannot
make up an empty line together.
-/

import MarkupAudit.Proofs.Report.Placeholders
import MarkupAudit.Proofs.Report.Shape
import MarkupAudit.Proofs.Text.Lines

namespace MarkupAudit

open Text (HasEmptyLine isSolid)

/-! ## Messages -/

namespace Template

/-- There is a character that stands for itself at the beginning of some pieces. -/
def beginsLiteral : List Piece → Bool
  | .literal _ :: _ => true
  | _ => false

/-- No character of a template is part of a line break, and one of them follows every
placeholder. -/
def isSpaced : List Piece → Bool
  | [] => true
  | .literal c :: rest => isSolid c && isSpaced rest
  | .placeholder _ :: rest => beginsLiteral rest && isSpaced rest

/-- A piece is a placeholder for the parameter at a place. -/
def Piece.isFor (place : Nat) : Piece → Bool
  | literal _ => false
  | placeholder digits => number digits == place + 1

/-- A template shows so many parameters, each of them and no others, and keeps them apart. -/
def displays (count : Nat) (pieces : List Piece) : Bool :=
  isSpaced pieces && pieces.all (Piece.isWithin count) &&
    (List.range count).all fun place => pieces.any (Piece.isFor place)

theorem begins_filled (params : List String) {pieces : List Piece}
    (begins : beginsLiteral pieces = true) (spaced : isSpaced pieces = true) (rest : List Char) :
    ∃ c more, isSolid c = true ∧ pieces.flatMap (Piece.filled params) ++ rest = c :: more := by
  match pieces with
  | .literal c :: later =>
      rw [isSpaced, Bool.and_eq_true] at spaced
      exact ⟨c, later.flatMap (Piece.filled params) ++ rest, spaced.1, rfl⟩

/-- What is put into a template brings its own empty lines with it and no others. -/
theorem hasEmptyLine_filled_append (params : List String) {pieces : List Piece}
    (spaced : isSpaced pieces = true) (rest : List Char) :
    HasEmptyLine (pieces.flatMap (Piece.filled params) ++ rest) ↔
      (∃ digits, .placeholder digits ∈ pieces ∧ HasEmptyLine (placeholder params digits)) ∨
        HasEmptyLine rest := by
  induction pieces with
  | nil => simp
  | cons piece more ih =>
      rw [List.flatMap_cons, List.append_assoc]
      cases piece with
      | literal c =>
          rw [isSpaced, Bool.and_eq_true, Text.isSolid_iff] at spaced
          rw [Piece.filled, List.singleton_append, Text.hasEmptyLine_cons spaced.1.1, ih spaced.2]
          simp
      | placeholder digits =>
          rw [isSpaced, Bool.and_eq_true] at spaced
          obtain ⟨c, text, solid, begins⟩ := begins_filled params spaced.1 spaced.2 rest
          rw [Text.hasEmptyLine_append solid begins, ih spaced.2, ← or_assoc, Piece.filled]
          simp

/-- A message has an empty line if one of its parameters does. -/
theorem hasEmptyLine_fill_append {params : List String} {text : List Char}
    (displayed : displays params.length (pieces text) = true) (rest : List Char) :
    HasEmptyLine (fill params text ++ rest) ↔
      (∃ param ∈ params, HasEmptyLine param.toList) ∨ HasEmptyLine rest := by
  rw [displays, Bool.and_eq_true, Bool.and_eq_true, List.all_eq_true, List.all_eq_true]
    at displayed
  obtain ⟨⟨spaced, within⟩, all⟩ := displayed
  rw [fill_eq, hasEmptyLine_filled_append params spaced]
  refine or_congr_left ⟨?_, ?_⟩
  · rintro ⟨digits, listed, isEmpty⟩
    have bounds := within _ listed
    rw [Piece.isWithin, Bool.and_eq_true, decide_eq_true_eq, decide_eq_true_eq] at bounds
    obtain ⟨place, numbered⟩ := Nat.exists_eq_add_one.mpr bounds.1
    have inside : place < params.length := by omega
    rw [placeholder_of_given numbered (List.getElem?_eq_getElem inside)] at isEmpty
    exact ⟨_, List.getElem_mem inside, isEmpty⟩
  · rintro ⟨param, given, isEmpty⟩
    obtain ⟨place, inside, rfl⟩ := List.mem_iff_getElem.mp given
    obtain ⟨piece, listed, isFor⟩ := List.any_eq_true.mp (all place (List.mem_range.mpr inside))
    cases piece with
    | literal c => cases isFor
    | placeholder digits =>
        refine ⟨digits, listed, ?_⟩
        rwa [placeholder_of_given (beq_iff_eq.mp isFor) (List.getElem?_eq_getElem inside)]

end Template

/-! ## The lines of violations -/

namespace TemplateTable

variable {table : TemplateTable} {violation : Violation}

/-- A table has a template for the code of a violation that shows all of its parameters, and nothing
is known about a repair. -/
structure Displays (table : TemplateTable) (violation : Violation) : Prop where
  displays : ∃ text, table.get? violation.code = some (String.ofList text) ∧
    Template.displays violation.params.length (Template.pieces text) = true
  params_ne_nil : violation.params ≠ []
  action_eq : violation.action = none

theorem Displays.hasEmptyLine_message_append (shown : table.Displays violation)
    (rest : List Char) :
    HasEmptyLine ((table.message violation).toList ++ rest) ↔
      (∃ param ∈ violation.params, HasEmptyLine param.toList) ∨ HasEmptyLine rest := by
  obtain ⟨text, found, displays⟩ := shown.displays
  have formatted : table.message violation =
      Template.format (String.ofList text) violation.params := by
    rw [message, found]
    exact if_neg (List.isEmpty_iff.not.mpr shown.params_ne_nil)
  rw [formatted, Template.format, String.toList_ofList, String.toList_ofList,
    Template.hasEmptyLine_fill_append displays]

/-- What stands below the message of a violation, after a blank and up to the category. -/
def remark (violation : Violation) : List Char :=
  ("  [code: " ++ violation.code.name ++
    part " category: " (violation.category.map Category.name)).toList

theorem Displays.line_eq (shown : table.Displays violation) :
    (table.line violation).toList =
      '-' :: ' ' :: ((table.message violation).toList ++ '\n' :: ' ' :: (remark violation ++
        ((part " see: " violation.specUrl).toList ++ [']']))) := by
  rw [line, remark, shown.action_eq]
  simp [part]

theorem not_mem_remark (violation : Violation) : '\n' ∉ remark violation := by
  have code : '\n' ∉ violation.code.name.toList := by
    cases violation.code <;> decide
  have category : '\n' ∉ (part " category: " (violation.category.map Category.name)).toList := by
    cases violation.category with
    | none => decide
    | some category => cases category <;> decide
  simp [remark, code, category]

/-- The line of a violation has an empty line if a parameter has one or the place where the rule is
documented. -/
theorem Displays.hasEmptyLine_line (shown : table.Displays violation) :
    HasEmptyLine (table.line violation).toList ↔
      (∃ param ∈ violation.params, HasEmptyLine param.toList) ∨
        ∃ url ∈ violation.specUrl, HasEmptyLine url.toList := by
  rw [shown.line_eq, Text.hasEmptyLine_cons (by decide), Text.hasEmptyLine_cons (by decide),
    shown.hasEmptyLine_message_append]
  refine or_congr_right ?_
  rw [← List.singleton_append, Text.hasEmptyLine_append_cons (by decide),
    or_iff_right (by decide), Text.hasEmptyLine_append_of_not_mem (not_mem_remark violation)]
  cases violation.specUrl with
  | none => exact iff_of_false (by decide) (by simp)
  | some url =>
      rw [part, String.toList_append, List.append_assoc,
        Text.hasEmptyLine_append_of_not_mem (by decide),
        Text.hasEmptyLine_append_cons (by decide), or_iff_left Text.not_hasEmptyLine_nil]
      simp

/-- The line of a violation begins with a hyphen and ends with a bracket. -/
theorem Displays.isFramed_line (shown : table.Displays violation) :
    Text.IsFramed (table.line violation) := by
  constructor
  · exact ⟨_, _, by decide, shown.line_eq⟩
  · refine ⟨'-' :: ' ' :: ((table.message violation).toList ++ '\n' :: ' ' :: (remark violation ++
      (part " see: " violation.specUrl).toList)), ']', by decide, ?_⟩
    rw [shown.line_eq]
    simp

end TemplateTable

/-! ## Groups -/

/-- What is reported of a violation has no empty lines of its own. -/
def Violation.IsTidy (violation : Violation) : Prop :=
  (∀ param ∈ violation.params, ¬HasEmptyLine param.toList) ∧
    ∀ url ∈ violation.specUrl, ¬HasEmptyLine url.toList

theorem TemplateTable.Displays.isTidy_iff {table : TemplateTable} {violation : Violation}
    (shown : table.Displays violation) :
    violation.IsTidy ↔ Text.afterEmpty (Text.lines (table.line violation)) = [] := by
  rw [Text.afterEmpty_eq_nil_iff shown.isFramed_line.endsFilled_lines,
    shown.isFramed_line.empty_mem_lines_iff, shown.hasEmptyLine_line, Violation.IsTidy]
  simp only [not_or, not_exists, not_and]

namespace Report

/-- A group of a report: a header, and the violations below it. -/
structure Group where
  header : String
  violations : List Violation

namespace Group

/-- What is written of a group: an empty line, the header, and the violations. -/
def texts (table : TemplateTable) (group : Group) : List String :=
  "" :: group.header :: group.violations.map table.line

/-- The lines below the header of a group. -/
def body (table : TemplateTable) (group : Group) : List String :=
  group.violations.flatMap fun violation => Text.lines (table.line violation)

/-- The header does not end within a line break, and the violations are shown by their
templates. -/
structure IsShown (table : TemplateTable) (group : Group) : Prop where
  ends : ∃ front c, isSolid c = true ∧ group.header.toList = front ++ [c]
  displays : ∀ violation ∈ group.violations, table.Displays violation

/-- The header is a line, and the violations have no empty lines. -/
structure IsTidy (group : Group) : Prop where
  header : '\n' ∉ group.header.toList
  violations : ∀ violation ∈ group.violations, violation.IsTidy

variable {table : TemplateTable} {group : Group}

theorem IsShown.header_ne_empty (shown : group.IsShown table) : group.header ≠ "" := by
  obtain ⟨front, c, _, ends⟩ := shown.ends
  intro nothing
  rw [nothing] at ends
  simp at ends

theorem IsShown.lines_header (shown : group.IsShown table) (isLine : '\n' ∉ group.header.toList) :
    Text.lines (group.header ++ "\n") = [group.header] := by
  obtain ⟨front, c, solid, ends⟩ := shown.ends
  refine Text.lines_concat_feed isLine ?_
  rw [ends, List.getLast?_concat]
  exact fun isReturn => ((Text.isSolid_iff c).mp solid).2 (Option.some.inj isReturn)

end Group

variable (table : TemplateTable) (status : Status)

/-- The text of a report with some groups. -/
def outline (groups : List Group) : String :=
  Text.endAll (status.name :: groups.flatMap (Group.texts table))

variable {table} {groups : List Group}

theorem lines_outline (shown : ∀ group ∈ groups, group.IsShown table)
    (isLine : ∀ group ∈ groups, '\n' ∉ group.header.toList) :
    Text.lines (outline table status groups) =
      status.name :: groups.flatMap fun group => "" :: group.header :: group.body table := by
  have verdict : Text.lines (status.name ++ "\n") = [status.name] := by
    cases status <;> decide
  rw [outline, Text.lines_endAll, List.flatMap_cons, verdict, List.singleton_append,
    List.flatMap_assoc]
  refine congrArg _ (List.flatMap_congr fun group listed => ?_)
  rw [Group.texts, List.flatMap_cons, List.flatMap_cons,
    (shown group listed).lines_header (isLine group listed), List.flatMap_map]
  refine congrArg (fun body => "" :: group.header :: body)
    (List.flatMap_congr fun violation below => ?_)
  exact ((shown group listed).displays violation below).isFramed_line.lines_concat_feed

/-- Nothing is inserted behind some items exactly if they stay alone. -/
theorem flatMap_cons_eq_map_iff {α β : Type} (items : List α) (first : α → β)
    (further : α → List β) :
    (items.flatMap fun item => first item :: further item) = items.map first ↔
      ∀ item ∈ items, further item = [] := by
  have counted : (items.flatMap fun item => first item :: further item).length =
      items.length + (items.flatMap further).length := by
    induction items with
    | nil => rfl
    | cons item rest ih =>
        simp only [List.flatMap_cons, List.length_append, List.length_cons, ih]
        omega
  rw [← List.flatMap_eq_nil_iff, ← List.length_eq_zero_iff]
  constructor
  · intro same
    rw [same, List.length_map] at counted
    omega
  · intro nothing
    rw [List.length_eq_zero_iff, List.flatMap_eq_nil_iff] at nothing
    rw [List.map_eq_flatMap]
    exact List.flatMap_congr fun item listed => by rw [nothing item listed]

/-- Beside the headers, what follows an empty line in a report is what follows one in the lines of
a violation. -/
theorem afterEmpty_outline (shown : ∀ group ∈ groups, group.IsShown table)
    (isLine : ∀ group ∈ groups, '\n' ∉ group.header.toList) :
    Text.afterEmpty (Text.lines (outline table status groups)) =
      groups.flatMap fun group => group.header :: group.violations.flatMap fun violation =>
        Text.afterEmpty (Text.lines (table.line violation)) := by
  have verdict : status.name ≠ "" := by
    cases status <;> decide
  rw [lines_outline status shown isLine, Text.afterEmpty_cons verdict]
  induction groups with
  | nil => rfl
  | cons group rest ih =>
      have isShown := shown group List.mem_cons_self
      have later := ih (fun other listed => shown other (List.mem_cons_of_mem group listed))
        fun other listed => isLine other (List.mem_cons_of_mem group listed)
      have ends : ∀ violation ∈ group.violations,
          Text.EndsFilled (Text.lines (table.line violation)) :=
        fun violation listed => (isShown.displays violation listed).isFramed_line.endsFilled_lines
      rw [List.flatMap_cons, List.flatMap_cons, List.cons_append, List.cons_append,
        Text.afterEmpty_cons_cons, if_pos rfl, Text.afterEmpty_cons isShown.header_ne_empty,
        Group.body, Text.afterEmpty_flatMap ends, later]
      rfl

/-- What follows an empty line in a report are the headers and nothing else, exactly if all of its
groups are tidy. -/
theorem afterEmpty_outline_eq_iff (shown : ∀ group ∈ groups, group.IsShown table) :
    Text.afterEmpty (Text.lines (outline table status groups)) = groups.map (·.header) ↔
      ∀ group ∈ groups, group.IsTidy := by
  -- A header with a line feed is none of the lines, whatever else is in the report.
  by_cases isLine : ∀ group ∈ groups, '\n' ∉ group.header.toList
  · rw [afterEmpty_outline status shown isLine, flatMap_cons_eq_map_iff]
    refine forall₂_congr fun group listed => ?_
    rw [List.flatMap_eq_nil_iff]
    constructor
    · exact fun nothing => ⟨isLine group listed, fun violation below =>
        ((shown group listed).displays violation below).isTidy_iff.mpr (nothing violation below)⟩
    · exact fun tidy violation below =>
        ((shown group listed).displays violation below).isTidy_iff.mp
          (tidy.violations violation below)
  · refine iff_of_false (fun same => isLine fun group listed => ?_)
      fun tidy => isLine fun group listed => (tidy group listed).header
    have isHeader : group.header ∈ groups.map (·.header) := List.mem_map.mpr ⟨group, listed, rfl⟩
    rw [← same] at isHeader
    exact Text.not_mem_of_mem_lines (Text.mem_of_mem_afterEmpty isHeader)

/-- Parts with a separator before each but the first. -/
theorem append_flatMap_cons_eq_intercalate {α β : Type} (separator : β) (first : List β)
    (items : List α) (part : α → List β) :
    first ++ items.flatMap (fun item => separator :: part item) =
      [separator].intercalate (first :: items.map part) := by
  induction items generalizing first with
  | nil => simp
  | cons item rest ih =>
      rw [List.flatMap_cons, List.cons_append, ih, List.map_cons, List.intercalate_cons_cons]
      simp

/-- The groups of a tidy report are found between its empty lines. -/
theorem splitOn_lines_outline (shown : ∀ group ∈ groups, group.IsShown table)
    (tidy : ∀ group ∈ groups, group.IsTidy) :
    (Text.lines (outline table status groups)).splitOn "" =
      [status.name] :: groups.map fun group => group.header :: group.body table := by
  have verdict : status.name ≠ "" := by
    cases status <;> decide
  have filled : ∀ part ∈ [status.name] :: groups.map (fun group =>
      group.header :: group.body table), "" ∉ part := by
    refine List.forall_mem_cons.mpr ⟨by simpa using verdict.symm, List.forall_mem_map.mpr ?_⟩
    intro group listed isEmpty
    rcases List.mem_cons.mp isEmpty with atHeader | below
    · exact (shown group listed).header_ne_empty atHeader.symm
    · obtain ⟨violation, found, isLine⟩ := List.mem_flatMap.mp below
      have displays := (shown group listed).displays violation found
      have ended := displays.isFramed_line.endsFilled_lines
      exact (Text.afterEmpty_eq_nil_iff ended).mp
        (displays.isTidy_iff.mp ((tidy group listed).violations violation found)) isLine
  rw [lines_outline status shown fun group listed => (tidy group listed).header,
    ← List.singleton_append, append_flatMap_cons_eq_intercalate,
    List.splitOn_intercalate "" filled (List.cons_ne_nil _ _)]

/-! ## The groups of an audit -/

/-- The group of an element: what was found on it. -/
def groupOn (audit : Audit) (element : Element) : Group where
  header := element.name ++ " on line " ++ toString element.line
  violations := audit.foundOn element

/-- The group of the document. -/
def groupOnDocument (audit : Audit) : Group where
  header := Violation.globalHeading
  violations := audit.foundOnDocument

/-- The groups of an audit, without those in which nothing was found: one for each of some elements,
and one for the document. -/
def groupsOf (audit : Audit) (elements : List Element) : List Group :=
  (elements.map (groupOn audit) ++ [groupOnDocument audit]).filter (!·.violations.isEmpty)

section GroupsOf

variable {audit : Audit} {elements : List Element}

theorem mem_groupsOf {group : Group} (listed : group ∈ groupsOf audit elements) :
    (∃ element ∈ elements, group = groupOn audit element) ∨ group = groupOnDocument audit := by
  rcases List.mem_append.mp (List.mem_filter.mp listed).1 with onElement | onDocument
  · obtain ⟨element, isElement, rfl⟩ := List.mem_map.mp onElement
    exact .inl ⟨element, isElement, rfl⟩
  · exact .inr (List.mem_singleton.mp onDocument)

theorem mem_violations_of_mem_groupsOf {group : Group} (listed : group ∈ groupsOf audit elements)
    {violation : Violation} (below : violation ∈ group.violations) :
    violation ∈ audit.violations.toList := by
  rcases mem_groupsOf listed with ⟨element, _, rfl⟩ | rfl
  · exact (List.mem_filter.mp below).1
  · exact (List.mem_filter.mp below).1

theorem flatMap_violations_groupsOf (violations_eq :
      audit.violations.toList = elements.flatMap audit.foundOn ++ audit.foundOnDocument) :
    (groupsOf audit elements).flatMap (·.violations) = audit.violations.toList := by
  have kept (groups : List Group) :
      (groups.filter (!·.violations.isEmpty)).flatMap (·.violations) =
        groups.flatMap (·.violations) := by
    induction groups with
    | nil => rfl
    | cons group rest ih =>
        cases nothing : group.violations.isEmpty with
        | true =>
            have none : group.violations = [] := List.isEmpty_iff.mp nothing
            simp [none, ih]
        | false => simp [nothing, ih]
  rw [groupsOf, kept, List.flatMap_append, List.flatMap_map, violations_eq]
  simp [groupOn, groupOnDocument]

theorem toList_header_groupOn (audit : Audit) (element : Element) :
    (groupOn audit element).header.toList =
      element.name.toList ++ (" on line ".toList ++ Nat.toDigits 10 element.line) := by
  simp [groupOn]

theorem isDigit_of_mem_toDigits {n : Nat} {c : Char} (listed : c ∈ Nat.toDigits 10 n) :
    c.isDigit = true :=
  Nat.isDigit_of_mem_toDigits (by decide) (by decide) listed

/-- The header of an element ends with a digit. -/
theorem ends_header_groupOn (audit : Audit) (element : Element) :
    ∃ front c, isSolid c = true ∧ (groupOn audit element).header.toList = front ++ [c] := by
  obtain nothing | ⟨front, c, ends⟩ := (Nat.toDigits 10 element.line).eq_nil_or_concat
  · exact absurd nothing Nat.toDigits_ne_nil
  · have isDigit : c.isDigit = true := isDigit_of_mem_toDigits (n := element.line) (by simp [ends])
    refine ⟨element.name.toList ++ (" on line ".toList ++ front), c, ?_, ?_⟩
    · refine (Text.isSolid_iff c).mpr ⟨?_, ?_⟩ <;>
        · rintro rfl
          exact absurd isDigit (by decide)
    · rw [toList_header_groupOn, ends]
      simp

/-- A header is a line if the name of the tag is. -/
theorem not_mem_header_groupOn (audit : Audit) (element : Element) :
    '\n' ∉ (groupOn audit element).header.toList ↔ '\n' ∉ element.name.toList := by
  have noFeed : '\n' ∉ Nat.toDigits 10 element.line := fun listed =>
    absurd (isDigit_of_mem_toDigits listed) (by decide)
  rw [toList_header_groupOn, List.mem_append, List.mem_append, or_iff_left]
  exact not_or.mpr ⟨by decide, noFeed⟩

theorem isShown_of_mem_groupsOf {table : TemplateTable}
    (displays : ∀ violation ∈ audit.violations.toList, table.Displays violation) {group : Group}
    (listed : group ∈ groupsOf audit elements) : group.IsShown table := by
  constructor
  case displays =>
    exact fun violation below => displays violation (mem_violations_of_mem_groupsOf listed below)
  case ends =>
    rcases mem_groupsOf listed with ⟨element, _, rfl⟩ | rfl
    · exact ends_header_groupOn audit element
    · refine ⟨"GLOBAL WARNIN".toList, 'G', by decide, ?_⟩
      show Violation.globalHeading.toList = _
      decide

end GroupsOf

theorem join_blocks (table : TemplateTable) (groups : List Group) :
    String.join (groups.map fun group =>
        block table ("\n" ++ group.header ++ "\n") group.violations) =
      Text.endAll ((groups.filter (!·.violations.isEmpty)).flatMap (Group.texts table)) := by
  induction groups with
  | nil => rfl
  | cons group rest ih =>
      rw [List.map_cons, String.join_cons, ih, block]
      cases nothing : group.violations.isEmpty with
      | true => simp [nothing]
      | false => simp [nothing, Text.endAll, Group.texts, String.append_assoc, Function.comp_def]

/-- The text of an audit whose violations stand element by element has the outline of its groups. -/
theorem text_eq_outline (table : TemplateTable) {audit : Audit} {elements : List Element}
    (distinct : (elements.map (·.id)).Nodup)
    (named : ∀ element ∈ elements, element.name ≠ Violation.globalHeading)
    (isOn : ∀ element ∈ elements, ∀ violation ∈ audit.foundOn element, violation.IsOn element)
    (isOnDocument : ∀ violation ∈ audit.foundOnDocument, violation.IsOnDocument)
    (violations_eq :
      audit.violations.toList = elements.flatMap audit.foundOn ++ audit.foundOnDocument)
    (clean : audit.violations.toList = [] → audit.status = .pass) :
    text table audit = outline table audit.status (groupsOf audit elements) := by
  have title (element : Element) :
      titleOf element = "\n" ++ (groupOn audit element).header ++ "\n" := by
    simp only [titleOf, groupOn, String.append_assoc]
  have titleOfDocument :
      documentTitle = "\n" ++ (groupOnDocument audit).header ++ "\n" := rfl
  rw [text_eq table distinct named isOn isOnDocument violations_eq clean, outline,
    Text.endAll_cons, groupsOf, ← join_blocks, List.map_append, List.map_map, List.map_singleton,
    String.join_append, String.append_assoc, titleOfDocument, funext title]
  simp [Function.comp_def, groupOn, groupOnDocument]

end Report

end MarkupAudit
