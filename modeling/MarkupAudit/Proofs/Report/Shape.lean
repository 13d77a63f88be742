/-
# The shape of a report

The report on a validation, said without the memory that the writer keeps: the verdict, then one
block for every element on which something was found, in document order, and then one block for
the document. A block is an empty line, a title, and what was found.

A block begins where the writer starts a new group, and that is decided by comparison with the
violation before. Elements may agree in name and line, so what keeps their blocks apart are their
handles; and the block of the document is kept apart by its title, which is written in capitals
and therefore not the name of a tag.
-/

import MarkupAudit.Proofs.Rules.Origin
import MarkupAudit.Proofs.Text.Lowercase
import MarkupAudit.Report.Basic

namespace MarkupAudit

/-! ## What was found where -/

/-- The violation was found on an element. -/
def Violation.concerns (element : Element) (violation : Violation) : Bool :=
  violation.phase == .local && violation.element == some element.id

namespace Audit

/-- What was found on an element, in order. -/
def foundOn (audit : Audit) (element : Element) : List Violation :=
  audit.violations.toList.filter (Violation.concerns element)

/-- What was found on the document as a whole, in order. -/
def foundOnDocument (audit : Audit) : List Violation :=
  audit.violations.toList.filter (·.phase == .global)

end Audit

namespace Violation

/-- A violation on one element concerns another one only if that has the same handle. -/
theorem IsOn.concerns_eq {violation : Violation} {element : Element} (on : violation.IsOn element)
    (other : Element) : violation.concerns other = decide (element.id = other.id) := by
  rw [concerns, on.phase_eq, on.element_eq, beq_self_eq_true, Bool.true_and,
    Option.some_beq_some]
  rfl

theorem IsOnDocument.concerns_eq {violation : Violation} (onDocument : violation.IsOnDocument)
    (element : Element) : violation.concerns element = false := by
  rw [concerns, onDocument.phase_eq]
  rfl

variable {violations : List Violation} {element : Element}

theorem filter_concerns_of_isOn (on : ∀ violation ∈ violations, violation.IsOn element) :
    violations.filter (concerns element) = violations :=
  List.filter_eq_self.mpr fun violation listed => by
    rw [(on violation listed).concerns_eq, decide_eq_true rfl]

theorem filter_concerns_of_apart
    (apart : ∀ violation ∈ violations, ∃ other : Element, violation.IsOn other ∧
      other.id ≠ element.id) :
    violations.filter (concerns element) = [] :=
  List.filter_eq_nil_iff.mpr fun violation listed => by
    obtain ⟨other, on, different⟩ := apart violation listed
    rw [on.concerns_eq, decide_eq_true_eq]
    exact different

theorem filter_concerns_of_isOnDocument
    (onDocument : ∀ violation ∈ violations, violation.IsOnDocument) :
    violations.filter (concerns element) = [] :=
  List.filter_eq_nil_iff.mpr fun violation listed => by
    rw [(onDocument violation listed).concerns_eq]
    exact Bool.false_ne_true

end Violation

namespace Audit

variable {audit : Audit} {visits whole : List Violation}

/-- What was found on an element was found by the visits. -/
theorem foundOn_eq (split : audit.violations.toList = visits ++ whole)
    (onWhole : ∀ violation ∈ whole, violation.IsOnDocument) (element : Element) :
    audit.foundOn element = visits.filter (Violation.concerns element) := by
  rw [foundOn, split, List.filter_append, Violation.filter_concerns_of_isOnDocument onWhole,
    List.append_nil]

/-- What was found on the document is all that the visits did not find. -/
theorem foundOnDocument_eq (split : audit.violations.toList = visits ++ whole)
    (onVisits : ∀ violation ∈ visits, ∃ element : Element, violation.IsOn element)
    (onWhole : ∀ violation ∈ whole, violation.IsOnDocument) :
    audit.foundOnDocument = whole := by
  have none : visits.filter (·.phase == .global) = [] :=
    List.filter_eq_nil_iff.mpr fun violation listed => by
      obtain ⟨element, on⟩ := onVisits violation listed
      simp [on.phase_eq]
  have all : whole.filter (·.phase == .global) = whole :=
    List.filter_eq_self.mpr fun violation listed => by
      simp [(onWhole violation listed).phase_eq]
  rw [foundOnDocument, split, List.filter_append, none, all, List.nil_append]

/-- The violations that a validation leaves have their categories. -/
theorem annotate_of_categorized {findings : List Violation}
    (found : audit.violations.toList = findings.map Violation.categorized) :
    audit.annotate = audit := by
  have same : audit.violations.map Violation.categorized = audit.violations := by
    rw [← Array.toList_inj, Array.toList_map, found, List.map_map]
    rfl
  rw [annotate, same]

end Audit

namespace RuleSet

variable (rules : RuleSet) (document : Document)

/-- What the visits find concerns one of the elements that are visited. -/
theorem isOn_visitFindings (before : List String) (elements : List Element) :
    ∀ violation ∈ rules.visitFindings document before elements,
      ∃ element ∈ elements, violation.IsOn element := by
  induction elements generalizing before with
  | nil => simp [visitFindings]
  | cons element rest ih =>
      intro violation listed
      rw [visitFindings, List.mem_append] at listed
      rcases listed with here | later
      · exact ⟨element, List.mem_cons_self,
          rules.isOn_elementFindings document element _ violation here⟩
      · obtain ⟨other, isVisited, on⟩ := ih _ violation later
        exact ⟨other, List.mem_cons_of_mem element isVisited, on⟩

theorem isOn_categorized_visitFindings (before : List String) (elements : List Element) :
    ∀ violation ∈ (rules.visitFindings document before elements).map Violation.categorized,
      ∃ element ∈ elements, violation.IsOn element :=
  List.forall_mem_map.mpr fun violation listed =>
    (rules.isOn_visitFindings document before elements violation listed).imp
      fun _ visited => ⟨visited.1, visited.2.categorized⟩

/-- What the visits find stands element by element, in the order of the visits. -/
theorem visitFindings_eq_flatMap (before : List String) {elements : List Element}
    (distinct : (elements.map (·.id)).Nodup) :
    (rules.visitFindings document before elements).map Violation.categorized =
      elements.flatMap fun element =>
        ((rules.visitFindings document before elements).map Violation.categorized).filter
          (Violation.concerns element) := by
  induction elements generalizing before with
  | nil => rfl
  | cons element rest ih =>
      obtain ⟨absent, distinctRest⟩ := List.nodup_cons.mp distinct
      have apart {other : Element} (listed : other ∈ rest) : element.id ≠ other.id :=
        fun same => absent (List.mem_map.mpr ⟨other, listed, same.symm⟩)
      let here := (rules.elementFindings document element
        (before.count element.name + 1)).map Violation.categorized
      let later := (rules.visitFindings document (before ++ [element.name]) rest).map
        Violation.categorized
      have onHere : ∀ violation ∈ here, violation.IsOn element :=
        List.forall_mem_map.mpr fun violation listed =>
          (rules.isOn_elementFindings document element _ violation listed).categorized
      have onLater : ∀ violation ∈ later, ∃ other ∈ rest, violation.IsOn other :=
        rules.isOn_categorized_visitFindings document _ rest
      have first : (here ++ later).filter (Violation.concerns element) = here := by
        rw [List.filter_append, Violation.filter_concerns_of_isOn onHere,
          Violation.filter_concerns_of_apart, List.append_nil]
        intro violation listed
        obtain ⟨other, isRest, on⟩ := onLater violation listed
        exact ⟨other, on, (apart isRest).symm⟩
      have others : ∀ other ∈ rest, (here ++ later).filter (Violation.concerns other) =
          later.filter (Violation.concerns other) := by
        intro other isRest
        rw [List.filter_append, Violation.filter_concerns_of_apart, List.nil_append]
        exact fun violation listed => ⟨element, onHere violation listed, apart isRest⟩
      rw [visitFindings, List.map_append, List.flatMap_cons]
      show here ++ later = (here ++ later).filter _ ++ _
      rw [first, List.flatMap_congr others]
      exact congrArg (here ++ ·) (ih _ distinctRest)

end RuleSet

/-! ## The blocks -/

namespace Report

variable (table : TemplateTable)

/-- Some violations below a title; nothing if there are none. -/
def block (title : String) (violations : List Violation) : String :=
  if violations.isEmpty then ""
  else title ++ String.join (violations.map fun violation => table.line violation ++ "\n")

/-- The title of the block of an element. -/
def titleOf (element : Element) : String :=
  "\n" ++ element.name ++ " on line " ++ toString element.line ++ "\n"

/-- The title of the block of a document. -/
def documentTitle : String :=
  "\n" ++ Violation.globalHeading ++ "\n"

/-- What is remembered after the block of an element. -/
def Memory.onElement (element : Element) : Memory :=
  ⟨some element.name, some (some element.id)⟩

/-- What may be remembered before the blocks of other elements and of the document: nothing, or
the block of an element that is not one of them. -/
def Memory.IsClear (memory : Memory) (ids : List ElementId) : Prop :=
  memory = .start ∨ ∃ element, memory = .onElement element ∧ element.id ∉ ids ∧
    element.name ≠ Violation.globalHeading

theorem Memory.IsClear.weaken {memory : Memory} {ids fewer : List ElementId}
    (clear : memory.IsClear ids) (included : ∀ id ∈ fewer, id ∈ ids) : memory.IsClear fewer :=
  clear.imp id fun ⟨element, same, absent, named⟩ =>
    ⟨element, same, fun listed => absent (included _ listed), named⟩

/-- Violations that belong to the group that has been begun are written line by line. -/
theorem body_append_of_stays {memory : Memory} {violations : List Violation}
    (stays : ∀ violation ∈ violations,
      memory.startsGroup violation = false ∧ memory.after violation = memory)
    (more : List Violation) :
    body table memory (violations ++ more) =
      String.join (violations.map fun violation => table.line violation ++ "\n") ++
        body table memory more := by
  induction violations with
  | nil => simp
  | cons violation rest ih =>
      obtain ⟨same, after⟩ := stays violation List.mem_cons_self
      have later := ih fun other listed => stays other (List.mem_cons_of_mem violation listed)
      rw [List.cons_append, body, same, after, later, List.map_cons, String.join_cons,
        if_neg Bool.false_ne_true, String.empty_append]
      simp only [String.append_assoc]

/-- Violations of which each would begin a group, and all would begin the same one, are written
as a block. -/
theorem body_append_of_starts {memory next : Memory} {title : String}
    {violations : List Violation}
    (starts : ∀ violation ∈ violations, memory.startsGroup violation = true ∧
      memory.after violation = next ∧ header violation = title)
    (stays : ∀ violation ∈ violations,
      next.startsGroup violation = false ∧ next.after violation = next)
    (more : List Violation) :
    body table memory (violations ++ more) =
      block table title violations ++
        body table (if violations.isEmpty then memory else next) more := by
  cases violations with
  | nil => simp [block]
  | cons violation rest =>
      obtain ⟨begins, after, titled⟩ := starts violation List.mem_cons_self
      have later := body_append_of_stays table
        (fun other listed => stays other (List.mem_cons_of_mem violation listed)) more
      rw [List.cons_append, body, begins, after, titled, later, block, List.map_cons,
        String.join_cons]
      simp [String.append_assoc]

/-- Where the memory is clear of an element, a violation on it begins its block. -/
theorem starts_of_isOn {memory : Memory} {ids : List ElementId} (clear : memory.IsClear ids)
    {element : Element} (listed : element.id ∈ ids)
    (named : element.name ≠ Violation.globalHeading) {violation : Violation}
    (on : violation.IsOn element) :
    memory.startsGroup violation = true ∧ memory.after violation = .onElement element ∧
      header violation = titleOf element := by
  have begins : memory.startsGroup violation = true := by
    rcases clear with rfl | ⟨other, rfl, apart, _⟩
    · rfl
    · have otherId : other.id ≠ element.id := fun same => apart (same ▸ listed)
      simp [Memory.startsGroup, Memory.onElement, on.phase_eq, on.element_eq, otherId]
  refine ⟨begins, ?_, ?_⟩
  · rw [Memory.after, begins, if_pos rfl, if_pos on.phase_eq, on.heading_eq, on.element_eq,
      Memory.onElement]
  · rw [header, on.heading_eq, if_neg named, on.line_eq, titleOf]

/-- Further violations on the element stay in its block. -/
theorem stays_of_isOn {element : Element} {violation : Violation} (on : violation.IsOn element) :
    (Memory.onElement element).startsGroup violation = false ∧
      (Memory.onElement element).after violation = .onElement element := by
  have begun : (Memory.onElement element).startsGroup violation = false := by
    simp [Memory.startsGroup, Memory.onElement, on.heading_eq, on.element_eq]
  refine ⟨begun, ?_⟩
  rw [Memory.after, begun, if_neg Bool.false_ne_true, if_pos on.phase_eq, on.element_eq]
  rfl

/-- What is found on elements is written as one block for each, and what is remembered then does
not stand in the way of other blocks. -/
theorem body_flatMap {elements : List Element} (distinct : (elements.map (·.id)).Nodup)
    (named : ∀ element ∈ elements, element.name ≠ Violation.globalHeading)
    {found : Element → List Violation}
    (on : ∀ element ∈ elements, ∀ violation ∈ found element, violation.IsOn element)
    {memory : Memory} (clear : memory.IsClear (elements.map (·.id))) (more : List Violation) :
    ∃ last : Memory, last.IsClear [] ∧
      body table memory (elements.flatMap found ++ more) =
        String.join (elements.map fun element => block table (titleOf element) (found element)) ++
          body table last more := by
  induction elements generalizing memory with
  | nil => exact ⟨memory, clear, by simp⟩
  | cons element rest ih =>
      obtain ⟨absent, distinctRest⟩ := List.nodup_cons.mp distinct
      have elementNamed := named element List.mem_cons_self
      have onElement := on element List.mem_cons_self
      let next : Memory := if (found element).isEmpty then memory else .onElement element
      have clearNext : next.IsClear (rest.map (·.id)) := by
        show (if (found element).isEmpty then memory else .onElement element).IsClear _
        split
        · exact clear.weaken fun id listed => List.mem_cons_of_mem element.id listed
        · exact .inr ⟨element, rfl, absent, elementNamed⟩
      obtain ⟨last, clearLast, written⟩ := ih distinctRest
        (fun other listed => named other (List.mem_cons_of_mem element listed))
        (fun other listed => on other (List.mem_cons_of_mem element listed)) clearNext
      refine ⟨last, clearLast, ?_⟩
      rw [List.flatMap_cons, List.append_assoc,
        body_append_of_starts table
          (fun violation listed =>
            starts_of_isOn clear List.mem_cons_self elementNamed (onElement violation listed))
          (fun violation listed => stays_of_isOn (onElement violation listed)),
        written, List.map_cons, String.join_cons, String.append_assoc]

/-- What is found on a document is written as one block, after any blocks of elements. -/
theorem body_document {memory : Memory} (clear : memory.IsClear []) {violations : List Violation}
    (onDocument : ∀ violation ∈ violations, violation.IsOnDocument) :
    body table memory violations = block table documentTitle violations := by
  have other : memory.heading ≠ some Violation.globalHeading := by
    rcases clear with rfl | ⟨element, rfl, _, named⟩
    · exact nofun
    · exact fun same => named (Option.some.inj same)
  let next : Memory := ⟨some Violation.globalHeading, memory.element⟩
  have starts : ∀ violation ∈ violations, memory.startsGroup violation = true ∧
      memory.after violation = next ∧ header violation = documentTitle := by
    intro violation listed
    have about := onDocument violation listed
    have begins : memory.startsGroup violation = true := by
      simp [Memory.startsGroup, about.heading_eq, other]
    refine ⟨begins, ?_, ?_⟩
    · simp [Memory.after, begins, about.heading_eq, about.phase_eq, next]
    · rw [header, about.heading_eq, if_pos rfl, documentTitle]
  have stays : ∀ violation ∈ violations,
      next.startsGroup violation = false ∧ next.after violation = next := by
    intro violation listed
    have about := onDocument violation listed
    have begun : next.startsGroup violation = false := by
      simp [Memory.startsGroup, about.heading_eq, about.phase_eq, next]
    refine ⟨begun, ?_⟩
    simp [Memory.after, begun, about.phase_eq]
  have written := body_append_of_starts table starts stays []
  rw [List.append_nil] at written
  rw [written, body, String.append_empty]

/-- The first line of a report is the verdict of its audit, if a verdict without violations is a
pass. -/
theorem firstLine_eq {audit : Audit}
    (clean : audit.violations.toList = [] → audit.status = .pass) :
    firstLine audit = audit.status.name := by
  unfold firstLine
  split
  · rename_i isEmpty
    rw [clean (by simpa using isEmpty)]
  · rfl

/-- The text of an audit whose violations stand element by element, those of the document last. -/
theorem text_eq {audit : Audit} {elements : List Element}
    (distinct : (elements.map (·.id)).Nodup)
    (named : ∀ element ∈ elements, element.name ≠ Violation.globalHeading)
    (isOn : ∀ element ∈ elements, ∀ violation ∈ audit.foundOn element, violation.IsOn element)
    (isOnDocument : ∀ violation ∈ audit.foundOnDocument, violation.IsOnDocument)
    (violations_eq :
      audit.violations.toList = elements.flatMap audit.foundOn ++ audit.foundOnDocument)
    (clean : audit.violations.toList = [] → audit.status = .pass) :
    text table audit = audit.status.name ++ "\n" ++
      String.join
        (elements.map fun element => block table (titleOf element) (audit.foundOn element)) ++
      block table documentTitle audit.foundOnDocument := by
  have clear : Memory.start.IsClear (elements.map (·.id)) := .inl rfl
  obtain ⟨last, clearLast, written⟩ :=
    body_flatMap table distinct named isOn clear audit.foundOnDocument
  rw [text, firstLine_eq clean, violations_eq, written, body_document table clearLast isOnDocument]
  simp only [String.append_assoc]

end Report

/-- A tag name is not the heading of what concerns the document. -/
theorem Document.WellFormed.name_ne_globalHeading {document : Document}
    (wellFormed : document.WellFormed) {id : ElementId} {element : Element}
    (found : document.get? id = some element) : element.name ≠ Violation.globalHeading := by
  intro same
  obtain ⟨text, _, named⟩ := wellFormed.name_eq found
  have capital : 'G' ∈ (Text.lowercase (Text.trim text)).toList := by
    rw [← named, same]
    decide
  exact absurd (Text.isUpper_lowercase _ 'G' capital) (by decide)

namespace Report

/-- The report on an audit of a document, block by block. -/
structure Shows (table : TemplateTable) (document : Document) (audit : Audit)
    (elements : List Element) (report : String) : Prop where
  /-- The elements of the document, each of them once, in document order. -/
  ordered : document.Preorder document.roots elements
  complete : elements.Perm document.elements.toList
  distinct : (elements.map (·.id)).Nodup
  /-- No element can be taken for the document. -/
  named : ∀ element ∈ elements, element.name ≠ Violation.globalHeading
  /-- Every violation is on an element or on the document. -/
  isOn : ∀ element ∈ elements, ∀ violation ∈ audit.foundOn element, violation.IsOn element
  isOnDocument : ∀ violation ∈ audit.foundOnDocument, violation.IsOnDocument
  violations_eq :
    audit.violations.toList = elements.flatMap audit.foundOn ++ audit.foundOnDocument
  /-- There is a verdict. -/
  verdict : audit.status = .pass ∨ audit.status = .fail
  /-- The report is the verdict, a block for each element on which something was found, and a
  block for the document. -/
  report_eq : report = audit.status.name ++ "\n" ++
    String.join
      (elements.map fun element => block table (titleOf element) (audit.foundOn element)) ++
    block table documentTitle audit.foundOnDocument

/-- The report on a validation is the verdict and the blocks. -/
theorem write_validate (table : TemplateTable) (rules : RuleSet) {document : Document}
    (reachable : document.Reachable) :
    ∃ audit elements, rules.validate document = .ok audit ∧
      Shows table document audit elements (write table audit).2 := by
  have wellFormed := reachable.wellFormed
  have ordered := wellFormed.preorder_walk
  have distinct := wellFormed.nodup_ids ordered
  obtain ⟨audit, validated, found, status, _⟩ := rules.validate_eq_ok document
  refine ⟨audit, document.walk, validated, ?_⟩
  let visits := (rules.visitFindings document [] document.walk).map Violation.categorized
  let whole := (rules.documentFindings (document.walk.map (·.name))).map Violation.categorized
  have split : audit.violations.toList = visits ++ whole := by
    rw [found, RuleSet.allFindings, List.map_append]
  have onVisits : ∀ violation ∈ visits, ∃ element ∈ document.walk, violation.IsOn element :=
    rules.isOn_categorized_visitFindings document [] document.walk
  have onWhole : ∀ violation ∈ whole, violation.IsOnDocument :=
    List.forall_mem_map.mpr fun violation listed =>
      (rules.isOnDocument_documentFindings _ violation listed).categorized
  have foundOn := Audit.foundOn_eq split onWhole
  have foundOnDocument : audit.foundOnDocument = whole :=
    Audit.foundOnDocument_eq split
      (fun violation listed => (onVisits violation listed).imp fun _ => And.right) onWhole
  have named : ∀ element ∈ document.walk, element.name ≠ Violation.globalHeading :=
    fun element listed =>
      wellFormed.name_ne_globalHeading ((wellFormed.mem_preorder_iff ordered).mp listed)
  have isOn : ∀ element ∈ document.walk, ∀ violation ∈ audit.foundOn element,
      violation.IsOn element := by
    intro element listed violation isFound
    rw [foundOn, List.mem_filter] at isFound
    obtain ⟨other, isElement, on⟩ := onVisits violation isFound.1
    have sameId : other.id = element.id := by
      simpa [on.concerns_eq] using isFound.2
    rwa [List.inj_on_of_nodup_map distinct isElement listed sameId] at on
  have isOnDocument : ∀ violation ∈ audit.foundOnDocument, violation.IsOnDocument := by
    rw [foundOnDocument]
    exact onWhole
  have violations_eq : audit.violations.toList =
      document.walk.flatMap audit.foundOn ++ audit.foundOnDocument := by
    rw [split, foundOnDocument, funext foundOn]
    exact congrArg (· ++ whole) (rules.visitFindings_eq_flatMap document [] distinct)
  constructor
  case ordered => exact ordered
  case complete => exact wellFormed.perm_of_preorder ordered
  case distinct => exact distinct
  case named => exact named
  case isOn => exact isOn
  case isOnDocument => exact isOnDocument
  case violations_eq => exact violations_eq
  case verdict =>
    rw [status]
    split
    · exact .inl rfl
    · exact .inr rfl
  case report_eq =>
    have clean : audit.violations.toList = [] → audit.status = .pass := by
      intro nothing
      rw [found, List.map_eq_nil_iff] at nothing
      rw [status, nothing, if_pos Violation.allWarnings_nil]
    rw [write, Audit.annotate_of_categorized found]
    exact text_eq table distinct named isOn isOnDocument violations_eq clean

/-- The report on a page to which no tag is known has one block for each of its elements. -/
theorem write_validate_page :
    Document.page.Reachable ∧
      ∃ audit elements, RuleSet.validate ⟨"nothing", none, [], []⟩ Document.page = .ok audit ∧
        Shows TemplateTable.builtin Document.page audit elements
          (write TemplateTable.builtin audit).2 :=
  ⟨Document.reachable_page,
    write_validate TemplateTable.builtin ⟨"nothing", none, [], []⟩ Document.reachable_page⟩

/-- Two paragraphs on one line keep their blocks apart. -/
example : (RuleSet.validate ⟨"nothing", none, [], []⟩ Document.page).toOption.map
      (fun audit => (write ⟨[]⟩ audit).2) =
    some ("FAIL\n" ++
      "\nhtml on line 1\n- DISALLOWED_TAG\n   [code: DISALLOWED_TAG category: DISALLOWED_HTML]\n" ++
      "\np on line 2\n- DISALLOWED_TAG\n   [code: DISALLOWED_TAG category: DISALLOWED_HTML]\n" ++
      "\np on line 2\n- DISALLOWED_TAG\n   [code: DISALLOWED_TAG category: DISALLOWED_HTML]\n") := by
  decide +kernel

end Report

end MarkupAudit
