/-
# Recovering an audit from its JSON

An audit is read back from the JSON value in which it is written, field by field: every member is
looked up by its key and decoded by the reader for its kind. Nothing is lost on the way but whether
the audit is closed, which is not written. A text spells one value only, so the same holds of the
two texts in which the value is printed.

The counts, lines and places in an audit are numbers of sixty-four bits.
-/

import MarkupAudit.Proofs.Audit.Printed

namespace MarkupAudit

/-! ## Decoders -/

namespace Json

variable {α : Type}

/-- The text of a string. -/
def string? : Json → Option String
  | .string text => some text
  | _ => none

/-- The natural number that a number is, if it is one within sixty-four bits. -/
def natural? : Json → Option Nat
  | .number numeral => numeral.natural?
  | _ => none

/-- The items of an array, decoded one by one. -/
def items? (decode : Json → Option α) : Json → Option (List α)
  | .array items => items.mapM decode
  | _ => none

/-- What is missing if it is null. -/
def nullable? (decode : Json → Option α) : Json → Option (Option α)
  | .null => some none
  | value => (decode value).map some

/-- The one of some things whose name is a string. -/
def named? (all : List α) (name : α → String) (value : Json) : Option α :=
  value.string?.bind fun text => all.find? (name · == text)

/-- The member of an object with a key, decoded. -/
def field? (object : Json) (key : String) (decode : Json → Option α) : Option α :=
  (object.member? key).bind decode

theorem natural?_natural {n : Nat} (small : n < Nat.pow 2 64) : natural? (.natural n) = some n :=
  Numeral.natural?_ofNat small

theorem items?_map {encode : α → Json} {decode : Json → Option α} {values : List α}
    (decodes : ∀ value ∈ values, decode (encode value) = some value) :
    items? decode (.array (values.map encode)) = some values := by
  show (values.map encode).mapM decode = some values
  induction values with
  | nil => rfl
  | cons value values ih =>
      rw [List.forall_mem_cons] at decodes
      rw [List.map_cons, List.mapM_cons, decodes.1, ih decodes.2]
      rfl

theorem nullable?_optional {encode : α → Json} {decode : Json → Option α} {value : Option α}
    (decodes : ∀ a ∈ value, decode (encode a) = some a) (written : ∀ a, encode a ≠ .null) :
    nullable? decode (.optional encode value) = some value := by
  cases value with
  | none => rfl
  | some a =>
      have decoded := decodes a rfl
      have present := written a
      show nullable? decode (encode a) = _
      unfold nullable?
      split
      · contradiction
      · rw [decoded]
        rfl

theorem named?_name {all : List α} {name : α → String} (distinct : ∀ {first second},
      name first = name second → first = second) {value : α} (listed : value ∈ all) :
    named? all name (.string (name value)) = some value := by
  show all.find? (name · == name value) = _
  induction all with
  | nil => contradiction
  | cons first rest ih =>
      by_cases same : name first = name value
      · rw [List.find?_cons_of_pos (by simpa using same), distinct same]
      · rw [List.find?_cons_of_neg (by simpa using same)]
        apply ih
        exact (List.mem_cons.mp listed).resolve_left fun here => same (here ▸ rfl)

end Json

/-! ## Names -/

namespace Status

/-- All verdicts. -/
def all : List Status := [pass, fail, unknown]

theorem mem_all (status : Status) : status ∈ all := by
  cases status <;> decide

end Status

namespace Category

/-- All categories. -/
def all : List Category :=
  [unknown, disallowedHtmlWithEquivalent, disallowedHtml, mandatoryTagMissingOrIncorrect,
   layoutProblem, customScriptDisallowed, namespaceTagProblem, deprecation, generic]

theorem mem_all (category : Category) : category ∈ all := by
  cases category <;> decide

end Category

namespace Severity

/-- All severities. -/
def all : List Severity := [error, warning]

theorem mem_all (severity : Severity) : severity ∈ all := by
  cases severity <;> decide

theorem name_inj {first second : Severity} : first.name = second.name ↔ first = second := by
  cases first <;> cases second <;> decide

end Severity

namespace Phase

/-- Both phases. -/
def all : List Phase := [.local, global]

theorem mem_all (phase : Phase) : phase ∈ all := by
  cases phase <;> decide

theorem name_inj {first second : Phase} : first.name = second.name ↔ first = second := by
  cases first <;> cases second <;> decide

end Phase

/-! ## Violations and audits -/

/-- Decode the place of an element. -/
def ElementId.ofJson? (value : Json) : Option ElementId := value.natural?.map mk

theorem ElementId.ofJson?_natural {id : ElementId} (small : id.index < Nat.pow 2 64) :
    ofJson? (.natural id.index) = some id := by
  rw [ofJson?, Json.natural?_natural small]
  rfl

namespace Violation

/-- Decode a violation. -/
def ofJson? (object : Json) : Option Violation := do
  some {
    code := ← object.field? "code" (Json.named? Code.all Code.name)
    params := ← object.field? "params" (Json.items? Json.string?)
    detail := ← object.field? "detail" (Json.nullable? Json.string?)
    line := ← object.field? "line" Json.natural?
    element := ← object.field? "element" (Json.nullable? ElementId.ofJson?)
    heading := ← object.field? "context_string" Json.string?
    phase := ← object.field? "phase" (Json.named? Phase.all Phase.name)
    severity := ← object.field? "severity" (Json.named? Severity.all Severity.name)
    category := ← object.field? "category" (Json.nullable? (Json.named? Category.all Category.name))
    specUrl := ← object.field? "spec_url" (Json.nullable? Json.string?)
    action := ← object.field? "action_taken"
      (Json.nullable? (·.field? "human_description" Json.string?)) }

theorem ofJson?_toJson {violation : Violation} (bounded : violation.IsBounded) :
    ofJson? violation.toJson = some violation := by
  have text (value : Option String) :
      Json.nullable? Json.string? (.optional .string value) = some value :=
    Json.nullable?_optional (fun _ _ => rfl) nofun
  have code : violation.toJson.field? "code" (Json.named? Code.all Code.name) =
      some violation.code :=
    Json.named?_name Code.name_inj.mp (Code.mem_all violation.code)
  have params : violation.toJson.field? "params" (Json.items? Json.string?) =
      some violation.params :=
    Json.items?_map fun _ _ => rfl
  have detail : violation.toJson.field? "detail" (Json.nullable? Json.string?) =
      some violation.detail := text violation.detail
  have line : violation.toJson.field? "line" Json.natural? = some violation.line :=
    Json.natural?_natural bounded.1
  have element : violation.toJson.field? "element" (Json.nullable? ElementId.ofJson?) =
      some violation.element :=
    Json.nullable?_optional
      (fun id present => ElementId.ofJson?_natural (bounded.2 id present)) nofun
  have heading : violation.toJson.field? "context_string" Json.string? =
      some violation.heading := rfl
  have phase : violation.toJson.field? "phase" (Json.named? Phase.all Phase.name) =
      some violation.phase :=
    Json.named?_name Phase.name_inj.mp (Phase.mem_all violation.phase)
  have severity : violation.toJson.field? "severity" (Json.named? Severity.all Severity.name) =
      some violation.severity :=
    Json.named?_name Severity.name_inj.mp (Severity.mem_all violation.severity)
  have category : violation.toJson.field? "category"
      (Json.nullable? (Json.named? Category.all Category.name)) = some violation.category :=
    Json.nullable?_optional
      (fun category _ => Json.named?_name Category.name_inj.mp category.mem_all) nofun
  have specUrl : violation.toJson.field? "spec_url" (Json.nullable? Json.string?) =
      some violation.specUrl := text violation.specUrl
  have action : violation.toJson.field? "action_taken"
      (Json.nullable? (·.field? "human_description" Json.string?)) = some violation.action :=
    Json.nullable?_optional (fun _ _ => rfl) nofun
  simp only [ofJson?, code, params, detail, line, element, heading, phase, severity, category,
    specUrl, action, Option.bind_eq_bind, Option.bind_some]

theorem depth_toJson_le (violation : Violation) : violation.toJson.depth ≤ 2 := by
  apply Nat.succ_le_succ
  apply Json.depthOfMembers_le
  have flat {n : Nat} : 0 ≤ n := Nat.zero_le n
  have params : (Json.array (violation.params.map .string)).depth ≤ 1 :=
    Nat.succ_le_succ (Json.depthOfItems_le (List.forall_mem_map.mpr fun _ _ => flat))
  have action : (Json.optional (fun text => .object [("human_description", .string text)])
      violation.action).depth ≤ 1 :=
    Json.depth_optional_le (fun _ => Nat.le_refl 1) violation.action
  simp only [List.forall_mem_cons, List.not_mem_nil, false_implies, implies_true, and_true]
  exact ⟨flat, params, Json.depth_optional_le (fun _ => flat) _, flat,
    Json.depth_optional_le (fun _ => flat) _, flat, flat, flat,
    Json.depth_optional_le (fun _ => flat) _, Json.depth_optional_le (fun _ => flat) _, action⟩

end Violation

namespace Audit

/-- Decode an audit, which is taken to be open. -/
def ofJson? (object : Json) : Option Audit := do
  some {
    status := ← object.field? "status" (Json.named? Status.all Status.name)
    violations := (← object.field? "errors" (Json.items? Violation.ofJson?)).toArray
    tagsProcessed := ← object.field? "tags_processed" Json.natural?
    isClosed := false }

/-- The numbers of an audit are within 64 bits. -/
structure IsBounded (audit : Audit) : Prop where
  tagsProcessed : audit.tagsProcessed < Nat.pow 2 64
  violations : ∀ violation ∈ audit.violations.toList, violation.IsBounded

variable {audit : Audit}

theorem ofJson?_toJson (bounded : audit.IsBounded) :
    ofJson? audit.toJson = some { audit with isClosed := false } := by
  have status : audit.toJson.field? "status" (Json.named? Status.all Status.name) =
      some audit.status :=
    Json.named?_name Status.name_inj.mp (Status.mem_all audit.status)
  have errors : audit.toJson.field? "errors" (Json.items? Violation.ofJson?) =
      some audit.violations.toList :=
    Json.items?_map fun violation listed =>
      Violation.ofJson?_toJson (bounded.violations violation listed)
  have tagsProcessed : audit.toJson.field? "tags_processed" Json.natural? =
      some audit.tagsProcessed :=
    Json.natural?_natural bounded.tagsProcessed
  simp only [ofJson?, status, errors, tagsProcessed, Option.bind_eq_bind, Option.bind_some]

theorem depth_toJson_le (audit : Audit) : audit.toJson.depth ≤ Json.maxDepth := by
  have errors : (Json.array (audit.violations.toList.map Violation.toJson)).depth ≤ 3 :=
    Nat.succ_le_succ (Json.depthOfItems_le
      (List.forall_mem_map.mpr fun violation _ => violation.depth_toJson_le))
  have all : audit.toJson.depth ≤ 4 := by
    apply Nat.succ_le_succ
    apply Json.depthOfMembers_le
    simp only [List.forall_mem_cons, List.not_mem_nil, false_implies, implies_true, and_true]
    exact ⟨Nat.zero_le 3, errors, Nat.zero_le 3⟩
  exact Nat.le_trans all (by decide)

/-- The texts in which an audit is written: the compact form of its JSON and the indented one. -/
def texts (audit : Audit) : List String := [audit.toJson.compact, audit.toJson.pretty]

theorem spells_of_mem_texts (bounded : audit.IsBounded) {text : String}
    (written : text ∈ audit.texts) : audit.toJson.Spells text.toList := by
  have legal := isLegal_toJson bounded.tagsProcessed bounded.violations
  rcases List.mem_cons.mp written with rfl | other
  · exact Json.spells_compact legal
  · obtain rfl := List.mem_singleton.mp other
    exact Json.spells_pretty legal

/-- The texts of an audit are JSON and all spell one value, from which the audit is decoded, but for
whether it is closed. So audits with a text in common differ in nothing else. -/
theorem decodes_texts (bounded : audit.IsBounded) :
    (∀ text ∈ audit.texts, audit.toJson.Spells text.toList ∧
      Json.read text.toList = .ok (audit.toJson, [])) ∧
      ofJson? audit.toJson = some { audit with isClosed := false } ∧
      ∀ other : Audit, other.IsBounded → (∃ text ∈ audit.texts, text ∈ other.texts) →
        { other with isClosed := false } = { audit with isClosed := false } := by
  have decoded := ofJson?_toJson bounded
  refine ⟨fun text written => ?_, decoded, fun other otherBounded common => ?_⟩
  · have spells := spells_of_mem_texts bounded written
    exact ⟨spells, Json.read_of_spells spells audit.depth_toJson_le⟩
  · obtain ⟨text, written, alsoWritten⟩ := common
    have spells := spells_of_mem_texts bounded written
    have same := spells.padded.unique (spells_of_mem_texts otherBounded alsoWritten).padded
    rw [same, ofJson?_toJson otherBounded] at decoded
    exact Option.some.inj decoded

/-- A closed audit with strings that a printer has to be careful with. -/
def quoted : Audit where
  status := .unknown
  violations := #[
    { Violation.ofDocument .invalidAttrValue ["\"", "a\\b", "\x01\t\n", "⚡", "%1", ""] with
      phase := .local
      element := some ⟨4⟩
      line := 7
      heading := "</p>"
      severity := .warning
      action := some "null" },
    { Violation.ofDocument .unknownCode [] with
      detail := some "[1, \x7b\x7d]"
      category := some .unknown
      specUrl := some "/#\"\"" }]
  tagsProcessed := 5
  isClosed := true

theorem decodes_texts_quoted :
    quoted.IsBounded ∧
      (∀ text ∈ quoted.texts, quoted.toJson.Spells text.toList ∧
        Json.read text.toList = .ok (quoted.toJson, [])) ∧
      ofJson? quoted.toJson = some { quoted with isClosed := false } := by
  have bounded : quoted.IsBounded := by
    refine ⟨by decide, ?_⟩
    show ∀ violation ∈ [_, _], Violation.IsBounded violation
    rw [List.forall_mem_cons, List.forall_mem_singleton]
    exact ⟨⟨by decide, by decide⟩, by decide, nofun⟩
  obtain ⟨written, decoded, _⟩ := decodes_texts bounded
  exact ⟨bounded, written, decoded⟩

end Audit

end MarkupAudit
