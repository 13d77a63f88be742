/-
# Rules in the order of their table

Making the rules of a table either gives one rule for each definition, in the same order, with the
name of the tag in lower case, or it reports the first pattern of the table that is refused: the
first attribute with such a pattern in the first tag that has one.

The index is built along with the list, and overwritten where a name comes again. It agrees with the
list at each step: the place that is entered for a name is in range, and what stands there is the
last rule with the name. Rules are therefore found by the index as they are found in the list from
its end.
-/

import MarkupAudit.Proofs.Rules.Compilation
import MarkupAudit.Rules.Index

namespace MarkupAudit

/-! ## The first that is refused -/

/-- If each step either fails with a fault of its item or gives what is made of it, all of them
together fail with the first fault or give what is made of each. -/
theorem mapM_eq_findSome? {ε α β γ : Type} {step : α → Except ε β} {fault? : α → Option γ}
    {report : γ → ε} {make : α → β}
    (each : ∀ item, step item = (fault? item).elim (.ok (make item)) fun fault =>
      .error (report fault)) (items : List α) :
    items.mapM step = (items.findSome? fault?).elim (.ok (items.map make)) fun fault =>
      .error (report fault) := by
  induction items with
  | nil => rfl
  | cons item rest ih =>
      rw [List.mapM_cons, each, ih, List.findSome?_cons]
      cases fault? item with
      | some fault => rfl
      | none => cases rest.findSome? fault? <;> rfl

namespace AttributeDefinition

/-- The attribute has a pattern that is refused. -/
def isRefused (definition : AttributeDefinition) : Bool :=
  definition.valuePattern.any fun text => (Pattern.compile (Pattern.anchored text)).isNone

/-- The rule that is made from the definition of an attribute. -/
def rule (definition : AttributeDefinition) : AttributeRule :=
  ⟨definition, definition.valuePattern.bind fun text => Pattern.compile (Pattern.anchored text)⟩

/-- The report on an attribute of a tag whose pattern is refused. -/
def refusal (entry : String × AttributeDefinition) : Failure :=
  .pattern entry.1 entry.2.name

end AttributeDefinition

namespace TagDefinition

/-- The rule that is made from the definition of a tag. -/
def rule (definition : TagDefinition) : TagRule :=
  ⟨{ definition with name := definition.tag }, definition.attributes.map AttributeDefinition.rule⟩

/-- The attributes of a tag, each with the name of the tag. -/
def entries (definition : TagDefinition) : List (String × AttributeDefinition) :=
  definition.attributes.map (definition.tag, ·)

end TagDefinition

/-- The attributes of a table in its order, each with the name of its tag. -/
def RuleTable.entries (table : RuleTable) : List (String × AttributeDefinition) :=
  table.tags.flatMap TagDefinition.entries

theorem AttributeRule.compile_eq (tag : String) (definition : AttributeDefinition) :
    compile tag definition =
      (if definition.isRefused then some (tag, definition) else none).elim (.ok definition.rule)
        fun entry => .error (AttributeDefinition.refusal entry) := by
  unfold compile AttributeDefinition.isRefused AttributeDefinition.rule
  cases definition.valuePattern with
  | none => rfl
  | some text =>
      cases found : Pattern.compile (Pattern.anchored text) with
      | none => simp [found, AttributeDefinition.refusal]
      | some pattern => simp [found]

/-- The first attribute of a tag with a refused pattern is reported. -/
theorem TagRule.compile_eq (definition : TagDefinition) :
    compile definition =
      (definition.entries.find? (·.2.isRefused)).elim (.ok definition.rule)
        fun entry => .error (AttributeDefinition.refusal entry) := by
  have first (tag : String) (items : List AttributeDefinition) :
      (items.findSome? fun item => if item.isRefused then some (tag, item) else none) =
        (items.map (tag, ·)).find? (·.2.isRefused) := by
    induction items with
    | nil => rfl
    | cons item rest ih =>
        rw [List.findSome?_cons, List.map_cons, List.find?_cons, ih]
        cases item.isRefused <;> rfl
  have made := mapM_eq_findSome? (AttributeRule.compile_eq definition.tag) definition.attributes
  rw [first] at made
  show (definition.attributes.mapM (AttributeRule.compile definition.tag) >>= _) = _
  rw [made, TagDefinition.entries]
  cases (definition.attributes.map (definition.tag, ·)).find? (·.2.isRefused) <;> rfl

/-- All steps for the tags of a table. -/
theorem mapM_compile_eq (table : RuleTable) :
    table.tags.mapM TagRule.compile =
      (table.entries.find? (·.2.isRefused)).elim (.ok (table.tags.map TagDefinition.rule))
        fun entry => .error (AttributeDefinition.refusal entry) := by
  rw [mapM_eq_findSome? TagRule.compile_eq, RuleTable.entries, List.find?_flatMap]

/-! ## The index -/

namespace RuleIndex

/-- What is looked up after a place has been entered. -/
theorem lookup_enter (places : List (String × Nat)) (name : String) (place : Nat)
    (other : String) :
    (enter places name place).lookup other =
      if other = name then some place else places.lookup other := by
  unfold enter
  rw [List.lookup_cons]
  by_cases same : other = name
  · subst same
    simp
  · have apart : (other == name) = false := by simpa using same
    rw [if_neg same, apart]
    dsimp only
    induction places with
    | nil => rfl
    | cons entry rest ih =>
        obtain ⟨key, earlier⟩ := entry
        by_cases isName : key = name
        · have dropped : (key != name) = false := by simpa using isName
          have passed : (other == key) = false := by simpa [isName] using same
          rw [List.filter_cons, dropped, List.lookup_cons, passed]
          exact ih
        · have kept : (key != name) = true := by simpa using isName
          rw [List.filter_cons, kept, if_pos rfl, List.lookup_cons, List.lookup_cons, ih]

/-- Each place is in range, and what stands at the place for a name is the last rule with it. -/
structure Agrees (index : RuleIndex) : Prop where
  inRange : ∀ name place, index.places.lookup name = some place → place < index.tags.length
  isLast : ∀ name, index.tag? name = index.tags.reverse.find? (·.definition.name == name)

theorem agrees_empty : empty.Agrees :=
  ⟨fun _ _ found => (nomatch found), fun _ => rfl⟩

/-- The index still agrees with the list when a rule has been added to both. -/
theorem Agrees.push {index : RuleIndex} (agrees : index.Agrees) (rule : TagRule) :
    (index.push rule).Agrees := by
  have entered (name : String) : (index.push rule).places.lookup name =
      if name = rule.definition.name then some index.tags.length else index.places.lookup name :=
    lookup_enter index.places rule.definition.name index.tags.length name
  have tags : (index.push rule).tags = index.tags ++ [rule] := rfl
  constructor
  case inRange =>
    intro name place found
    rw [entered] at found
    rw [tags, List.length_append, List.length_singleton]
    split at found
    · obtain rfl := Option.some.inj found
      exact Nat.lt_succ_self _
    · exact Nat.lt_succ_of_lt (agrees.inRange name place found)
  case isLast =>
    intro name
    rw [tag?, entered, tags, List.reverse_concat, List.find?_cons]
    by_cases same : name = rule.definition.name
    · have isName : (rule.definition.name == name) = true := by simpa using same.symm
      rw [if_pos same, isName]
      exact List.getElem?_concat_length
    · have apart : (rule.definition.name == name) = false := by simpa using Ne.symm same
      rw [if_neg same, apart, ← agrees.isLast, tag?]
      cases found : index.places.lookup name with
      | none => rfl
      | some place => exact List.getElem?_append_left (agrees.inRange name place found)

/-- Rules are pushed one after the other, as they are made. -/
theorem extend_eq (index : RuleIndex) (definitions : List TagDefinition) :
    index.extend definitions =
      definitions.mapM TagRule.compile >>= fun rules => .ok (rules.foldl push index) := by
  induction definitions generalizing index with
  | nil => rfl
  | cons definition rest ih =>
      rw [extend, List.mapM_cons]
      cases TagRule.compile definition with
      | error failure => rfl
      | ok rule =>
          show (index.push rule).extend rest = _
          rw [ih]
          cases rest.mapM TagRule.compile <;> rfl

theorem tags_foldl_push (index : RuleIndex) (rules : List TagRule) :
    (rules.foldl push index).tags = index.tags ++ rules := by
  induction rules generalizing index with
  | nil => exact (List.append_nil _).symm
  | cons rule rest ih =>
      rw [List.foldl_cons, ih]
      exact List.append_assoc index.tags [rule] rest

theorem Agrees.foldl_push {index : RuleIndex} (agrees : index.Agrees) (rules : List TagRule) :
    (rules.foldl RuleIndex.push index).Agrees := by
  induction rules generalizing index with
  | nil => exact agrees
  | cons rule rest ih => exact ih (agrees.push rule)

end RuleIndex

namespace RuleSet

/-- The last entry of a list with a name, or none if no entry has it. -/
def IsLastNamed (tags : List TagRule) (name : String) : Option TagRule → Prop
  | some rule => ∃ before after, tags = before ++ rule :: after ∧ rule.definition.name = name ∧
      ∀ later ∈ after, later.definition.name ≠ name
  | none => ∀ rule ∈ tags, rule.definition.name ≠ name

theorem tag?_isLastNamed (rules : RuleSet) (name : String) :
    IsLastNamed rules.tags name (rules.tag? name) := by
  unfold tag?
  cases found : rules.tags.reverse.find? (·.definition.name == name) with
  | none =>
      intro rule listed
      simpa using List.find?_eq_none.mp found rule (List.mem_reverse.mpr listed)
  | some rule =>
      obtain ⟨isName, after, before, split, others⟩ := List.find?_eq_some_iff_append.mp found
      refine ⟨before.reverse, after.reverse, ?_, by simpa using isName, fun later listed => ?_⟩
      · rw [← List.reverse_inj, split]
        simp
      · simpa using others later (List.mem_reverse.mp listed)

theorem find?_entries_isSome_iff (table : RuleTable) :
    (table.entries.find? (·.2.isRefused)).isSome = true ↔
      ∃ definition ∈ table.tags, ∃ item ∈ definition.attributes, item.isRefused = true := by
  rw [List.find?_isSome]
  simp only [RuleTable.entries, TagDefinition.entries, List.mem_flatMap, List.mem_map]
  constructor
  · rintro ⟨_, ⟨definition, listed, item, isItem, rfl⟩, refused⟩
    exact ⟨definition, listed, item, isItem, refused⟩
  · rintro ⟨definition, listed, item, isItem, refused⟩
    exact ⟨_, ⟨definition, listed, item, isItem, rfl⟩, refused⟩

/-- The rules of a table are made in its order. Either the first pattern that is refused is
reported, with the tag in lower case, or there is one rule for each definition. Then the index that
is built along with the rules has only places in range, and finds the last rule with a name. -/
theorem compile_inTableOrder (table : RuleTable) :
    ((∃ failure, compile table = .error failure) ↔
        ∃ definition ∈ table.tags, ∃ item ∈ definition.attributes, item.isRefused = true) ∧
      match table.entries.find? (·.2.isRefused) with
      | some (tag, item) =>
          compile table = .error (.pattern tag item.name) ∧
            RuleIndex.ofTable table = .error (.pattern tag item.name)
      | none =>
          ∃ rules index, compile table = .ok rules ∧ RuleIndex.ofTable table = .ok index ∧
            rules = ⟨table.name, table.version, table.globalAttributes,
              table.tags.map TagDefinition.rule⟩ ∧ index.tags = rules.tags ∧
            (∀ name place, index.places.lookup name = some place → place < index.tags.length) ∧
            ∀ name, index.tag? name = rules.tag? name ∧
              IsLastNamed rules.tags name (index.tag? name) := by
  have made : compile table = (table.entries.find? (·.2.isRefused)).elim
      (.ok ⟨table.name, table.version, table.globalAttributes,
        table.tags.map TagDefinition.rule⟩)
      fun entry => .error (AttributeDefinition.refusal entry) := by
    rw [compile, mapM_compile_eq]
    cases table.entries.find? (·.2.isRefused) <;> rfl
  have indexed : RuleIndex.ofTable table = (table.entries.find? (·.2.isRefused)).elim
      (.ok ((table.tags.map TagDefinition.rule).foldl RuleIndex.push RuleIndex.empty))
      fun entry => .error (AttributeDefinition.refusal entry) := by
    rw [RuleIndex.ofTable, RuleIndex.extend_eq, mapM_compile_eq]
    cases table.entries.find? (·.2.isRefused) <;> rfl
  rw [← find?_entries_isSome_iff, made, indexed]
  cases table.entries.find? (·.2.isRefused) with
  | some entry => exact ⟨⟨fun _ => rfl, fun _ => ⟨_, rfl⟩⟩, rfl, rfl⟩
  | none =>
      have agrees := RuleIndex.agrees_empty.foldl_push (table.tags.map TagDefinition.rule)
      have tags := RuleIndex.tags_foldl_push .empty (table.tags.map TagDefinition.rule)
      refine ⟨⟨?fails, fun refused => absurd refused Bool.false_ne_true⟩,
        _, _, rfl, rfl, rfl, tags, agrees.inRange, fun name => ?_⟩
      case fails =>
        rintro ⟨_, failed⟩
        cases failed
      have same := agrees.isLast name
      rw [tags] at same
      exact ⟨same, same ▸ tag?_isLastNamed _ name⟩

/-- Where a name comes again, its place is overwritten. -/
example : (RuleIndex.ofTable ⟨"twice", none, [], [{ (default : TagDefinition) with name := "P" },
      { (default : TagDefinition) with name := "html" },
      { (default : TagDefinition) with name := "p" }]⟩).toOption.map (·.places) =
    some [("p", 2), ("html", 1)] := by decide +kernel

end RuleSet

end MarkupAudit
