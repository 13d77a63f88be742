/-
# The built-in rules

A table can be compiled if each of its patterns can be read and is small enough, and the patterns
of the built-in table are. They are simply tried, except for the one that takes no regard to case:
to read that one, the whole table of letters is searched for each of its characters. There the
letters are looked up first, and what is left to sort is a handful of spans.
-/

import Mathlib
import MarkupAudit.Proofs.Rules.Compilation
import MarkupAudit.Rules.Builtin

namespace MarkupAudit

/-- The patterns of a table, in their order. -/
def RuleTable.patterns (table : RuleTable) : List String :=
  table.tags.flatMap fun definition => definition.attributes.filterMap (·.valuePattern)

/-- A pattern that is not refused. -/
def Pattern.IsReadable (text : String) : Prop :=
  (compile (anchored text)).isSome

instance (text : String) : Decidable (Pattern.IsReadable text) :=
  inferInstanceAs (Decidable (_ = true))

namespace RuleSet

/-- A table whose patterns can be read can be compiled. -/
theorem exists_compile {table : RuleTable}
    (readable : ∀ text ∈ table.patterns, Pattern.IsReadable text) :
    ∃ rules, compile table = .ok rules := by
  have attributeRule {definition : TagDefinition} (listed : definition ∈ table.tags) :
      ∀ item ∈ definition.attributes,
        ∃ rule, AttributeRule.compile definition.tag item = .ok rule := by
    intro item inside
    unfold AttributeRule.compile
    split
    · exact ⟨_, rfl⟩
    · rename_i text written
      have isPattern : text ∈ table.patterns :=
        List.mem_flatMap.mpr ⟨definition, listed, List.mem_filterMap.mpr ⟨item, inside, written⟩⟩
      obtain ⟨pattern, read⟩ := Option.isSome_iff_exists.mp (readable text isPattern)
      rw [read]
      exact ⟨_, rfl⟩
  have tagRule : ∀ definition ∈ table.tags, ∃ rule, TagRule.compile definition = .ok rule := by
    intro definition listed
    obtain ⟨attributes, made⟩ := exists_mapM (attributeRule listed)
    exact ⟨⟨{ definition with name := definition.tag }, attributes⟩,
      TagRule.compile_eq_ok_iff.mpr ⟨rfl, made⟩⟩
  obtain ⟨tags, made⟩ := exists_mapM tagRule
  exact ⟨⟨table.name, table.version, table.globalAttributes, tags⟩,
    compile_eq_ok_iff.mpr ⟨rfl, rfl, rfl, mapM_eq_ok_iff.mp made⟩⟩

end RuleSet

namespace Pattern

open Text

/-- The representatives of the classes of letters that meet a set. -/
def classLeaders (set : CodeSet) : List Span :=
  foldPairs.filterMap fun (other, leader) =>
    if set.contains other || set.contains leader then some ⟨leader, leader⟩ else none

/-- The letters that the table leads to some representatives. -/
def classMembers (leaders : CodeSet) : List Span :=
  foldPairs.filterMap fun (other, leader) =>
    if leaders.contains leader then some ⟨other, other⟩ else none

theorem closeCase_eq {set : CodeSet} {leaders members : List Span}
    (leads : classLeaders set = leaders) (led : classMembers (.ofSpans leaders) = members) :
    closeCase set = unionAll [set, .ofSpans leaders, .ofSpans members] := by
  rw [← led, ← leads]
  rfl

/-- A small letter that is the representative of a class of two, with its capital. -/
theorem closeCase_letter {capital small : Nat} (below : capital + 1 < small)
    (leads : classLeaders (.single small) = [⟨small, small⟩])
    (led : classMembers (.ofSpans [⟨small, small⟩]) = [⟨capital, capital⟩]) :
    closeCase (.single small) = ⟨[⟨capital, capital⟩, ⟨small, small⟩]⟩ := by
  have alone (code : Nat) : CodeSet.ofSpans [⟨code, code⟩] = ⟨[⟨code, code⟩]⟩ := by
    simp [CodeSet.ofSpans, CodeSet.joinSorted, CodeSet.joinSorted.go]
  have sorted : List.mergeSort [Span.mk small small, ⟨small, small⟩, ⟨capital, capital⟩]
      (fun a b => a.first ≤ b.first) = [⟨capital, capital⟩, ⟨small, small⟩, ⟨small, small⟩] := by
    have above : ¬small ≤ capital := by omega
    simp [List.mergeSort, List.MergeSort.Internal.splitInTwo, above]
  have apart : ¬small ≤ capital + 1 := by omega
  rw [closeCase_eq leads led, unionAll, alone, alone]
  show CodeSet.mk (CodeSet.joinSorted (List.mergeSort
    [Span.mk small small, ⟨small, small⟩, ⟨capital, capital⟩] fun a b => a.first ≤ b.first)) = _
  rw [sorted]
  simp [CodeSet.joinSorted, CodeSet.joinSorted.go, apart]

/-- A character without a class is closed by itself. -/
theorem closeCase_alone {code : Nat} (leads : classLeaders (.single code) = []) :
    closeCase (.single code) = .single code := by
  have led : classMembers (.ofSpans []) = [] := by decide +kernel
  rw [closeCase_eq leads led]
  cbv

theorem isReadable_utf8 : IsReadable "(?i)utf-8" := by
  have read : Node.read (anchored "(?i)utf-8") =
      some (.seq (.anchor .textStart) (.seq
        (.seq (.one (closeCase (.single 0x75))) (.seq (.one (closeCase (.single 0x74)))
          (.seq (.one (closeCase (.single 0x66))) (.seq (.one (closeCase (.single 0x2d)))
            (.one (closeCase (.single 0x38)))))))
        (.anchor .textEnd))) := rfl
  have u : closeCase (.single 0x75) = ⟨[⟨0x55, 0x55⟩, ⟨0x75, 0x75⟩]⟩ :=
    closeCase_letter (by decide) (by decide +kernel) (by decide +kernel)
  have t : closeCase (.single 0x74) = ⟨[⟨0x54, 0x54⟩, ⟨0x74, 0x74⟩]⟩ :=
    closeCase_letter (by decide) (by decide +kernel) (by decide +kernel)
  have f : closeCase (.single 0x66) = ⟨[⟨0x46, 0x46⟩, ⟨0x66, 0x66⟩]⟩ :=
    closeCase_letter (by decide) (by decide +kernel) (by decide +kernel)
  have hyphen : closeCase (.single 0x2d) = .single 0x2d := closeCase_alone (by decide +kernel)
  have eight : closeCase (.single 0x38) = .single 0x38 := closeCase_alone (by decide +kernel)
  rw [IsReadable, compile, read, u, t, f, hyphen, eight]
  decide +kernel

end Pattern

namespace RuleTable

/-- The patterns of the built-in table with sets of several spans, which are sorted when the
pattern is read. -/
def sortedPatterns : List String :=
  ["amp-[a-z0-9-]+", "https://cdn\\.ampproject\\.org/.*"]

/-- Those with single characters and single spans only. -/
def directPatterns : List String :=
  ["application/(ld\\+)?json", "_blank|_self|_top", "[0-9]+(px)?", "[0-9]+(px)?|auto",
    "[0-9]+(px)?|fluid",
    "nodisplay|fixed|responsive|fixed-height|fill|container|flex-item|intrinsic"]

theorem patterns_builtin :
    builtin.patterns ⊆ "(?i)utf-8" :: sortedPatterns ++ directPatterns := by
  decide +kernel

end RuleTable

-- Sorting recurs on the length of a list, which the kernel does not unfold by itself.
set_option maxRecDepth 4000 in
theorem Pattern.isReadable_sorted : ∀ text ∈ RuleTable.sortedPatterns, IsReadable text := by
  rw [RuleTable.sortedPatterns, List.forall_mem_cons, List.forall_mem_singleton]
  constructor
  · show (compile _).isSome = true
    cbv
  · show (compile _).isSome = true
    cbv

theorem Pattern.isReadable_direct : ∀ text ∈ RuleTable.directPatterns, IsReadable text := by
  decide +kernel

/-- The built-in rules are never refused. -/
theorem RuleSet.exists_builtin : ∃ rules, builtin = .ok rules := by
  refine exists_compile fun text written => ?_
  rcases List.mem_append.mp (RuleTable.patterns_builtin written) with early | direct
  · rcases List.mem_cons.mp early with rfl | sorted
    · exact Pattern.isReadable_utf8
    · exact Pattern.isReadable_sorted text sorted
  · exact Pattern.isReadable_direct text direct

end MarkupAudit
