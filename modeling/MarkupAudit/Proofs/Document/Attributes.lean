/-
# Attribute sets as ordered maps

What an attribute set holds after any succession of settings, those from which it was made and those
that came later: each name once, in the order in which the names were first set, with the value that
was set last. A setting of a name that is there already is felt at its own place only.

An attribute set is a list of pairs in which a setting looks for its name from the front. That no
name is listed twice is not built into it. It is what makes the list, the look-up of values and the
number of attributes speak of one and the same map.
-/

import Mathlib.Data.Finset.Card
import Mathlib.Data.List.Induction
import MarkupAudit.Document.Attributes

namespace MarkupAudit

/-! ## First occurrences -/

/-- One more item is a first occurrence unless it has occurred. -/
theorem eraseDups_concat (items : List String) (item : String) :
    (items ++ [item]).eraseDups =
      if item ∈ items then items.eraseDups else items.eraseDups ++ [item] := by
  rw [List.eraseDups_append]
  by_cases occurred : item ∈ items
  · simp [List.removeAll, occurred]
  · simp [List.removeAll, occurred, List.eraseDups_cons]

theorem nodup_eraseDups (items : List String) : items.eraseDups.Nodup := by
  induction items using List.reverseRecOn with
  | nil => exact List.nodup_nil
  | append_singleton items item ih =>
      rw [eraseDups_concat]
      split
      · exact ih
      · rename_i new
        rw [← List.concat_eq_append]
        exact ih.concat (mt List.mem_eraseDups.mp new)

namespace AttributeSet

/-! ## One setting -/

/-- Setting a name leaves the entries of other names at their places, with their values. -/
theorem getElem?_setEntry_iff {name other : String} (apart : other ≠ name) (value held : String)
    (entries : List (String × String)) (place : Nat) :
    (setEntry name value entries)[place]? = some (other, held) ↔
      entries[place]? = some (other, held) := by
  have differs : (name, value) ≠ (other, held) := fun same => apart (congrArg Prod.fst same).symm
  induction entries generalizing place with
  | nil => cases place <;> simp [setEntry, differs]
  | cons entry rest ih =>
      rw [setEntry]
      split
      · rename_i found
        have replaced : entry ≠ (other, held) := fun same =>
          apart ((congrArg Prod.fst same).symm.trans found)
        cases place <;> simp [differs, replaced]
      · cases place with
        | zero => rfl
        | succ place => exact ih place

/-- If no name is listed twice, the entries are what is looked up. -/
theorem mem_entries_iff {attributes : AttributeSet} (apart : attributes.names.Nodup)
    (name value : String) :
    (name, value) ∈ attributes.entries ↔ attributes.get? name = some value := by
  rw [get?, List.lookup_eq_some_iff]
  constructor
  · intro listed
    obtain ⟨before, after, split⟩ := List.append_of_mem listed
    refine ⟨before, after, split, fun entry earlier => bne_iff_ne.mpr ?_⟩
    rintro rfl
    rw [names, split, List.map_append, List.map_cons] at apart
    exact (List.nodup_append.mp apart).2.2 _ (List.mem_map_of_mem earlier) _ List.mem_cons_self rfl
  · rintro ⟨before, after, split, _⟩
    rw [split]
    exact List.mem_append_right before List.mem_cons_self

/-! ## Successions of settings -/

/-- Set pairs in turn. -/
def setAll (attributes : AttributeSet) (pairs : List (String × String)) : AttributeSet :=
  pairs.foldl (fun attributes pair => attributes.set pair.1 pair.2) attributes

theorem setAll_ofList (pairs later : List (String × String)) :
    (ofList pairs).setAll later = ofList (pairs ++ later) := by
  rw [ofList, ofList, setAll, List.foldl_append]

theorem ofList_concat (pairs : List (String × String)) (pair : String × String) :
    ofList (pairs ++ [pair]) = (ofList pairs).set pair.1 pair.2 := by
  rw [ofList, List.foldl_concat, ofList]

theorem names_ofList (pairs : List (String × String)) :
    (ofList pairs).names = (pairs.map Prod.fst).eraseDups := by
  induction pairs using List.reverseRecOn with
  | nil => rfl
  | append_singleton pairs pair ih =>
      rw [ofList_concat, names_set, ih, List.map_append, List.map_singleton, eraseDups_concat]
      simp only [List.mem_eraseDups]

theorem get?_ofList (pairs : List (String × String)) (name : String) :
    (ofList pairs).get? name = pairs.reverse.lookup name := by
  induction pairs using List.reverseRecOn with
  | nil => rfl
  | append_singleton pairs pair ih =>
      rw [ofList_concat, get?_set, ih, List.reverse_concat, List.lookup_cons]
      split
      · rename_i same
        rw [beq_iff_eq.mpr same]
      · rename_i apart
        rw [beq_false_of_ne apart]

theorem get?_ofList_eq_some_iff (pairs : List (String × String)) (name value : String) :
    (ofList pairs).get? name = some value ↔
      ∃ before after, pairs = before ++ (name, value) :: after ∧ name ∉ after.map Prod.fst := by
  have absent (after : List (String × String)) :
      (∀ pair ∈ after, (name != pair.1) = true) ↔ name ∉ after.map Prod.fst := by
    simp only [bne_iff_ne, List.mem_map, not_exists, not_and, ne_comm]
  rw [get?_ofList, List.lookup_eq_some_iff]
  constructor
  · rintro ⟨after, before, split, others⟩
    refine ⟨before.reverse, after.reverse, ?_, ?_⟩
    · rw [← List.reverse_inj, split]
      simp
    · rw [List.map_reverse, List.mem_reverse]
      exact (absent after).mp others
  · rintro ⟨before, after, rfl, others⟩
    refine ⟨after.reverse, before.reverse, by simp, fun pair listed => ?_⟩
    exact (absent after).mpr others pair (List.mem_reverse.mp listed)

theorem get?_ofList_eq_none_iff (pairs : List (String × String)) (name : String) :
    (ofList pairs).get? name = none ↔ name ∉ pairs.map Prod.fst := by
  rw [get?_ofList, List.lookup_eq_none_iff]
  simp only [List.mem_reverse, bne_iff_ne, List.mem_map, not_exists, not_and, ne_comm]

/-- An attribute set is the ordered map that is left by some settings. -/
structure Records (attributes : AttributeSet) (settings : List (String × String)) : Prop where
  names_nodup : attributes.names.Nodup
  /-- The names stand in the order in which they were first set. -/
  names_eq : attributes.names = (settings.map Prod.fst).eraseDups
  size_eq : attributes.size = (settings.map Prod.fst).toFinset.card
  /-- A name has the value that was set last. -/
  get?_eq_some_iff : ∀ name value, attributes.get? name = some value ↔
    ∃ before after, settings = before ++ (name, value) :: after ∧ name ∉ after.map Prod.fst
  get?_eq_none_iff : ∀ name, attributes.get? name = none ↔ name ∉ settings.map Prod.fst
  contains_iff : ∀ name, attributes.contains name = true ↔
    ∃ value, attributes.get? name = some value
  mem_entries_iff : ∀ name value, (name, value) ∈ attributes.entries ↔
    attributes.get? name = some value

theorem records_ofList (pairs : List (String × String)) : (ofList pairs).Records pairs := by
  have nodup : (ofList pairs).names.Nodup := by
    rw [names_ofList]
    exact nodup_eraseDups _
  refine ⟨nodup, names_ofList pairs, ?_, get?_ofList_eq_some_iff pairs,
    get?_ofList_eq_none_iff pairs, fun name => Option.isSome_iff_exists, mem_entries_iff nodup⟩
  have same : (pairs.map Prod.fst).toFinset = (ofList pairs).names.toFinset := by
    ext name
    rw [names_ofList, List.mem_toFinset, List.mem_toFinset, List.mem_eraseDups]
  rw [same, List.toFinset_card_of_nodup nodup, names, List.length_map, size]

/-- An attribute set that is made from some pairs and then changed by further settings is the
ordered map that all of these leave. Whichever name is set next, all others keep their places and
their values. -/
theorem setAll_records (pairs later : List (String × String)) :
    let attributes := (ofList pairs).setAll later
    attributes.Records (pairs ++ later) ∧
      ∀ (name value other held : String) (place : Nat), other ≠ name →
        ((attributes.set name value).entries[place]? = some (other, held) ↔
          attributes.entries[place]? = some (other, held)) := by
  intro attributes
  have made : attributes = ofList (pairs ++ later) := setAll_ofList pairs later
  refine ⟨?_, fun name value other held place apart =>
    getElem?_setEntry_iff apart value held attributes.entries place⟩
  rw [made]
  exact records_ofList (pairs ++ later)

end AttributeSet

end MarkupAudit
