/-
# Tallies

How often each tag has been seen, in the order in which the tags were first seen. The checks
that concern a document as a whole rest on it.
-/

namespace MarkupAudit

/-- The tags that have been seen, each with its count, in the order of first sight. -/
structure Tally where
  counts : List (String × Nat)
  deriving Repr, DecidableEq, Inhabited

namespace Tally

/-- Nothing has been seen. -/
def empty : Tally := ⟨[]⟩

/-- How often a tag has been seen. -/
def count (tally : Tally) (tag : String) : Nat :=
  (tally.counts.lookup tag).getD 0

/-- Count one more occurrence among some counts. -/
def increment (tag : String) : List (String × Nat) → List (String × Nat)
  | [] => [(tag, 1)]
  | entry :: rest =>
      if entry.1 = tag then (tag, entry.2 + 1) :: rest else entry :: increment tag rest

/-- See a tag. -/
def record (tally : Tally) (tag : String) : Tally :=
  ⟨increment tag tally.counts⟩

/-- The tags that have been seen, in the order of first sight. -/
def tags (tally : Tally) : List String :=
  tally.counts.map Prod.fst

/-- Counting one more occurrence of a tag raises its count and leaves the others. -/
theorem lookup_increment (tag other : String) (counts : List (String × Nat)) :
    ((increment tag counts).lookup other).getD 0 =
      (counts.lookup other).getD 0 + if other = tag then 1 else 0 := by
  induction counts with
  | nil =>
      by_cases same : other = tag
      · simp [increment, same]
      · have apart : (other == tag) = false := beq_false_of_ne same
        simp [increment, List.lookup_cons, same, apart]
  | cons entry rest ih =>
      obtain ⟨first, count⟩ := entry
      by_cases found : first = tag
      · by_cases same : other = tag
        · simp [increment, found, same]
        · have apart : (other == tag) = false := beq_false_of_ne same
          simp [increment, List.lookup_cons, found, same, apart]
      · by_cases here : other = first
        · simp [increment, found, here]
        · have apart : (other == first) = false := beq_false_of_ne here
          simp only [increment, if_neg found, List.lookup_cons, apart]
          exact ih

/-- Counting an occurrence keeps the tags in their order and adds a new one at the end. -/
theorem tags_increment (tag : String) (counts : List (String × Nat)) :
    (increment tag counts).map Prod.fst =
      if tag ∈ counts.map Prod.fst then counts.map Prod.fst
      else counts.map Prod.fst ++ [tag] := by
  induction counts with
  | nil => simp [increment]
  | cons entry rest ih =>
      by_cases found : entry.1 = tag
      · simp [increment, found]
      · by_cases later : tag ∈ rest.map Prod.fst
        · rw [increment, if_neg found, List.map_cons, ih, if_pos later, List.map_cons,
            if_pos (List.mem_cons_of_mem _ later)]
        · have absent : tag ∉ entry.1 :: rest.map Prod.fst := by
            simpa [Ne.symm found] using later
          rw [increment, if_neg found, List.map_cons, ih, if_neg later, List.map_cons,
            if_neg absent, List.cons_append]

/-- The count of any tag after one tag has been seen. -/
theorem count_record (tally : Tally) (tag other : String) :
    (tally.record tag).count other = tally.count other + if other = tag then 1 else 0 :=
  lookup_increment tag other tally.counts

/-- The tags after one tag has been seen. -/
theorem tags_record (tally : Tally) (tag : String) :
    (tally.record tag).tags =
      if tag ∈ tally.tags then tally.tags else tally.tags ++ [tag] :=
  tags_increment tag tally.counts

end Tally

end MarkupAudit
