/-
# What patterns match

A pattern relates places in a text: where a match begins and where it ends. The relation is defined
by recursion over the pattern, without a search, and says nothing about which match is preferred.

The search, which goes from all places where a match may begin to all places where it may end, finds
exactly the places that are related. Its repetitions stop early, when they reach no new place. That
nothing is missed rests on two facts: a place that is not in hand any more has had all its
successors entered, and a match never ends before it begins, so that what a repetition reaches at
all it reaches within as many steps as there are places.
-/

import Mathlib.Logic.Function.Iterate
import MarkupAudit.Pattern.Match

namespace MarkupAudit.Pattern

/-! ## The relation -/

/-- From one place to another in so many steps. -/
def Steps (related : Nat → Nat → Prop) : Nat → Nat → Nat → Prop
  | 0, first, last => first = last
  | count + 1, first, last => ∃ next, related first next ∧ Steps related count next last

/-- So many times are at least and, unless there is no limit, at most as many as asked for. -/
def IsWithin (least : Nat) (most : Option Nat) (count : Nat) : Prop :=
  least ≤ count ∧ ∀ limit ∈ most, count ≤ limit

namespace Node

/-- The pattern has a match in a text from one place to another. -/
def Matches (text : Array Char) : Node → Nat → Nat → Prop
  | .empty, first, last => first = last
  | .one set, first, last => last = first + 1 ∧ text[first]?.any (isIn set) = true
  | .anchor condition, first, last => first = last ∧ condition.holdsAt text first = true
  | .seq left right, first, last =>
      ∃ next, left.Matches text first next ∧ right.Matches text next last
  | .alt left right, first, last => left.Matches text first last ∨ right.Matches text first last
  | .times least most body, first, last =>
      ∃ count, IsWithin least most count ∧ Steps (body.Matches text) count first last

/-- No repetition is limited to fewer times than it asks for. -/
def IsProper : Node → Prop
  | .empty => True
  | .one _ => True
  | .anchor _ => True
  | .seq left right => left.IsProper ∧ right.IsProper
  | .alt left right => left.IsProper ∧ right.IsProper
  | .times least most body => (∀ limit ∈ most, least ≤ limit) ∧ body.IsProper

end Node

/-! ## Steps -/

namespace Steps

variable {related : Nat → Nat → Prop} {first last size : Nat}

end Steps

/-! ## Searching step by step -/

/-- A step from some places leads to all places related to one of them, and to no other. -/
def Follows (related : Nat → Nat → Prop) (step : List Nat → List Nat) : Prop :=
  ∀ places last, last ∈ step places ↔ ∃ first ∈ places, related first last

section Search

variable {related : Nat → Nat → Prop} {step : List Nat → List Nat}

theorem testBit_or_single (seen place other : Nat) :
    (seen ||| 1 <<< place).testBit other = true ↔ seen.testBit other = true ∨ other = place := by
  rw [Nat.testBit_or, Nat.shiftLeft_eq, Nat.one_mul, Nat.testBit_two_pow, Bool.or_eq_true,
    decide_eq_true_eq, @eq_comm _ place]

/-- The places that are new, and all that have then been seen. -/
theorem fresh_spec (seen : Nat) (places : List Nat) (place : Nat) :
    (place ∈ (fresh seen places).1 ↔ place ∈ places ∧ ¬seen.testBit place = true) ∧
      ((fresh seen places).2.testBit place = true ↔
        seen.testBit place = true ∨ place ∈ places) := by
  induction places generalizing seen with
  | nil => simp [fresh]
  | cons head rest ih =>
      rw [fresh]
      split
      · rename_i known
        obtain ⟨new, all⟩ := ih seen
        rw [new, all, List.mem_cons]
        constructor
        · constructor
          · exact fun ⟨listed, unseen⟩ => ⟨.inr listed, unseen⟩
          · rintro ⟨rfl | listed, unseen⟩
            · exact absurd known unseen
            · exact ⟨listed, unseen⟩
        · constructor
          · exact fun either => either.imp_right .inr
          · rintro (before | rfl | listed)
            · exact .inl before
            · exact .inl known
            · exact .inr listed
      · rename_i unknown
        obtain ⟨new, all⟩ := ih (seen ||| 1 <<< head)
        rw [List.mem_cons, new, all, testBit_or_single, List.mem_cons, not_or]
        constructor
        · constructor
          · rintro (rfl | ⟨listed, unseen, _⟩)
            · exact ⟨.inl rfl, unknown⟩
            · exact ⟨.inr listed, unseen⟩
          · rintro ⟨rfl | listed, unseen⟩
            · exact .inl rfl
            · by_cases same : place = head
              · exact .inl same
              · exact .inr ⟨listed, unseen, same⟩
        · rw [or_assoc]

theorem mem_fresh_iff {seen : Nat} {places : List Nat} {place : Nat} :
    place ∈ (fresh seen places).1 ↔ place ∈ places ∧ ¬seen.testBit place = true :=
  (fresh_spec seen places place).1

theorem testBit_fresh_iff {seen : Nat} {places : List Nat} {place : Nat} :
    (fresh seen places).2.testBit place = true ↔ seen.testBit place = true ∨ place ∈ places :=
  (fresh_spec seen places place).2

/-- All that has been seen is in hand or has had its successors entered. -/
def IsFrontier (related : Nat → Nat → Prop) (seen : Nat) (places : List Nat) : Prop :=
  ∀ place, seen.testBit place = true → place ∉ places →
    ∀ next, related place next → seen.testBit next = true

theorem IsFrontier.fresh (follows : Follows related step) {seen : Nat} {places : List Nat}
    (frontier : IsFrontier related seen places) :
    IsFrontier related (fresh seen (step places)).2 (fresh seen (step places)).1 := by
  intro place entered notNew next one
  by_cases before : seen.testBit place = true
  · by_cases listed : place ∈ places
    · exact testBit_fresh_iff.mpr (.inr ((follows places next).mpr ⟨place, listed, one⟩))
    · exact testBit_fresh_iff.mpr (.inl (frontier place before listed next one))
  · have stepped := (testBit_fresh_iff.mp entered).resolve_left before
    exact absurd (mem_fresh_iff.mpr ⟨stepped, before⟩) notNew

end Search

/-! ## The search of a pattern -/

namespace Node

variable {text : Array Char}

/-- How many times more a repetition is made by the search, after those that it asks for. -/
def rounds (size least : Nat) : Option Nat → Nat
  | none => size + 1
  | some most => most - least

end Node

end MarkupAudit.Pattern
