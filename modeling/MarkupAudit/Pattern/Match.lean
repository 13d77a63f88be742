/-
# Matching

A pattern is matched for all starting places at once: from the places in a text where a match
may begin, the places are computed where it may end. Every operator of patterns acts on such
sets directly. A repetition is followed until it reaches no new place, so the work grows with
the length of the text and not with the number of ways in which a pattern matches it.

A set of places is a list without repetition. Where lists are joined, a bit for every place
that has been seen keeps it so.
-/

import MarkupAudit.Pattern.Node

namespace MarkupAudit.Pattern

open MarkupAudit.Text

/-- A character belongs to a set. -/
def isIn (set : CodeSet) (c : Char) : Bool := set.contains c.toNat

/-- The condition holds between two characters, which are missing at the ends of a text. -/
def Anchor.holds (before after : Option Char) : Anchor → Bool
  | .textStart => before.isNone
  | .textEnd => after.isNone
  | .lineStart false => before.isNone || before == some '\n'
  | .lineEnd false => after.isNone || after == some '\n'
  | .lineStart true =>
      before.isNone || before == some '\n' || (before == some '\r' && after != some '\n')
  | .lineEnd true =>
      after.isNone || after == some '\r' || (after == some '\n' && before != some '\r')
  | .wordEdge word => before.any (isIn word) != after.any (isIn word)
  | .noWordEdge word => before.any (isIn word) == after.any (isIn word)
  | .wordStart word => !before.any (isIn word) && after.any (isIn word)
  | .wordEnd word => before.any (isIn word) && !after.any (isIn word)
  | .wordStartHalf word => !before.any (isIn word)
  | .wordEndHalf word => !after.any (isIn word)

/-- The condition holds at a place in a text. -/
def Anchor.holdsAt (text : Array Char) (anchor : Anchor) (place : Nat) : Bool :=
  anchor.holds (if place = 0 then none else text[place - 1]?) text[place]?

/-- The places that have not been seen, each once, and the bits of all seen afterwards. -/
def fresh (seen : Nat) : List Nat → List Nat × Nat
  | [] => ([], seen)
  | place :: rest =>
      if seen.testBit place then fresh seen rest
      else
        let (places, seen) := fresh (seen ||| 1 <<< place) rest
        (place :: places, seen)

/-- A step taken so many times in a row, or until it changes nothing. -/
def repeated (step : List Nat → List Nat) : Nat → List Nat → List Nat
  | 0, places => places
  | count + 1, places =>
      let next := step places
      if next == places then places else repeated step count next

/-- All places that at most so many steps reach. The places given were the last to be reached;
`seen` holds a bit for every place reached before. -/
def spread (step : List Nat → List Nat) : Nat → Nat → List Nat → List Nat
  | 0, _, places => places
  | count + 1, seen, places =>
      match fresh seen (step places) with
      | ([], _) => places
      | (next, seen) => places ++ spread step count seen next

/-- From the places where a match may begin to the places where it may end. -/
def Node.ends (text : Array Char) : Node → List Nat → List Nat
  | .empty, places => places
  | .one set, places =>
      places.filterMap fun place =>
        if text[place]?.any (isIn set) then some (place + 1) else none
  | .anchor condition, places => places.filter (condition.holdsAt text)
  | .seq first second, places => second.ends text (first.ends text places)
  | .alt left right, places => (fresh 0 (left.ends text places ++ right.ends text places)).1
  | .times least most body, places =>
      let reached := repeated (body.ends text) least places
      let more := match most with
        | none => text.size + 1
        | some most => most - least
      spread (body.ends text) more (fresh 0 reached).2 reached

/-- Some part of the text, possibly empty, is matched. -/
def Node.findsIn (node : Node) (text : String) : Bool :=
  let chars := text.toList.toArray
  !(node.ends chars (List.range (chars.size + 1))).isEmpty

end MarkupAudit.Pattern
