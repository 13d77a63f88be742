/-
# Sets of code points

A finite union of closed intervals of code points. Tables of character properties are written
in rows of text, in which `41-5a` is an interval and `aa` a single code point, both in
hexadecimal, separated by blanks. The operations keep the intervals sorted, disjoint and apart,
so a set has one representation and its complement is read off the gaps.
-/

import MarkupAudit.Text.Basic

namespace MarkupAudit.Text

/-- A closed interval of code points. -/
structure Span where
  first : Nat
  last : Nat
  deriving Repr, DecidableEq, Inhabited

namespace Span

/-- Membership in a closed interval. -/
def contains (span : Span) (code : Nat) : Bool :=
  span.first ≤ code && code ≤ span.last

end Span

/-- A set of code points, as intervals. -/
structure CodeSet where
  spans : List Span
  deriving Repr, DecidableEq, Inhabited

namespace CodeSet

/-- The largest code point. -/
def top : Nat := 0x10ffff

/-- The first and the last of the code points that encode no character. -/
def surrogates : Span := ⟨0xd800, 0xdfff⟩

/-- The set without members. -/
def none : CodeSet := ⟨[]⟩

/-- All characters: every code point except the surrogates. -/
def all : CodeSet := ⟨[⟨0, surrogates.first - 1⟩, ⟨surrogates.last + 1, top⟩]⟩

/-- The set of one code point. -/
def single (code : Nat) : CodeSet := ⟨[⟨code, code⟩]⟩

/-- The set of the code points between two ends, both included. -/
def range (first last : Nat) : CodeSet := ⟨[⟨first, last⟩]⟩

/-- A code point belongs to a set when one of the intervals holds it. -/
def contains (set : CodeSet) (code : Nat) : Bool :=
  set.spans.any (·.contains code)

/-- Join intervals that overlap or touch, given that they are sorted by their first ends. -/
def joinSorted : List Span → List Span
  | [] => []
  | span :: rest => go span rest
where
  /-- Extend the interval in hand as long as the next one starts inside it or right after it. -/
  go (held : Span) : List Span → List Span
    | [] => [held]
    | span :: rest =>
        if span.first ≤ held.last + 1 then go ⟨held.first, max held.last span.last⟩ rest
        else held :: go span rest

/-- The set of all members of some intervals, in any order. -/
def ofSpans (spans : List Span) : CodeSet :=
  ⟨joinSorted (spans.mergeSort fun a b => a.first ≤ b.first)⟩

/-- The members of either set. -/
def union (a b : CodeSet) : CodeSet :=
  ofSpans (a.spans ++ b.spans)

/-- The gaps between sorted intervals, from a given code point on. -/
def gaps (start : Nat) : List Span → List Span
  | [] => if start ≤ top then [⟨start, top⟩] else []
  | span :: rest =>
      if start < span.first then ⟨start, span.first - 1⟩ :: gaps (span.last + 1) rest
      else gaps (span.last + 1) rest

/-- All characters that are not in the set. -/
def compl (set : CodeSet) : CodeSet :=
  ⟨gaps 0 (ofSpans (surrogates :: set.spans)).spans⟩

/-- The members of both sets. -/
def inter (a b : CodeSet) : CodeSet :=
  (a.compl.union b.compl).compl

/-- The members of the first set that are not in the second. -/
def diff (a b : CodeSet) : CodeSet :=
  a.inter b.compl

/-- The members of exactly one of the sets. -/
def symmDiff (a b : CodeSet) : CodeSet :=
  (a.union b).diff (a.inter b)

/-- Only ASCII characters are in the set. -/
def isAscii (set : CodeSet) : Bool :=
  set.spans.all (·.last < 0x80)

/-- Read one entry of a table: an interval or a single code point. -/
def entrySpan (entry : String) : Span :=
  match entry.splitOn "-" with
  | [first, last] => ⟨hexNumber first.toList, hexNumber last.toList⟩
  | _ => ⟨hexNumber entry.toList, hexNumber entry.toList⟩

/-- Read the rows of a table. -/
def ofTable (rows : List String) : CodeSet :=
  ⟨rows.flatMap fun row => (row.splitOn " ").map entrySpan⟩

end CodeSet

end MarkupAudit.Text
