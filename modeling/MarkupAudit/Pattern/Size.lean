/-
# The size of patterns

A pattern is refused when the automaton that would match it byte by byte is too large, because
counted repetitions, nested in each other, can make a short pattern stand for an enormous one.
The automaton is measured without building it. A set of characters beyond ASCII is a tree of
byte ranges; read forwards, equal subtrees are shared, and read backwards, equal beginnings are.
The measure is the size of the larger of the two automata.
-/

import MarkupAudit.Pattern.Node

namespace MarkupAudit.Pattern

open MarkupAudit.Text

/-- The room that a state takes. -/
def stateSize : Nat := 32

/-- The room that a range of bytes takes in a state that has several. -/
def rangeSize : Nat := 8

/-- The room that a link takes in a state that has several. -/
def linkSize : Nat := 4

/-- The most that an automaton may take. -/
def sizeLimit : Nat := 10 * 1024 * 1024

/-- Where an interval of code points has to be cut so that the bytes of its members vary
independently: the last code point of the part before the cut. -/
def cut? (first last : Nat) : Option Nat :=
  match [0x7f, 0x7ff, 0xd7ff, 0xdfff, 0xffff].find? fun limit => first ≤ limit && limit < last with
  | some limit => some limit
  | none =>
      if last < 0x80 then none
      else [64, 64 * 64, 64 * 64 * 64].findSome? fun block =>
        if first / block = last / block then none
        else if first % block ≠ 0 then some (first / block * block + block - 1)
        else if last % block ≠ block - 1 then some (last / block * block - 1)
        else none

/-- Cut an interval until no cut is left, in at most the given number of rounds. -/
def cutAll : Nat → Nat → Nat → List Span
  | 0, first, last => [⟨first, last⟩]
  | rounds + 1, first, last =>
      match cut? first last with
      | none => [⟨first, last⟩]
      | some final => cutAll rounds first final ++ cutAll rounds (final + 1) last

/-- The bytes that encode a code point. -/
def bytesOf (code : Nat) : List Nat :=
  if code < 0x80 then [code]
  else if code < 0x800 then [0xc0 + code / 64, 0x80 + code % 64]
  else if code < 0x10000 then [0xe0 + code / 4096, 0x80 + code / 64 % 64, 0x80 + code % 64]
  else [0xf0 + code / 262144, 0x80 + code / 4096 % 64, 0x80 + code / 64 % 64, 0x80 + code % 64]

/-- A set of characters as sequences of byte ranges. -/
def byteRanges (set : CodeSet) : List (List Span) :=
  ((set.spans.flatMap fun span => cutAll 64 span.first span.last).filter fun span =>
    !CodeSet.surrogates.contains span.first).map fun span =>
      List.zipWith Span.mk (bytesOf span.first) (bytesOf span.last)

/-- Sequences grouped by their first range: what follows each, group by group. -/
def groups : List (List Span) → List (Span × List (List Span))
  | [] => []
  | [] :: rest => groups rest
  | (range :: tail) :: rest =>
      match groups rest with
      | (next, tails) :: others =>
          if next = range then (range, tail :: tails) :: others
          else (range, [tail]) :: (next, tails) :: others
      | [] => [(range, [tail])]

/-- The subtrees of a tree of sequences of at most a given length, itself included. -/
def subtrees : Nat → List (List Span) → List (List (List Span))
  | 0, _ => []
  | height + 1, tree =>
      tree :: (groups tree).flatMap fun (_, tails) =>
        if tails.all List.isEmpty then [] else subtrees height tails

/-- The sum of some sizes. -/
def total (sizes : List Nat) : Nat :=
  sizes.foldr (· + ·) 0

/-- The room for a set of characters, read forwards. -/
def forwardSize (set : CodeSet) : Nat :=
  stateSize + total ((subtrees 4 (byteRanges set)).eraseDups.map fun tree =>
    stateSize + rangeSize * (groups tree).length)

/-- The room for a set of characters, read backwards. -/
def backwardSize (set : CodeSet) : Nat :=
  let sequences := byteRanges set
  2 * stateSize + linkSize * sequences.length +
    stateSize * total ((subtrees 4 sequences).map fun tree => (groups tree).length)

/-- The room for one character of a set. -/
def setSize (beyondAscii : CodeSet → Nat) (set : CodeSet) : Nat :=
  match set.spans with
  | [] => stateSize
  | [span] =>
      if span.first = span.last then stateSize * (bytesOf span.first).length
      else if set.isAscii then 2 * stateSize + rangeSize
      else beyondAscii set
  | spans => if set.isAscii then 2 * stateSize + rangeSize * spans.length else beyondAscii set

namespace Node

/-- The pattern matches the empty text, as far as its structure tells. -/
def mayBeEmpty : Node → Bool
  | .empty => true
  | .one _ => false
  | .anchor _ => true
  | .seq first second => first.mayBeEmpty && second.mayBeEmpty
  | .alt left right => left.mayBeEmpty || right.mayBeEmpty
  | .times least _ body => least == 0 || body.mayBeEmpty

/-- The pattern matches nothing but the empty text. -/
def isWidthless : Node → Bool
  | .empty => true
  | .one _ => false
  | .anchor _ => true
  | .seq first second => first.isWidthless && second.isWidthless
  | .alt left right => left.isWidthless && right.isWidthless
  | .times _ most body => most == some 0 || body.isWidthless

/-- The room for a repetition of a body of a given size. -/
def timesSize (least : Nat) (most : Option Nat) (mayBeEmpty : Bool) (body : Nat) : Nat :=
  let choice := stateSize + 2 * linkSize
  match least, most with
  | 0, none => if mayBeEmpty then body + 2 * choice + stateSize else body + choice
  | least, none => least * body + choice
  | 0, some 0 => stateSize
  | 0, some 1 => choice + body + stateSize
  | least, some most =>
      if least = most then least * body
      else (if least = 0 then stateSize else least * body) +
        (most - least) * (choice + body) + stateSize

/-- The room for a pattern, given the room for a set of characters beyond ASCII. -/
def size (beyondAscii : CodeSet → Nat) : Node → Nat
  | .empty => stateSize
  | .one set => setSize beyondAscii set
  | .anchor _ => stateSize
  | .seq first second => first.size beyondAscii + second.size beyondAscii
  | .alt left right =>
      2 * stateSize + 2 * linkSize + left.size beyondAscii + right.size beyondAscii
  | .times least most body =>
      let size := body.size beyondAscii
      if body.isWidthless then timesSize (min least 1) (some (min (most.getD 1) 1)) true size
      else timesSize least most body.mayBeEmpty size

/-- The automaton of the pattern is small enough, in both directions. -/
def fits (node : Node) : Bool :=
  node.size forwardSize ≤ sizeLimit && node.size backwardSize ≤ sizeLimit

end Node

end MarkupAudit.Pattern
