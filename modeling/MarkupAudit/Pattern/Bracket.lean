/-
# Sets in brackets

A set of characters between brackets: characters, ranges, named sets and further brackets,
joined by nothing for the union, or by one of three operators for the intersection, the
difference and the symmetric difference, which apply from left to right. A caret at the start
complements the set. The depth to which a set is nested is counted along with it.
-/

import MarkupAudit.Pattern.Symbol

namespace MarkupAudit.Pattern

open MarkupAudit.Text

/-- A set, and the depth to which it is nested. -/
structure Nested where
  set : CodeSet
  depth : Nat

/-- The members of a set that have been read up to an operator or the closing bracket. -/
structure Members where
  set : CodeSet
  count : Nat
  /-- The greatest depth of a member. -/
  depth : Nat

namespace Members

/-- No members. -/
def none : Members := ⟨CodeSet.none, 0, 0⟩

/-- One more member. -/
def add (members : Members) (item : Nested) : Members :=
  ⟨members.set.union item.set, members.count + 1, max members.depth item.depth⟩

/-- The members as one set; two or more of them are one level deeper. -/
def nested (members : Members) : Nested :=
  ⟨members.set, if members.count < 2 then members.depth else members.depth + 1⟩

end Members

/-- An operator between sets. -/
inductive SetOperator where
  | inter
  | diff
  | symmDiff

/-- Apply an operator, after closing both sets under case where case does not count. -/
def SetOperator.apply (settings : Settings) (operator : SetOperator) (left right : Nested) :
    Nested :=
  let a := settings.fold left.set
  let b := settings.fold right.set
  ⟨match operator with
    | inter => a.inter b
    | diff => a.diff b
    | symmDiff => a.symmDiff b, max left.depth right.depth + 1⟩

/-- Apply the operator that waits for its right side, if one does. -/
def settle (settings : Settings) (waiting : Option (Nested × SetOperator)) (right : Nested) :
    Nested :=
  match waiting with
  | none => right
  | some (left, operator) => operator.apply settings left right

/-- A class between colons, such as `[:alpha:]`, of which the first bracket has been read. What
is not such a class is left to be read as a set. -/
def readAsciiClass (settings : Settings) : List Char → Option (Option CodeSet × List Char)
  | ':' :: text => do
      let (negated, text) := match text with
        | '^' :: text => (true, text)
        | text => (false, text)
      let name := text.takeWhile (· != ':')
      match text.dropWhile (· != ':') with
      | ':' :: ']' :: rest => do
          let set ← asciiClass? (String.ofList name)
          some (settings.negate negated (settings.fold set), rest)
      | _ => none
  | _ => none

/-- A symbol as it may stand inside brackets: a character or a set. -/
def readMember (settings : Settings) : List Char → Option (Symbol × List Char)
  | [] => none
  | '\\' :: rest => readEscape settings rest
  | c :: rest => some (.literal c false, rest)

/-- The set of a symbol inside brackets; places cannot be members. -/
def memberSet (settings : Settings) : Symbol → Option CodeSet
  | .literal c _ => settings.member c
  | .set set => some set
  | .anchor _ => none

/-- A range of characters, or a single symbol. A hyphen makes a range unless the bracket or
another hyphen follows it. -/
def readRange (settings : Settings) (text : List Char) : Option (CodeSet × List Char) := do
  let (first, rest) ← readMember settings text
  match settings.skip rest with
  | [] => none
  | '-' :: after =>
      match settings.skip after with
      | [] => none
      | ']' :: _ => (memberSet settings first).map (·, '-' :: after)
      | '-' :: _ => (memberSet settings first).map (·, '-' :: after)
      | after => do
          let (last, rest) ← readMember settings after
          match first, last with
          | .literal a _, .literal b _ =>
              guard (a.toNat ≤ b.toNat)
              let _ ← settings.member a
              let _ ← settings.member b
              some (CodeSet.range a.toNat b.toNat, rest)
          | _, _ => none
  | rest => (memberSet settings first).map (·, rest)

/-- Hyphens at the start of a set are members. -/
def leadingHyphens (settings : Settings) : Nat → Members → List Char → Members × List Char
  | 0, members, text => (members, text)
  | steps + 1, members, '-' :: rest =>
      leadingHyphens settings steps (members.add ⟨CodeSet.single 0x2d, 0⟩) (settings.skip rest)
  | _ + 1, members, text => (members, text)

mutual

/-- A set whose opening bracket has been read, in at most the given number of steps. -/
def readBracket (settings : Settings) : Nat → List Char → Option (Nested × List Char)
  | 0, _ => none
  | steps + 1, text => do
      let (negated, text) := match settings.skip text with
        | '^' :: text => (true, settings.skip text)
        | text => (false, text)
      let (members, text) := leadingHyphens settings text.length Members.none text
      let (members, text) := match text with
        | ']' :: rest =>
            if members.count = 0 then
              (members.add ⟨CodeSet.single 0x5d, 0⟩, settings.skip rest)
            else (members, text)
        | text => (members, text)
      let (content, rest) ← readMembers settings steps none members text
      let set ← settings.negate negated (settings.fold content.set)
      some (⟨set, content.depth + 1⟩, rest)

/-- The members up to the closing bracket, after those that have been read already and after an
operator that waits for its right side. -/
def readMembers (settings : Settings) : Nat → Option (Nested × SetOperator) → Members →
    List Char → Option (Nested × List Char)
  | 0, _, _, _ => none
  | steps + 1, waiting, members, text =>
      let operator (operator : SetOperator) (rest : List Char) :=
        readMembers settings steps (some (settle settings waiting members.nested, operator))
          Members.none rest
      match settings.skip text with
      | [] => none
      | ']' :: rest => some (settle settings waiting members.nested, rest)
      | '&' :: '&' :: rest => operator .inter rest
      | '-' :: '-' :: rest => operator .diff rest
      | '~' :: '~' :: rest => operator .symmDiff rest
      | '[' :: rest =>
          match readAsciiClass settings rest with
          | some (set, rest) => do
              readMembers settings steps waiting (members.add ⟨← set, 0⟩) rest
          | none => do
              let (item, rest) ← readBracket settings steps rest
              readMembers settings steps waiting (members.add item) rest
      | text => do
          let (set, rest) ← readRange settings text
          readMembers settings steps waiting (members.add ⟨set, 0⟩) rest

end

end MarkupAudit.Pattern
