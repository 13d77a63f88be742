/-
# Reading patterns

A pattern is read as a row of tokens, each under the settings in force where it stands, and the
tokens are put together with a stack of open groups. Settings that are switched inside a group
hold to the end of the group. An operator of repetition applies to the item before it, and there
must be one; a mere switch of settings is none. Everything that is refused is refused alike, so
reading gives a pattern or nothing.
-/

import MarkupAudit.Pattern.Bracket

namespace MarkupAudit.Pattern

open MarkupAudit.Text

/-- What a pattern is made of. -/
inductive Token where
  /-- A character, a set, or a condition on a place, and how deep it is nested. -/
  | item (node : Node) (depth : Nat)
  /-- A repetition of the item before: at least and at most how often. -/
  | repetition (least : Nat) (most : Option Nat)
  /-- A bar between alternatives. -/
  | bar
  /-- The start of a group, with the settings inside and a name if it has one. -/
  | openGroup (settings : Settings) (name : Option String)
  /-- The end of a group. -/
  | closeGroup
  /-- Other settings from here on. -/
  | setting (settings : Settings)

/-- A letter, as the names of groups may contain it. -/
def isNameLetter (c : Char) : Bool :=
  ((property? "alphabetic").getD CodeSet.none).contains c.toNat

/-- A character that may stand in the name of a group, possibly as the first. -/
def isNameChar (isFirst : Bool) (c : Char) : Bool :=
  c == '_' || isNameLetter c ||
    (!isFirst && (c == '.' || c == '[' || c == ']' ||
      ((category? "n").getD CodeSet.none).contains c.toNat))

/-- The name of a group up to its closing angle bracket. -/
def readGroupName (text : List Char) : Option (String × List Char) :=
  let name := text.takeWhile (· != '>')
  match name, text.dropWhile (· != '>') with
  | first :: others, '>' :: rest =>
      if isNameChar true first && others.all (isNameChar false) then
        some (String.ofList name, rest)
      else none
  | _, _ => none

/-- Switches of settings up to a colon or a closing parenthesis, which is given back with the
settings. No letter may come twice, only one minus sign may occur, and not at the end. -/
def readSwitches (settings : Settings) (seen : List Char) :
    List Char → Option (Settings × List Char × Char × List Char)
  | [] => none
  | c :: rest =>
      if c == ':' || c == ')' then
        if seen.head? == some '-' then none else some (settings, seen, c, rest)
      else if seen.contains c then none
      else if c == '-' then readSwitches settings (c :: seen) rest
      else do
        let settings ← settings.switch (!seen.contains '-') c
        readSwitches settings (c :: seen) rest

/-- What follows an opening parenthesis. Conditions on the surrounding text are refused. -/
def readGroup (settings : Settings) (text : List Char) : Option (Token × List Char) :=
  match settings.skip text with
  | '?' :: 'P' :: '<' :: rest => do
      let (name, rest) ← readGroupName rest
      some (.openGroup settings (some name), rest)
  | '?' :: '<' :: '=' :: _ => none
  | '?' :: '<' :: '!' :: _ => none
  | '?' :: '<' :: rest => do
      let (name, rest) ← readGroupName rest
      some (.openGroup settings (some name), rest)
  | '?' :: rest => do
      let (inner, seen, final, rest) ← readSwitches settings [] rest
      if final == ':' then some (.openGroup inner none, rest)
      else if seen.isEmpty then none
      else some (.setting inner, rest)
  | rest => some (.openGroup settings none, rest)

/-- A decimal number below 2^32, with blanks around it. -/
def readCount (settings : Settings) (text : List Char) : Option (Nat × List Char) :=
  let text := text.dropWhile isBlank
  let (digits, rest) := takeRun settings (fun c => '0' ≤ c && c ≤ '9') text.length text
  let (_, rest) := takeRun settings isBlank rest.length rest
  let count := digits.foldl (fun value c => value * 10 + (c.toNat - '0'.toNat)) 0
  if digits.isEmpty || Nat.pow 2 32 ≤ count then none else some (count, rest)

/-- A question mark after an operator of repetition, which changes only what is preferred. -/
def dropLazy : List Char → List Char
  | '?' :: rest => rest
  | rest => rest

/-- The bounds of a repetition, whose opening brace has been read. -/
def readBounds (settings : Settings) (text : List Char) : Option (Token × List Char) := do
  let (least, rest) ← readCount settings (settings.skip text)
  match rest with
  | '\x7d' :: rest => some (.repetition least (some least), dropLazy (settings.skip rest))
  | ',' :: rest =>
      match settings.skip rest with
      | '\x7d' :: rest => some (.repetition least none, dropLazy (settings.skip rest))
      | rest => do
          let (most, rest) ← readCount settings rest
          match rest with
          | '\x7d' :: rest =>
              guard (least ≤ most)
              some (.repetition least (some most), dropLazy (settings.skip rest))
          | _ => none
  | _ => none

/-- The node of a symbol. -/
def Symbol.node? (settings : Settings) : Symbol → Option Node
  | .literal c asByte => settings.literal c asByte
  | .set members => some (.one members)
  | .anchor condition => some (.anchor condition)

/-- The first token of a text that is not empty. -/
def readToken (settings : Settings) : List Char → Option (Token × List Char)
  | [] => none
  | c :: rest =>
      match c with
      | '(' => readGroup settings rest
      | ')' => some (.closeGroup, rest)
      | '|' => some (.bar, rest)
      | '?' => some (.repetition 0 (some 1), dropLazy rest)
      | '*' => some (.repetition 0 none, dropLazy rest)
      | '+' => some (.repetition 1 none, dropLazy rest)
      | '\x7b' => readBounds settings rest
      | '[' => do
          let (content, rest) ← readBracket settings (2 * rest.length + 2) rest
          some (.item (.one content.set) content.depth, rest)
      | '.' => do some (.item (.one (← settings.dot)) 0, rest)
      | '^' => some (.item (.anchor settings.caret) 0, rest)
      | '$' => some (.item (.anchor settings.dollar) 0, rest)
      | '\\' => do
          let (symbol, rest) ← readEscape settings rest
          some (.item (← symbol.node? settings) 0, rest)
      | c => do some (.item (← settings.literal c false) 0, rest)

/-- An item of a row that is being read. -/
structure Item where
  node : Node
  depth : Nat
  /-- A switch of settings, which cannot be repeated. -/
  isSwitch : Bool

/-- What has been read of a group: earlier alternatives, and the items of the one in hand, each
last first. -/
structure Body where
  settings : Settings
  branches : List Item
  items : List Item

/-- Join two nodes, one after the other; the empty node adds nothing. -/
def Node.andThen : Node → Node → Node
  | .empty, second => second
  | first, .empty => first
  | first, second => .seq first second

/-- The items of a row, last first, as one item. Two or more are one level deeper. -/
def joinItems : List Item → Item
  | [] => ⟨.empty, 0, false⟩
  | [item] => item
  | items => ⟨items.foldl (fun node item => item.node.andThen node) .empty,
      (items.map (·.depth)).foldl max 0 + 1, false⟩

namespace Body

/-- The start of a group under given settings. -/
def start (settings : Settings) : Body := ⟨settings, [], []⟩

/-- Everything that was read as one item. Two or more alternatives are one level deeper. -/
def joined (body : Body) : Item :=
  let last := joinItems body.items
  if body.branches.isEmpty then last
  else
    ⟨body.branches.foldl (fun node item => .alt item.node node) last.node,
      ((last :: body.branches).map (·.depth)).foldl max 0 + 1, false⟩

/-- One more item. -/
def push (body : Body) (node : Node) (depth : Nat) : Body :=
  { body with items := ⟨node, depth, false⟩ :: body.items }

end Body

/-- What has been read of a pattern: the group in hand, the groups around it from the innermost
on, and the names of groups. -/
structure Reading where
  body : Body
  outer : List Body
  names : List String

namespace Reading

/-- Take one token. -/
def take (reading : Reading) : Token → Option Reading
  | .item node depth => some { reading with body := reading.body.push node depth }
  | .repetition least most =>
      match reading.body.items with
      | [] => none
      | item :: items =>
          if item.isSwitch then none
          else some { reading with
            body := { reading.body with items := items }.push (.times least most item.node)
              (item.depth + 1) }
  | .bar => some { reading with body :=
      ⟨reading.body.settings, joinItems reading.body.items :: reading.body.branches, []⟩ }
  | .openGroup settings name =>
      if name.any reading.names.contains then none
      else some ⟨Body.start settings, reading.body :: reading.outer, name.toList ++ reading.names⟩
  | .closeGroup =>
      match reading.outer with
      | [] => none
      | body :: outer =>
          let group := reading.body.joined
          some ⟨body.push group.node (group.depth + 1), outer, reading.names⟩
  | .setting settings => some { reading with body :=
      ⟨settings, reading.body.branches, ⟨.empty, 0, true⟩ :: reading.body.items⟩ }

end Reading

/-- Read tokens to the end of a text, in at most the given number of steps. -/
def readTokens : Nat → Reading → List Char → Option Reading
  | 0, _, _ => none
  | steps + 1, reading, text =>
      match reading.body.settings.skip text with
      | [] => some reading
      | text => do
          let (token, rest) ← readToken reading.body.settings text
          readTokens steps (← reading.take token) rest

/-- How deep a pattern may be nested. -/
def depthLimit : Nat := 250

/-- The pattern that a text describes, if it describes one. -/
def Node.read (text : String) : Option Node := do
  let chars := text.toList
  let reading ← readTokens (chars.length + 1) ⟨Body.start Settings.initial, [], []⟩ chars
  guard reading.outer.isEmpty
  let whole := reading.body.joined
  guard (whole.depth ≤ depthLimit)
  some whole.node

end MarkupAudit.Pattern
