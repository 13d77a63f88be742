/-
# Values and tables

The values that a table file denotes, and how its tables are built. The tables of this library hold
strings, truth values, arrays and tables; numbers and dates can occur in entries that are passed
over, so they are kept as values without content.

A table file defines its tables piece by piece, and what may be added later depends on how a
table came about. A table named by a header may be named only once, but one that exists only
because a header went through it may still get its own. A table made by a dotted key can be
extended by dotted keys next to it and by headers below it, but has no header itself. Tables and
arrays in brackets are complete. An array of tables grows by headers in double brackets, and
paths that lead through it mean its last table.
-/

namespace MarkupAudit

/-- A TOML value. -/
inductive Toml where
  | string (text : String)
  | bool (value : Bool)
  | number
  | moment
  | array (items : List Toml)
  | table (entries : List (String × Toml))
  deriving Repr, Inhabited

end MarkupAudit

namespace MarkupAudit.Toml

/-- How a table came about. -/
inductive Origin where
  /-- A header went through it. -/
  | passed
  /-- A dotted key went through it. -/
  | dotted
  /-- A header named it, or it is the table of a file. -/
  | named
  deriving Repr, DecidableEq

/-- A value that is still being built. -/
inductive Draft where
  /-- A complete value. -/
  | value (value : Toml)
  /-- A table, with its entries in writing order. -/
  | table (origin : Origin) (entries : List (String × Draft))
  /-- An array of tables, last table first. -/
  | tables (items : List Draft)
  deriving Inhabited

/-- Entries of a table that is being built. -/
abbrev Entries := List (String × Draft)

/-- Replace what a key has, or add the key at the end. -/
def putEntry (key : String) (draft : Draft) : Entries → Entries
  | [] => [(key, draft)]
  | entry :: rest =>
      if entry.1 == key then (key, draft) :: rest else entry :: putEntry key draft rest

/-- Go down a path and change the table at its end. Tables that are missing come about as
`origin` says, which is also how the path goes: as part of a header or of a dotted key. -/
def descend (origin : Origin) (change : Origin → Entries → Option Draft) :
    List String → Origin → Entries → Option Draft
  | [], own, entries => change own entries
  | key :: path, own, entries => do
      let draft ← match entries.lookup key with
        | none => descend origin change path origin []
        | some (.value _) => none
        | some (.table inner below) =>
            if origin = .dotted ∧ inner = .named then none
            else descend origin change path inner below
        | some (.tables (.table inner below :: others)) =>
            if origin = .dotted ∧ inner = .named then none
            else (descend origin change path inner below).map fun last => .tables (last :: others)
        | some (.tables _) => none
      some (.table own (putEntry key draft entries))

/-- A key with its value: the dotted path before the last key, that key, and the value. -/
structure KeyValue where
  path : List String
  key : String
  value : Toml

/-- Add a key with its value to a table. A key can be added only once, and a path only leads
through tables that dotted keys have made. -/
def addKeyValue (item : KeyValue) (own : Origin) (entries : Entries) : Option Draft :=
  descend .dotted (fun origin entries =>
    if (origin == .dotted) == item.path.isEmpty then none
    else if (entries.lookup item.key).isSome then none
    else some (.table origin (entries ++ [(item.key, .value item.value)]))) item.path own entries

/-- Add keys with their values to a table, one after the other. -/
def addKeyValues (own : Origin) : List KeyValue → Entries → Option Entries
  | [], entries => some entries
  | item :: items, entries =>
      match addKeyValue item own entries with
      | some (.table _ entries) => addKeyValues own items entries
      | _ => none

/-- A part of a file: what its header names, and the keys up to the next header. -/
structure Section where
  path : List String
  key : String
  /-- The header stands in double brackets. -/
  isItem : Bool
  items : List KeyValue

/-- Add a part of a file to the tables before it. -/
def addSection (part : Section) (entries : Entries) : Option Entries := do
  let draft ← descend .passed (fun own entries => do
    let draft ← match part.isItem, entries.lookup part.key with
      | true, none => do
          let below ← addKeyValues .named part.items []
          some (.tables [.table .named below])
      | true, some (.tables tables) => do
          let below ← addKeyValues .named part.items []
          some (.tables (.table .named below :: tables))
      | false, none => do
          let below ← addKeyValues .named part.items []
          some (.table .named below)
      | false, some (.table .passed below) => do
          let below ← addKeyValues .named part.items below
          some (.table .named below)
      | _, _ => none
    some (.table own (putEntry part.key draft entries))) part.path .named entries
  match draft with
  | .table _ entries => some entries
  | _ => none

mutual

/-- The value that has been built. -/
def Draft.finish : Draft → Toml
  | .value value => value
  | .table _ entries => .table (finishEntries entries)
  | .tables items => .array (finishItems items).reverse

/-- The values of several drafts. -/
def finishItems : List Draft → List Toml
  | [] => []
  | draft :: drafts => draft.finish :: finishItems drafts

/-- The values of the entries of a table. -/
def finishEntries : List (String × Draft) → List (String × Toml)
  | [] => []
  | (key, draft) :: entries => (key, draft.finish) :: finishEntries entries

end

/-- The table of a file: the keys before the first header, and the parts after it. -/
def ofSections (top : List KeyValue) (parts : List Section) : Option (List (String × Toml)) := do
  let entries ← addKeyValues .named top []
  let entries ← parts.foldlM (fun entries part => addSection part entries) entries
  some (finishEntries entries)

/-- The table that stands in braces. -/
def ofKeyValues (items : List KeyValue) : Option Toml :=
  (addKeyValues .named items []).map fun entries => .table (finishEntries entries)

end MarkupAudit.Toml
