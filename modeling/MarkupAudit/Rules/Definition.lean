/-
# Rule tables

What a rule table says, before its patterns are read: which tags there are, which attributes
they take, and what each of them requires. A table is written in TOML. Entries with other keys
than the ones below are passed over; an entry that counts must have the right kind of value.
A tag or an attribute may also be written as an array of its fields in their order.
-/

import MarkupAudit.Failure
import MarkupAudit.Toml.Reader

namespace MarkupAudit

/-- What a table says about an attribute of a tag. -/
structure AttributeDefinition where
  name : String
  /-- Other names under which the attribute may be given. -/
  alternatives : List String
  mandatory : Bool
  /-- The pattern that a value has to match as a whole. -/
  valuePattern : Option String
  /-- What to use instead, if the attribute is deprecated. -/
  replacement : Option String
  deriving Repr, DecidableEq, Inhabited

/-- What a table says about a tag. -/
structure TagDefinition where
  name : String
  /-- The tag must occur in every document. -/
  mandatory : Bool
  /-- The tag may occur only once. -/
  unique : Bool
  /-- The only tag that may be its parent. -/
  mandatoryParent : Option String
  /-- What to use instead, if the tag is deprecated. -/
  replacement : Option String
  /-- Tags that must occur once this one does. -/
  requires : List String
  /-- Attributes of which one must be there, if any are listed. -/
  oneOf : List String
  /-- Attributes of which at most one may be there. -/
  exclusive : List String
  /-- Where the rules of the tag are documented. -/
  specUrl : Option String
  attributes : List AttributeDefinition
  deriving Repr, DecidableEq, Inhabited

/-- A rule table. -/
structure RuleTable where
  name : String
  version : Option String
  /-- Attributes that every tag may have, with any value. -/
  globalAttributes : List String
  tags : List TagDefinition
  deriving Repr, DecidableEq, Inhabited

/-- The attribute may be given under a name. -/
def AttributeDefinition.hasName (definition : AttributeDefinition) (name : String) : Bool :=
  definition.name == name || definition.alternatives.contains name

namespace Toml

/-- A string. -/
def string? : Toml → Option String
  | .string text => some text
  | _ => none

/-- A truth value. -/
def bool? : Toml → Option Bool
  | .bool value => some value
  | _ => none

/-- An array whose items are all of one kind. -/
def list? {α : Type} (item? : Toml → Option α) : Toml → Option (List α)
  | .array items => items.mapM item?
  | _ => none

/-- The entries of a record: a table, or an array of the fields in their order, of which so many
must be there. -/
def record? (fields : List String) (least : Nat) : Toml → Option (List (String × Toml))
  | .table entries => some entries
  | .array items => if least ≤ items.length then some (fields.zip items) else none
  | _ => none

/-- An entry that must be there. -/
def required {α : Type} (entries : List (String × Toml)) (key : String)
    (read : Toml → Option α) : Option α :=
  (entries.lookup key).bind read

/-- An entry that has a default. -/
def withDefault {α : Type} (entries : List (String × Toml)) (key : String) (default : α)
    (read : Toml → Option α) : Option α :=
  match entries.lookup key with
  | none => some default
  | some value => read value

/-- A string that may be missing. -/
def optionalString (entries : List (String × Toml)) (key : String) : Option (Option String) :=
  withDefault entries key none fun value => (string? value).map some

/-- Strings that may be missing. -/
def strings (entries : List (String × Toml)) (key : String) : Option (List String) :=
  withDefault entries key [] (list? string?)

end Toml

/-- Read the definition of an attribute. -/
def AttributeDefinition.ofToml? (value : Toml) : Option AttributeDefinition := do
  let entries ← Toml.record?
    ["name", "alternative_names", "mandatory", "value_regex", "deprecation"] 5 value
  some {
    name := ← Toml.required entries "name" Toml.string?
    alternatives := ← Toml.strings entries "alternative_names"
    mandatory := ← Toml.withDefault entries "mandatory" false Toml.bool?
    valuePattern := ← Toml.optionalString entries "value_regex"
    replacement := ← Toml.optionalString entries "deprecation" }

/-- Read the definition of a tag. -/
def TagDefinition.ofToml? (value : Toml) : Option TagDefinition := do
  let entries ← Toml.record?
    ["name", "mandatory", "unique", "mandatory_parent", "deprecation", "requires",
      "mandatory_oneof", "mutually_exclusive", "spec_url", "attrs"] 9 value
  some {
    name := ← Toml.required entries "name" Toml.string?
    mandatory := ← Toml.withDefault entries "mandatory" false Toml.bool?
    unique := ← Toml.withDefault entries "unique" false Toml.bool?
    mandatoryParent := ← Toml.optionalString entries "mandatory_parent"
    replacement := ← Toml.optionalString entries "deprecation"
    requires := ← Toml.strings entries "requires"
    oneOf := ← Toml.strings entries "mandatory_oneof"
    exclusive := ← Toml.strings entries "mutually_exclusive"
    specUrl := ← Toml.optionalString entries "spec_url"
    attributes := ← Toml.withDefault entries "attrs" []
      (Toml.list? AttributeDefinition.ofToml?) }

namespace RuleTable

/-- Read a table from the entries of a file. -/
def ofEntries? (entries : List (String × Toml)) : Option RuleTable := do
  let rules ← entries.lookup "rules"
  let header ← Toml.record? ["name", "version", "global_attrs"] 2 rules
  some {
    name := ← Toml.required header "name" Toml.string?
    version := ← Toml.optionalString header "version"
    globalAttributes := ← Toml.strings header "global_attrs"
    tags := ← Toml.withDefault entries "tags" [] (Toml.list? TagDefinition.ofToml?) }

/-- Read a table from its text. -/
def ofText (text : String) : Except Failure RuleTable :=
  match (Toml.read text).bind ofEntries? with
  | some table => .ok table
  | none => .error (.table .rules)

end RuleTable

end MarkupAudit
