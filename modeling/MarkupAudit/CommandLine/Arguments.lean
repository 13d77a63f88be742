/-
# Arguments

What the command line of the validator says: one document, and options that may each be given
once. The value of an option follows after an equals sign or as the next argument, which then
must not look like an option itself; a lone hyphen does not. After two hyphens everything is a
document. The first argument that settles the matter, be it wrong or a question for help or for
the version, decides.
-/

namespace MarkupAudit.CommandLine

/-- What the arguments say. -/
structure Arguments where
  /-- The document: a file, or a hyphen for the standard input. -/
  input : String
  rules : Option String
  templates : Option String
  json : Bool
  logLevel : String
  deriving Repr, DecidableEq

/-- Why arguments are not followed. -/
inductive Refusal where
  /-- They ask for help. -/
  | help
  /-- They ask for the version. -/
  | version
  /-- They make no sense. -/
  | usage
  deriving Repr, DecidableEq

/-- The arguments as far as they have been read. -/
structure Given where
  input : Option String
  rules : Option String
  templates : Option String
  json : Bool
  logLevel : Option String

namespace Given

/-- Nothing has been read. -/
def start : Given := ⟨none, none, none, false, none⟩

/-- Take a document. There can be only one, and it must have a name. -/
def takeInput (given : Given) (path : String) : Except Refusal Given :=
  if given.input.isSome || path.isEmpty then .error .usage
  else .ok { given with input := some path }

/-- Take a file with rules. -/
def takeRules (given : Given) (path : String) : Except Refusal Given :=
  if given.rules.isSome || path.isEmpty then .error .usage
  else .ok { given with rules := some path }

/-- Take a file with templates. -/
def takeTemplates (given : Given) (path : String) : Except Refusal Given :=
  if given.templates.isSome || path.isEmpty then .error .usage
  else .ok { given with templates := some path }

/-- Take a log level, which may be any text. -/
def takeLogLevel (given : Given) (level : String) : Except Refusal Given :=
  if given.logLevel.isSome then .error .usage
  else .ok { given with logLevel := some level }

/-- Take the wish for JSON. -/
def takeJson (given : Given) : Except Refusal Given :=
  if given.json then .error .usage else .ok { given with json := true }

/-- Take documents only. -/
def takeInputs (given : Given) : List String → Except Refusal Given
  | [] => .ok given
  | path :: rest => do
      let given ← given.takeInput path
      takeInputs given rest

/-- The arguments, which must include a document. -/
def finish (given : Given) : Except Refusal Arguments :=
  match given.input with
  | none => .error .usage
  | some input =>
      .ok ⟨input, given.rules, given.templates, given.json, given.logLevel.getD "warn"⟩

end Given

/-- How an argument looks. -/
inductive Form where
  /-- Two hyphens and nothing else. -/
  | separator
  /-- A long option, possibly with a value after an equals sign. -/
  | long (name : String) (value : Option String)
  /-- A short option, by its first letter. -/
  | short (letter : Char)
  /-- Anything else, and a lone hyphen. -/
  | plain (text : String)

/-- The form of an argument. -/
def Form.of (argument : String) : Form :=
  match argument.toList with
  | ['-', '-'] => .separator
  | '-' :: '-' :: option =>
      match option.dropWhile (· != '=') with
      | [] => .long (String.ofList option) none
      | _ :: value =>
          .long (String.ofList (option.takeWhile (· != '='))) (some (String.ofList value))
  | '-' :: letter :: _ => .short letter
  | _ => .plain argument

/-- How the value of an option is taken, for options that have one. -/
def valueTaker? : String → Option (Given → String → Except Refusal Given)
  | "rules" => some Given.takeRules
  | "templates" => some Given.takeTemplates
  | "log-level" => some Given.takeLogLevel
  | _ => none

/-- What an option without a value does. -/
def takeSwitch (given : Given) : String → Except Refusal Given
  | "json" => given.takeJson
  | "help" => .error .help
  | "version" => .error .version
  | _ => .error .usage

/-- What a short option does. -/
def takeShort : Char → Refusal
  | 'h' => .help
  | 'V' => .version
  | _ => .usage

/-- Read arguments from the first to the last. -/
def readFrom (given : Given) : List String → Except Refusal Given
  | [] => .ok given
  | argument :: rest =>
      match Form.of argument with
      | .separator => given.takeInputs rest
      | .short letter => .error (takeShort letter)
      | .plain path => do
          let given ← given.takeInput path
          readFrom given rest
      | .long name attached =>
          match valueTaker? name, attached, rest with
          | some take, some value, rest => do
              let given ← take given value
              readFrom given rest
          | some take, none, next :: rest =>
              match Form.of next with
              | .plain value => do
                  let given ← take given value
                  readFrom given rest
              | _ => .error .usage
          | some _, none, [] => .error .usage
          | none, some _, _ => .error .usage
          | none, none, rest => do
              let given ← takeSwitch given name
              readFrom given rest

/-- What a list of arguments says. -/
def Arguments.read (arguments : List String) : Except Refusal Arguments := do
  let given ← readFrom .start arguments
  given.finish

end MarkupAudit.CommandLine
