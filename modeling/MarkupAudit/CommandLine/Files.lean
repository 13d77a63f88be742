/-
# Files

What the validator needs to know of the files around it: for every path, the text that is there,
or that there is a file without a text, or that it names a directory, or that there is nothing. A
file without a text may not be opened, or its bytes spell no text; it is a file all the same. A text
may also come from what is no file. A list of files with their texts gives such a view of the
directory in which they are, including the directories on the way to them.
-/

namespace MarkupAudit.CommandLine

/-- What is at a path. -/
inductive Entry where
  /-- A file with its text. -/
  | file (text : String)
  /-- A file that may not be opened, or whose bytes spell no text. -/
  | unreadable
  /-- Something else that can be read, such as a pipe, with the text that comes out of it. -/
  | stream (text : String)
  | directory
  | missing
  deriving Repr, DecidableEq

/-- Files as seen from the working directory. -/
abbrev Files := String → Entry

/-- A path below a directory. -/
def joinPath (directory file : String) : String :=
  if directory.isEmpty || directory.toList.getLast? == some '/' then directory ++ file
  else directory ++ "/" ++ file

namespace Files

/-- There is a file at a path, whether it can be read or not. -/
def isFile (files : Files) (path : String) : Bool :=
  match files path with
  | .file _ | .unreadable => true
  | .stream _ | .directory | .missing => false

/-- The text at a path, if something is there that can be read. -/
def text? (files : Files) (path : String) : Option String :=
  match files path with
  | .file text | .stream text => some text
  | .unreadable | .directory | .missing => none

/-- Follow the steps of a path: a dot stays, two dots go back, and anything else goes on. There
is no way back from the start. -/
def follow : List String → List String → Option (List String)
  | taken, [] => some taken.reverse
  | taken, step :: steps =>
      if step == "" || step == "." then follow taken steps
      else if step == ".." then
        match taken with
        | [] => none
        | _ :: taken => follow taken steps
      else follow (step :: taken) steps

/-- The steps of a path from the working directory on. -/
def steps? (path : String) : Option (List String) :=
  if path.toList.head? == some '/' then none else follow [] (path.splitOn "/")

/-- The view of a working directory with the given files in it. -/
def ofList (files : List (String × String)) : Files := fun path =>
  match steps? path with
  | none => .missing
  | some steps =>
      let known := files.filterMap fun (path, text) => (steps? path).map (·, text)
      match known.lookup steps with
      | some text => if path.toList.getLast? == some '/' then .missing else .file text
      | none => if steps.isEmpty || known.any (steps.isPrefixOf ·.1) then .directory else .missing

end Files

end MarkupAudit.CommandLine
