/-
# The program

The command line of the validator. It looks up the files that the arguments and the user's
directory can refer to, reads the standard input if it is the document, and prints what the run
gives. Whatever goes wrong with a file or with the standard input is part of what the run is told.
-/

import MarkupAudit.CommandLine.Run

namespace MarkupAudit.CommandLine

/-- The text on the standard input, unless reading it fails or its bytes spell none. -/
def readStdin : IO (Option String) := do
  try
    return some (← (← IO.getStdin).readToEnd)
  catch _ => return none

/-- What is at a path on the disk. -/
def lookUp (path : String) : IO Entry := do
  let place := (← IO.currentDir) / path
  if ← place.isDir then return .directory
  if !(← place.pathExists) then return .missing
  try
    let text ← IO.FS.readFile place
    return if (← place.metadata).type matches .file then .file text else .stream text
  catch _ => return .unreadable

/-- What is at a path at which only a file is of use. Nothing else is opened there, since to open a
pipe can take for ever. -/
def lookUpFile (path : String) : IO Entry := do
  let place := (← IO.currentDir) / path
  if !(← place.pathExists) then return .missing
  if (← place.metadata).type matches .file then lookUp path else return .missing

/-- The directory in which the user keeps tables. -/
def userDirectory : IO (Option String) := do
  match ← IO.getEnv "XDG_CONFIG_HOME" with
  | some directory =>
      if directory.startsWith "/" then return some (joinPath directory "amp-validator")
      else fromHome
  | none => fromHome
where
  /-- The place for settings below the user's home. -/
  fromHome : IO (Option String) := do
    return (← IO.getEnv "HOME").map fun home =>
      joinPath (joinPath home ".config") "amp-validator"

/-- The paths of a run with given arguments. -/
def pathsFor (arguments : Arguments) : List String :=
  arguments.input :: arguments.rules.toList ++ arguments.templates.toList

/-- The paths at which the user's own tables can be. -/
def ownPaths : Option String → List String
  | some directory => [joinPath directory "rules.toml", joinPath directory "templates.toml"]
  | none => []

/-- Run the program on the real files. -/
def runOnDisk (arguments : List String) : IO Output := do
  match Arguments.read arguments with
  | .error _ => return run (fun _ => .missing) none none arguments
  | .ok read =>
      let directory ← userDirectory
      let named ← (pathsFor read).mapM fun path => do return (path, ← lookUp path)
      let own ← (ownPaths directory).mapM fun path => do return (path, ← lookUpFile path)
      let stdin ← if read.input == "-" then readStdin else pure none
      let files : Files := fun path => ((named ++ own).lookup path).getD .missing
      return run files directory stdin arguments

end MarkupAudit.CommandLine

/-- Print what a run gives, and end with its exit code. -/
def main (arguments : List String) : IO UInt32 := do
  let output ← MarkupAudit.CommandLine.runOnDisk arguments
  IO.print output.stdout
  return output.exitCode.toUInt32
