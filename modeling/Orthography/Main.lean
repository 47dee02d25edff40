import Orthography.CommandLine.Tool

/-!
# The program

The first argument names a tool, the others are its own.  What the tool can see is read once before
it runs; all that it does is decided by `Tool.run`.
-/

namespace Orthography.CommandLine

/-- The content of a file, if it can be read. -/
def readFile? (path : Path) : IO (Option ByteArray) := do
  try return some (← IO.FS.readBinFile path.string) catch _ => return none

/-- The directory of the run, if it has one. -/
def runDirectory? : IO (Option Path) := do
  try return some (← IO.currentDir).toString.toList catch _ => return none

/-- Looks around for a run of a tool: where dictionaries may be, and what their files hold. -/
def survey (tool : Tool) (args : List Text) : IO Surroundings := do
  let bare : Surroundings :=
    { dictionaryPath := (← IO.getEnv "TYPO_DICT_PATH").map String.toList
      home := (← IO.getEnv "HOME").map String.toList
      directory := ← runDirectory?
      content? := fun _ => none }
  let files ← (tool.paths bare args).mapM fun path => return (path, ← readFile? path)
  return { bare with content? := fun path => (files.lookup path).join }

/-- Runs a tool and prints what it leaves behind. -/
def runTool (tool : Tool) (args : List Text) : IO UInt32 := do
  let surroundings ← survey tool args
  let input ← if tool.readsInput args then (← IO.getStdin).readBinToEnd else pure .empty
  let outcome := tool.run surroundings input.toList args
  IO.print outcome.output
  IO.eprint outcome.errors
  return outcome.code.toUInt32

end Orthography.CommandLine

open Orthography.CommandLine in
/-- Runs the tool that the first argument names. -/
def main (args : List String) : IO UInt32 := do
  match args with
  | name :: rest =>
    match Tool.ofName? name with
    | some tool => runTool tool (rest.map String.toList)
    | none =>
      IO.eprintln "error: the first argument has to be check, suggest or unmunch"
      return 1
  | [] =>
    IO.eprintln "error: the first argument has to be check, suggest or unmunch"
    return 1
