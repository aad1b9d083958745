import Armature.Command.Arguments
/-!
The program: commands over the file system.
-/

namespace Armature.Command

def readFile (path : String) : IO (Except String String) := do
  try
    return .ok (← IO.FS.readFile path)
  catch
    | .noFileOrDirectory .. => return .error missingFile
    | error => return .error (toString error)

def printOutput (milliseconds : Nat) : Output → IO Unit
  | .json value => IO.println value.pretty
  | .lines lines => lines.forM fun
    | .plain text => IO.println text
    | .timed text => IO.println s!"{text} ({milliseconds}ms)"

def usage : String := "usage: armature [-v] normalize|plan --spec FILE [OPTION...]"

end Armature.Command

open Armature.Command in
def main (arguments : List String) : IO UInt32 := do
  match request? [] arguments with
  | none =>
    IO.eprintln usage
    return 2
  | some .describe =>
    IO.println usage
    return 0
  | some (.run command) =>
    let files ← command.files.mapM fun path => return (path, ← readFile path)
    let start ← IO.monoMsNow
    let run := command.run fun path => (files.lookup path).getD (.error missingFile)
    printOutput ((← IO.monoMsNow) - start) run.output
    match run.ending with
    | .failed message => IO.eprintln s!"error: {message}"
    | _ => pure ()
    return run.ending.status.toUInt32
