import Armature.Digest.Blake3
import Armature.Json.Reader
import Armature.Text.Lowercase
/-!
Documents that come from files.
-/

namespace Armature.Command

abbrev Directory := String → Except String String

def missingFile : String := "No such file or directory (os error 2)"

def Directory.ofFiles (files : List (String × String)) : Directory := fun path =>
  (files.lookup path).elim (.error missingFile) .ok

inductive InputFault
  | unreadable (path cause : String)
  /-- The name of the file has another extension than it should, or none. -/
  | wrongExtension (extension : Option String)
  | unparsable

namespace InputFault

def code : InputFault → String
  | unreadable .. => "CLI_001"
  | wrongExtension _ => "CLI_002"
  | unparsable => "CLI_003"

def message : InputFault → String
  | unreadable path cause => s!"failed to read file '{path}': {cause}"
  | wrongExtension (some extension) => s!"unknown file extension '.{extension}' (expected .json)"
  | wrongExtension none => "file has no extension (expected .json)"
  | unparsable => "JSON parse error"

def chain : InputFault → String
  | fault@(unreadable _ cause) => s!"{fault.message}: {cause}"
  | fault => fault.message

end InputFault

def fileName? (path : String) : Option String :=
  let parts := (path.splitOn "/").filter fun part => part ≠ "" ∧ part ≠ "."
  parts.getLast?.filter (· ≠ "..")

def extension? (path : String) : Option String := do
  let name ← fileName? path
  let parts := name.splitOn "."
  let extension ← parts.getLast?
  if parts.length < 2 ∨ parts.dropLast = [""] then none else some extension

structure Loaded (α : Type) where
  document : α
  hash : String

def Loaded.shortHash {α : Type} (l : Loaded α) : String := String.ofList (l.hash.toList.take 16)

def load {α : Type} (read : String → Except Json.ReadError α) (directory : Directory)
    (path : String) : Except InputFault (Loaded α) := do
  let extension := (extension? path).map Text.lowercase
  if extension ≠ some "json" then throw (.wrongExtension extension)
  match directory path with
  | .error cause => throw (.unreadable path cause)
  | .ok text =>
    match read text with
    | .error _ => throw .unparsable
    | .ok document => return ⟨document, Blake3.hexOfText text⟩

end Armature.Command
