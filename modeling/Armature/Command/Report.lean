import Armature.Command.Input
import Armature.Json.Printer
import Armature.Limits
import Armature.Message
import Armature.Plan.Basic
/-!
What a command tells: lines for a person, or one JSON value for a program.
-/

namespace Armature.Command

inductive Line
  | plain (text : String)
  /-- A line that ends in the time that the command took. -/
  | timed (text : String)

def Line.text : Line → String
  | plain text | timed text => text

inductive Ending
  | success
  | rejected
  | failed (message : String)
  deriving DecidableEq

def Ending.status : Ending → Nat
  | success => 0
  | rejected | failed _ => 1

inductive Output
  | lines (lines : List Line)
  | json (value : Json)

structure Run where
  output : Output
  ending : Ending

def Run.failure (lines : List Line) (message : String) : Run := ⟨.lines lines, .failed message⟩

def chooseLimits (profile : Option String) (maxCubes : Option Nat) : Except String Limits := do
  let limits ← match profile with
    | none => pure Limits.standard
    | some name =>
      (Limits.ofName? name).elim
        (throw s!"unknown limits profile: {name} (expected default or strict)") pure
  return { limits with maxCubes := maxCubes.getD limits.maxCubes }

def atPath (path : Option String) : String := path.elim "" fun path => s!" at {path}"

def faultLines (fault : Fault Float) : List Line :=
  [.plain "", .plain "Errors:",
    .plain s!"  x [{fault.code}]{atPath fault.path}: {fault.message}"]
    ++ (fault.remedy.toList.map fun remedy => .plain s!"    fix: {remedy}")

def warningLines : List Warning → List Line
  | [] => []
  | warnings =>
    [.plain "", .plain "Warnings:"] ++
      warnings.map fun w => .plain s!"  ! [{w.code}]{atPath (some w.path)}: {w.message}"

def vectorText (a : Vec3 Float) : String :=
  "[" ++ String.intercalate ", " (a.toList.map Decimal.Layout.message.text) ++ "]"

structure Problem where
  code : String
  message : String
  category : Option String := none
  path : Option String := none
  file : Option String := none
  suggestion : Option String := none

namespace Problem

open Json (member member?)

def ofFault (fault : Fault Float) : Problem where
  code := fault.code
  message := fault.message
  category := some fault.category
  path := fault.path
  suggestion := fault.remedy

def ofInput (fault : InputFault) (file : String) : Problem where
  code := fault.code
  message := fault.message
  file := some file

def toJson (p : Problem) : Json :=
  Json.record
    [member "code" (.text p.code),
      member "message" (.text p.message),
      member? "category" .text p.category,
      member? "path" .text p.path,
      member? "file" .text p.file,
      member? "suggestion" .text p.suggestion]

end Problem

def warningJson (w : Warning) : Json :=
  .object [("code", .text w.code), ("message", .text w.message), ("path", .text w.path)]

structure Report where
  problems : List Problem := []
  warnings : List Warning := []
  result : Option Json := none
  hash : Option String := none
  sourceHash : Option String := none

def Report.toJson (hashKey : String) (r : Report) : Json :=
  Json.record
    [Json.member "success" (.bool r.problems.isEmpty),
      Json.member "errors" (.array (r.problems.map Problem.toJson)),
      Json.member "warnings" (.array (r.warnings.map warningJson)),
      Json.member? "result" id r.result,
      Json.member? hashKey .text r.hash,
      Json.member? "source_hash" .text r.sourceHash]

def Report.run (hashKey : String) (r : Report) : Run :=
  ⟨.json (r.toJson hashKey), if r.problems.isEmpty then .success else .rejected⟩

def unknownLimits (message : String) : Problem := { code := "CLI_004", message }

def unknownMode (message : String) : Problem := { code := "CLI_005", message }

end Armature.Command
