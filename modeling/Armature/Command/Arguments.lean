import Armature.Command.Normalize
import Armature.Command.Plan
/-!
The command line. An option is written `--name value`, `--name=value`, or with its letter as `-n value`,
`-n=value` or `-nvalue`; letters of switches may stand together. No option is given twice.
-/

namespace Armature

inductive Command
  | normalize (options : Command.NormalizeOptions)
  | plan (options : Command.PlanOptions)
  deriving DecidableEq

namespace Command

def run (directory : Directory) : Command → Run
  | normalize options => options.run directory
  | plan options => options.run directory

def files : Command → List String
  | normalize options => [options.spec]
  | plan options => options.spec :: options.existing.toList

inductive Request
  | run (command : Command)
  | describe

structure OptionRule where
  name : String
  letter : Option Char := none
  takesValue : Bool := true
  accepts : String → Bool := fun _ => true

/-- A whole number within 64 bits; a plus sign may stand ahead of it. -/
def parseCount? (s : String) : Option Nat :=
  let digits := match s.toList with
    | '+' :: rest => rest
    | cs => cs
  if digits.isEmpty || !digits.all Char.isDigit then none
  else
    let n := Json.ofDigits (digits.map fun c => c.toNat - '0'.toNat)
    if n < UInt64.size then some n else none

def verboseRule : OptionRule := { name := "verbose", letter := some 'v', takesValue := false }

def helpRule : OptionRule := { name := "help", letter := some 'h', takesValue := false }

def versionRule : OptionRule := { name := "version", letter := some 'V', takesValue := false }

def globalRules : List OptionRule := [verboseRule, helpRule, versionRule]

def specRule : OptionRule := { name := "spec", letter := some 's' }

def limitsRule : OptionRule :=
  { name := "limits", accepts := fun value => (Limits.ofName? value).isSome }

def jsonRule : OptionRule := { name := "json", takesValue := false }

def normalizeRules : List OptionRule :=
  [specRule, { name := "max-cubes", accepts := fun value => (parseCount? value).isSome }, limitsRule,
    jsonRule, { name := "pretty", takesValue := false }] ++ globalRules

def planRules : List OptionRule :=
  [specRule, { name := "existing", letter := some 'e' },
    { name := "mode", accepts := fun value => (Mode.ofName? value).isSome },
    { name := "delete-orphans", takesValue := false }, limitsRule, jsonRule] ++ globalRules

abbrev Given := List (String × String)

def give? (rule : OptionRule) (value : String) (given : Given) : Option Given :=
  if (given.lookup rule.name).isSome || !rule.accepts value then none
  else some ((rule.name, value) :: given)

def looksLikeOption (argument : String) : Bool :=
  match argument.toList with
  | '-' :: _ :: _ => true
  | _ => false

def attachedValue : List Char → String
  | '=' :: rest => String.ofList rest
  | rest => String.ofList rest

def readLetters? (rules : List OptionRule) : (letters : List Char) → Given →
    Option (Given × Option OptionRule)
  | [], given => some (given, none)
  | letter :: rest, given => do
    let rule ← rules.find? (·.letter == some letter)
    if rule.takesValue then
      if rest.isEmpty then return (given, some rule)
      else return (← give? rule (attachedValue rest) given, none)
    else readLetters? rules rest (← give? rule "" given)

def readArgument? (rules : List OptionRule) (argument : List Char) (given : Given) :
    Option (Given × Option OptionRule) :=
  match argument with
  | '-' :: '-' :: long => do
    let name := String.ofList (long.takeWhile (· ≠ '='))
    let rule ← rules.find? (·.name == name)
    match long.dropWhile (· ≠ '='), rule.takesValue with
    | '=' :: value, true => return (← give? rule (String.ofList value) given, none)
    | _ :: _, _ => none
    | [], true => return (given, some rule)
    | [], false => return (← give? rule "" given, none)
  | '-' :: letter :: rest => readLetters? rules (letter :: rest) given
  | _ => none

def readOptions? (rules : List OptionRule) : (awaiting : Option OptionRule) → List String → Given →
    Option Given
  | some _, [], _ => none
  | none, [], given => some given
  | some rule, value :: rest, given =>
    if looksLikeOption value then none
    else do
      let given ← give? rule value given
      readOptions? rules none rest given
  | none, "--" :: rest, given => if rest.isEmpty then some given else none
  | none, argument :: rest, given => do
    let (given, awaiting) ← readArgument? rules argument.toList given
    readOptions? rules awaiting rest given

def Given.has (given : Given) (name : String) : Bool := (given.lookup name).isSome

def Given.asksForHelp (given : Given) : Bool := given.has "help" || given.has "version"

def normalizeRequest? (arguments : List String) : Option Request := do
  let given ← readOptions? normalizeRules none arguments []
  if given.asksForHelp then return .describe
  let spec ← given.lookup "spec"
  return .run (.normalize {
    spec
    maxCubes := (given.lookup "max-cubes").bind parseCount?
    limits := given.lookup "limits"
    json := given.has "json"
    pretty := given.has "pretty" })

def planRequest? (arguments : List String) : Option Request := do
  let given ← readOptions? planRules none arguments []
  if given.asksForHelp then return .describe
  let spec ← given.lookup "spec"
  return .run (.plan {
    spec
    existing := given.lookup "existing"
    mode := (given.lookup "mode").getD Mode.merge.name
    deleteOrphans := given.has "delete-orphans"
    limits := given.lookup "limits"
    json := given.has "json" })

def request? : (given : Given) → (arguments : List String) → Option Request
  | given, [] => if given.asksForHelp then some .describe else none
  | given, argument :: rest =>
    if looksLikeOption argument then do
      let (given, _) ← readArgument? globalRules argument.toList given
      request? given rest
    else if given.asksForHelp then some .describe
    else
      match argument with
      | "normalize" => normalizeRequest? rest
      | "plan" => planRequest? rest
      | "help" => some .describe
      | _ => none

end Command

end Armature
