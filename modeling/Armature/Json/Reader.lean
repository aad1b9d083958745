import Armature.Json.Outline
/-!
Reading domain values from JSON. A reader walks an outline from left to right and stops at the first
problem, so that a text and a value are read by the same definitions.
-/

namespace Armature.Json

inductive ReadError
  | malformed
  | mismatch
  /-- The JSON has a shape that ends the reading of a text before the shape is looked at: more items
  than a record has fields, or no name where one of several names is expected. -/
  | misplaced
  | untyped
  deriving DecidableEq

/-- Whether the problem counts as one of the text rather than of its shape. -/
def ReadError.isSyntax (fromText : Bool) : ReadError → Bool
  | malformed => true
  | misplaced => fromText
  | mismatch | untyped => false

def ReadError.message? : ReadError → Option String
  | untyped => some "instance directive is missing 'type'"
  | _ => none

abbrev Reader (α : Type) := Outline → Except ReadError α

namespace Reader

def refuse {α : Type} : Reader α
  | .fault | .unreadable => .error .malformed
  | _ => .error .mismatch

def text : Reader String
  | .text s => .ok s
  | other => refuse other

def bool : Reader Bool
  | .bool b => .ok b
  | other => refuse other

def float : Reader Float
  | .number n => .ok n.toFloat
  | other => refuse other

def count (limit : Nat) : Reader Nat
  | .number (.integer n) => if 0 ≤ n ∧ n ≤ limit then .ok n.toNat else .error .mismatch
  | other => refuse other

def optional {α : Type} (reader : Reader α) : Reader (Option α)
  | .null => .ok none
  | other => some <$> reader other

def items {α : Type} (reader : Reader α) (closed : Bool) : List Outline → Except ReadError (List α)
  | [] => if closed then .ok [] else .error .malformed
  | item :: rest => do
    let value ← reader item
    let values ← items reader closed rest
    return value :: values

def list {α : Type} (reader : Reader α) : Reader (List α)
  | .array outlines closed => items reader closed outlines
  | other => refuse other

def choice {α : Type} (ofName? : String → Option α) : Reader α
  | .text s => (ofName? s).elim (.error .mismatch) .ok
  | .object [] closed => .error (if closed then .misplaced else .malformed)
  | .object ((none, _) :: _) _ => .error .malformed
  | .object ((some key, value) :: rest) closed =>
    match ofName? key, value with
    | none, _ => .error .mismatch
    | some choice, .null =>
      if !rest.isEmpty then .error .misplaced
      else if closed then .ok choice
      else .error .malformed
    | some _, other => refuse other
  | .fault | .unreadable => .error .malformed
  | _ => .error .misplaced

def raw : Reader Json := fun outline => (outline.value?).elim (.error .malformed) .ok

end Reader

structure FieldReader (σ : Type) where
  key : String
  required : Bool
  read : Outline → σ → Except ReadError σ

namespace FieldReader

variable {σ α : Type}

def defaulted (key : String) (reader : Reader α) (set : σ → α → σ) : FieldReader σ :=
  ⟨key, false, fun outline record => set record <$> reader outline⟩

def mandatory (key : String) (reader : Reader α) (set : σ → α → σ) : FieldReader σ :=
  ⟨key, true, fun outline record => set record <$> reader outline⟩

def unset (key : String) (reader : Reader α) (set : σ → Option α → σ) : FieldReader σ :=
  defaulted key (Reader.optional reader) set

end FieldReader

/-- What is to be done with a member that no field has as its key. -/
inductive Unknown
  | refuse
  | ignore

namespace Reader

variable {σ : Type}

/-- Reads members into a record. `seen` holds the keys of the fields read so far. -/
def members (fields : List (FieldReader σ)) (unknown : Unknown) (closed : Bool) :
    (seen : List String) → (record : σ) → List (Option String × Outline) → Except ReadError σ
  | seen, record, [] =>
    if !closed then .error .malformed
    else if fields.all fun field => !field.required || seen.contains field.key then .ok record
    else .error .mismatch
  | _, _, (none, _) :: _ => .error .malformed
  | seen, record, (some key, value) :: rest =>
    match fields.find? (·.key == key), unknown with
    | none, .refuse => .error .mismatch
    | none, .ignore =>
      if value.isComplete then members fields unknown closed seen record rest else .error .malformed
    | some field, _ =>
      if seen.contains key then .error .mismatch
      else do
        let record ← field.read value record
        members fields unknown closed (key :: seen) record rest

def positions (closed : Bool) :
    (fields : List (FieldReader σ)) → (record : σ) → List Outline → Except ReadError σ
  | [], record, [] => if closed then .ok record else .error .malformed
  | [], _, _ :: _ => .error .misplaced
  | field :: fields, record, [] =>
    if !closed then .error .malformed
    else if field.required then .error .mismatch
    else positions closed fields record []
  | field :: fields, record, item :: rest => do
    let record ← field.read item record
    positions closed fields record rest

/-- A record as an object, or as an array of its fields. `blank` has the defaults. -/
def record (fields : List (FieldReader σ)) (unknown : Unknown) (blank : σ) : Reader σ
  | .object outlines closed => members fields unknown closed [] blank outlines
  | .array outlines closed => positions closed fields blank outlines
  | other => refuse other

end Reader

def readText {α : Type} (reader : Reader α) (s : String) : Except ReadError α := do
  let reading := Reading.ofText s
  let value ← reader reading.outline
  if reading.ends then return value else throw .malformed

def readValue {α : Type} (reader : Reader α) (value : Json) : Except ReadError α :=
  reader (.ofJson value)

def record (members : List (Option (String × Json))) : Json := .object (members.filterMap id)

def member (key : String) (value : Json) : Option (String × Json) := some (key, value)

def member? {α : Type} (key : String) (write : α → Json) (value : Option α) :
    Option (String × Json) :=
  value.map fun a => (key, write a)

end Armature.Json
