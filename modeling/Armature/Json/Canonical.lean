import Armature.Digest.Blake3
import Armature.Json.Printer
/-!
Canonical JSON text, in which a value has one form only: members ordered by key, no spaces, and no
difference between a whole number and the floating-point number of the same value.
-/

namespace Armature.Json

/-- Numbers without an exponent, a point only before a fraction, and no sign on a zero. -/
def canonicalNumber : Number → String
  | .integer n => toString n
  | .float x =>
    if !x.isFinite then "null"
    else if x == 0 then "0"
    else Decimal.Layout.message.text x

def sortMembers (members : List (String × String)) : List (String × String) :=
  members.mergeSort fun a b => !decide (b.1 < a.1)

mutual

def canonical : Json → String
  | null => "null"
  | bool b => if b then "true" else "false"
  | number n => canonicalNumber n
  | text s => quote s
  | array items => "[" ++ String.intercalate "," (canonicalItems items) ++ "]"
  | object members =>
    let written := (sortMembers (canonicalMembers members)).map fun (key, value) =>
      quote key ++ ":" ++ value
    "\x7b" ++ String.intercalate "," written ++ "\x7d"

def canonicalItems : List Json → List String
  | [] => []
  | item :: rest => canonical item :: canonicalItems rest

def canonicalMembers : List (String × Json) → List (String × String)
  | [] => []
  | (key, value) :: rest => (key, canonical value) :: canonicalMembers rest

end

def digest (value : Json) : String := Blake3.hexOfText value.canonical

end Armature.Json
