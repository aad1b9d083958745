import Armature.Decimal.Layout
/-!
JSON values. An object is the list of its members; reading a value sorts them by key and keeps the
last of several members with one key, so that a value that has been read has distinct keys.
-/

namespace Armature

/-- A number: a whole one within 64 bits, or a floating-point number. -/
inductive Number
  | integer (value : Int)
  | float (value : Float)

namespace Number

def toFloat : Number → Float
  | integer n =>
    let magnitude := n.natAbs.toUInt64.toFloat
    if n < 0 then -magnitude else magnitude
  | float x => x

/-- Equality of numbers of one kind; floating-point numbers compare by value. -/
def same : Number → Number → Bool
  | integer a, integer b => a == b
  | float a, float b => a == b
  | _, _ => false

end Number

inductive Json
  | null
  | bool (value : Bool)
  | number (value : Number)
  | text (value : String)
  | array (items : List Json)
  | object (members : List (String × Json))

namespace Json

/-- A floating-point number; JSON has no form for one that is not finite. -/
def ofFloat (x : Float) : Json := if x.isFinite then .number (.float x) else .null

def ofNat (n : Nat) : Json := .number (.integer n)

def ofText? : Option String → Json
  | some s => .text s
  | none => .null

/-- A list of members ordered by key with one more; it takes the place of a member with its key. -/
def insertMember (key : String) (value : Json) : List (String × Json) → List (String × Json)
  | [] => [(key, value)]
  | (k, v) :: rest =>
    if key < k then (key, value) :: (k, v) :: rest
    else if key = k then (key, value) :: rest
    else (k, v) :: insertMember key value rest

def ofMembers (members : List (String × Json)) : Json :=
  .object (members.foldl (fun sorted (key, value) => insertMember key value sorted) [])

def get? (key : String) : Json → Option Json
  | object members => members.lookup key
  | _ => none

mutual

def sorted : Json → Json
  | array items => array (sortedItems items)
  | object members => ofMembers (sortedMembers members)
  | other => other

def sortedItems : List Json → List Json
  | [] => []
  | item :: rest => sorted item :: sortedItems rest

def sortedMembers : List (String × Json) → List (String × Json)
  | [] => []
  | (key, value) :: rest => (key, sorted value) :: sortedMembers rest

end

mutual

/-- Equality of values: objects agree member by member, in order. -/
def same : Json → Json → Bool
  | null, null => true
  | bool a, bool b => a == b
  | number a, number b => a.same b
  | text a, text b => a == b
  | array a, array b => sameItems a b
  | object a, object b => sameMembers a b
  | _, _ => false

def sameItems : List Json → List Json → Bool
  | [], [] => true
  | a :: as, b :: bs => same a b && sameItems as bs
  | _, _ => false

def sameMembers : List (String × Json) → List (String × Json) → Bool
  | [], [] => true
  | (k, a) :: as, (l, b) :: bs => k == l && same a b && sameMembers as bs
  | _, _ => false

end

instance : BEq Json := ⟨same⟩

end Json

end Armature
