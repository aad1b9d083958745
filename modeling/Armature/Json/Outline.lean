import Armature.Json.Numeral
/-!
The outline of a JSON text: its value as far as the text can be read. A reader that walks an outline
from left to right meets the first fault of the text where a reader of the text itself would.
-/

namespace Armature.Json

inductive Outline
  | null
  | bool (value : Bool)
  | number (value : Number)
  | text (value : String)
  /-- Well-formed text that stands for nothing: a number beyond the largest one, a string with half of
  a surrogate pair, or brackets nested too deeply. -/
  | unreadable
  /-- Items, and whether the closing bracket follows them. -/
  | array (items : List Outline) (closed : Bool)
  /-- Members with their keys, none for one that is unreadable, and whether the closing bracket
  follows them. -/
  | object (members : List (Option String × Outline)) (closed : Bool)
  | fault

namespace Outline

def skipBlanks (cs : List Char) : List Char :=
  cs.dropWhile fun c => c = ' ' || c = '\n' || c = '\t' || c = '\r'

def hexDigit? (c : Char) : Option Nat :=
  if '0' ≤ c ∧ c ≤ '9' then some (c.toNat - '0'.toNat)
  else if 'a' ≤ c ∧ c ≤ 'f' then some (c.toNat - 'a'.toNat + 10)
  else if 'A' ≤ c ∧ c ≤ 'F' then some (c.toNat - 'A'.toNat + 10)
  else none

def scanHex? : List Char → Option (Nat × List Char)
  | a :: b :: c :: d :: rest => do
    let a ← hexDigit? a
    let b ← hexDigit? b
    let c ← hexDigit? c
    let d ← hexDigit? d
    return (((a * 16 + b) * 16 + c) * 16 + d, rest)
  | _ => none

def escaped? : Char → Option Char
  | '"' => some '"'
  | '\\' => some '\\'
  | '/' => some '/'
  | 'b' => some '\x08'
  | 'f' => some '\x0c'
  | 'n' => some '\n'
  | 'r' => some '\r'
  | 't' => some '\t'
  | _ => none

def isLeading (unit : Nat) : Bool := 0xD800 ≤ unit && unit < 0xDC00

def isTrailing (unit : Nat) : Bool := 0xDC00 ≤ unit && unit < 0xE000

def pair (leading trailing : Nat) : Char :=
  Char.ofNat (0x10000 + (leading - 0xD800) * 0x400 + (trailing - 0xDC00))

/-- The rest of a string after its opening quote: its text, none if half a surrogate pair stands in
it, and what follows the closing quote. `read` holds the characters so far, the last one first.
There is none if the string does not end or holds a control character or an unknown escape. -/
def scanString? : (fuel : Nat) → (read : Option (List Char)) → List Char →
    Option (Option String × List Char)
  | 0, _, _ => none
  | _, _, [] => none
  | fuel + 1, read, c :: rest =>
    if c = '"' then some (read.map fun cs => String.ofList cs.reverse, rest)
    else if c = '\\' then
      match rest with
      | 'u' :: rest =>
        match scanHex? rest with
        | none => none
        | some (unit, rest) =>
          if isLeading unit then
            match rest with
            | '\\' :: 'u' :: after =>
              match scanHex? after with
              | none => none
              | some (second, after) =>
                if isTrailing second then scanString? fuel (read.map (pair unit second :: ·)) after
                else scanString? fuel none rest
            | _ => scanString? fuel none rest
          else if isTrailing unit then scanString? fuel none rest
          else scanString? fuel (read.map (Char.ofNat unit :: ·)) rest
      | e :: rest =>
        match escaped? e with
        | some c => scanString? fuel (read.map (c :: ·)) rest
        | none => none
      | [] => none
    else if c.toNat < 0x20 then none
    else scanString? fuel (read.map (c :: ·)) rest

/-- The number of brackets that may be open at once. -/
def nesting : Nat := 127

/-- What stands inside `depth` brackets, unless these are too many. -/
def limit (depth : Nat) : Outline × Option (List Char) → Outline × Option (List Char)
  | (outline, none) => (if depth < nesting then outline else .fault, none)
  | (outline, some rest) => (if depth < nesting then outline else .unreadable, some rest)

mutual

def scanValue : (fuel depth : Nat) → List Char → Outline × Option (List Char)
  | 0, _, _ => (.fault, none)
  | fuel + 1, depth, cs =>
    match skipBlanks cs with
    | 'n' :: 'u' :: 'l' :: 'l' :: rest => (.null, some rest)
    | 't' :: 'r' :: 'u' :: 'e' :: rest => (.bool true, some rest)
    | 'f' :: 'a' :: 'l' :: 's' :: 'e' :: rest => (.bool false, some rest)
    | '"' :: rest =>
      match scanString? fuel (some []) rest with
      | some (some s, rest) => (.text s, some rest)
      | some (none, rest) => (.unreadable, some rest)
      | none => (.fault, none)
    | '[' :: rest =>
      match skipBlanks rest with
      | ']' :: rest => limit depth (.array [] true, some rest)
      | rest => limit depth (scanItems fuel (depth + 1) [] rest)
    | '\x7b' :: rest =>
      match skipBlanks rest with
      | '\x7d' :: rest => limit depth (.object [] true, some rest)
      | rest => limit depth (scanMembers fuel (depth + 1) [] rest)
    | rest =>
      match Numeral.scan? rest with
      | some (numeral, rest) =>
        match numeral.number? with
        | some n => (.number n, some rest)
        | none => (.unreadable, some rest)
      | none => (.fault, none)

def scanItems : (fuel depth : Nat) → (read : List Outline) → List Char →
    Outline × Option (List Char)
  | 0, _, read, _ => (.array read.reverse false, none)
  | fuel + 1, depth, read, cs =>
    match scanValue fuel depth cs with
    | (item, none) => (.array (item :: read).reverse false, none)
    | (item, some rest) =>
      match skipBlanks rest with
      | ',' :: rest => scanItems fuel depth (item :: read) rest
      | ']' :: rest => (.array (item :: read).reverse true, some rest)
      | _ => (.array (item :: read).reverse false, none)

def scanMembers : (fuel depth : Nat) → (read : List (Option String × Outline)) → List Char →
    Outline × Option (List Char)
  | 0, _, read, _ => (.object read.reverse false, none)
  | fuel + 1, depth, read, cs =>
    match skipBlanks cs with
    | '"' :: rest =>
      match scanString? fuel (some []) rest with
      | none => (.object read.reverse false, none)
      | some (key, rest) =>
        match skipBlanks rest with
        | ':' :: rest =>
          match scanValue fuel depth rest with
          | (value, none) => (.object ((key, value) :: read).reverse false, none)
          | (value, some rest) =>
            match skipBlanks rest with
            | ',' :: rest => scanMembers fuel depth ((key, value) :: read) rest
            | '\x7d' :: rest => (.object ((key, value) :: read).reverse true, some rest)
            | _ => (.object ((key, value) :: read).reverse false, none)
        | _ => (.object ((key, .fault) :: read).reverse false, none)
    | _ => (.object read.reverse false, none)

end

mutual

def ofJson : Json → Outline
  | .null => .null
  | .bool b => .bool b
  | .number n => .number n
  | .text s => .text s
  | .array items => .array (ofItems items) true
  | .object members => .object (ofMembers members) true

def ofItems : List Json → List Outline
  | [] => []
  | item :: rest => ofJson item :: ofItems rest

def ofMembers : List (String × Json) → List (Option String × Outline)
  | [] => []
  | (key, value) :: rest => (some key, ofJson value) :: ofMembers rest

end

mutual

/-- Whether a value can be passed over: nothing in it is a fault. -/
def isComplete : Outline → Bool
  | .array items closed => closed && areComplete items
  | .object members closed => closed && membersComplete members
  | .fault => false
  | _ => true

def areComplete : List Outline → Bool
  | [] => true
  | item :: rest => isComplete item && areComplete rest

def membersComplete : List (Option String × Outline) → Bool
  | [] => true
  | (_, value) :: rest => isComplete value && membersComplete rest

end

mutual

def value? : Outline → Option Json
  | .null => some .null
  | .bool b => some (.bool b)
  | .number n => some (.number n)
  | .text s => some (.text s)
  | .array items closed => if closed then (items? items).map .array else none
  | .object members closed => if closed then (members? members).map Json.ofMembers else none
  | .unreadable => none
  | .fault => none

def items? : List Outline → Option (List Json)
  | [] => some []
  | item :: rest => do
    let item ← value? item
    let rest ← items? rest
    return item :: rest

def members? : List (Option String × Outline) → Option (List (String × Json))
  | [] => some []
  | (key, value) :: rest => do
    let key ← key
    let value ← value? value
    let rest ← members? rest
    return (key, value) :: rest

end

end Outline

structure Reading where
  outline : Outline
  ends : Bool

/-- Reads a text. No character takes more than two steps, which bounds the fuel. -/
def Reading.ofText (s : String) : Reading :=
  let cs := s.toList
  match Outline.scanValue (2 * cs.length + 2) 0 cs with
  | (outline, some rest) => ⟨outline, (Outline.skipBlanks rest).isEmpty⟩
  | (outline, none) => ⟨outline, false⟩

def parse? (s : String) : Option Json :=
  let reading := Reading.ofText s
  if reading.ends then reading.outline.value? else none

end Armature.Json
