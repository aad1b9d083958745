/-!
Reading octets as UTF-8 when they need not be: every piece that is no character, taken as long as it
could still become one, is read as the replacement character.
-/

namespace Armature.Text

/-- The octets that may follow a first octet: the range of the next one, and how many follow in
all. -/
structure Continuation where
  low : Nat
  high : Nat
  count : Nat

def continuation? (first : Nat) : Option Continuation :=
  if 0xC2 ≤ first && first ≤ 0xDF then some ⟨0x80, 0xBF, 1⟩
  else if first = 0xE0 then some ⟨0xA0, 0xBF, 2⟩
  else if first = 0xED then some ⟨0x80, 0x9F, 2⟩
  else if 0xE1 ≤ first && first ≤ 0xEF then some ⟨0x80, 0xBF, 2⟩
  else if first = 0xF0 then some ⟨0x90, 0xBF, 3⟩
  else if 0xF1 ≤ first && first ≤ 0xF3 then some ⟨0x80, 0xBF, 3⟩
  else if first = 0xF4 then some ⟨0x80, 0x8F, 3⟩
  else none

def leadingBits (first count : Nat) : Nat :=
  match count with
  | 1 => first % 0x20
  | 2 => first % 0x10
  | _ => first % 0x08

def replacement : Char := '\uFFFD'

/-- The octets' characters. `pending` is the value read so far of a character that has begun, with
what it still asks for. -/
def decodeFrom : (pending : Option (Nat × Continuation)) → List UInt8 → List Char
  | none, [] => []
  | some _, [] => [replacement]
  | none, octet :: rest => start octet.toNat rest
  | some (value, next), octet :: rest =>
    let n := octet.toNat
    if next.low ≤ n && n ≤ next.high then
      let value := value * 0x40 + n % 0x40
      match next.count with
      | 0 | 1 => Char.ofNat value :: decodeFrom none rest
      | count => decodeFrom (some (value, ⟨0x80, 0xBF, count - 1⟩)) rest
    else replacement :: start n rest
where
  start (n : Nat) (rest : List UInt8) : List Char :=
    if n < 0x80 then Char.ofNat n :: decodeFrom none rest
    else
      match continuation? n with
      | some next => decodeFrom (some (leadingBits n next.count, next)) rest
      | none => replacement :: decodeFrom none rest

def decodeUtf8 (octets : List UInt8) : String := String.ofList (decodeFrom none octets)

end Armature.Text
