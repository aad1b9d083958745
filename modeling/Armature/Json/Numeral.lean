import Armature.Json.Value
/-!
Numerals of JSON text, and the numbers they stand for. The digits are gathered in 64 bits, those that
no longer fit only count as places; the result is multiplied or divided by a power of ten, which
rounds a second time.
-/

namespace Armature.Json

structure Numeral where
  negative : Bool
  whole : List Nat
  fraction : List Nat
  exponent : Option Int

def spanDigits (cs : List Char) : List Nat × List Char :=
  ((cs.takeWhile Char.isDigit).map fun c => c.toNat - '0'.toNat, cs.dropWhile Char.isDigit)

def ofDigits (digits : List Nat) : Nat := digits.foldl (fun n digit => 10 * n + digit) 0

namespace Numeral

def scanWhole? (cs : List Char) : Option (List Nat × List Char) :=
  match spanDigits cs with
  | ([], _) => none
  | (0 :: _ :: _, _) => none
  | (digits, rest) => some (digits, rest)

def scanFraction? : List Char → Option (List Nat × List Char)
  | '.' :: cs =>
    match spanDigits cs with
    | ([], _) => none
    | (digits, rest) => some (digits, rest)
  | cs => some ([], cs)

def scanPower? (negative : Bool) (cs : List Char) : Option (Option Int × List Char) :=
  match spanDigits cs with
  | ([], _) => none
  | (digits, rest) =>
    let power : Int := ofDigits digits
    some (some (if negative then -power else power), rest)

def scanExponent? : List Char → Option (Option Int × List Char)
  | [] => some (none, [])
  | c :: cs =>
    if c = 'e' || c = 'E' then
      match cs with
      | '+' :: rest => scanPower? false rest
      | '-' :: rest => scanPower? true rest
      | rest => scanPower? false rest
    else some (none, c :: cs)

def scan? (cs : List Char) : Option (Numeral × List Char) := do
  let (negative, cs) := match cs with
    | '-' :: rest => (true, rest)
    | rest => (false, rest)
  let (whole, cs) ← scanWhole? cs
  let (fraction, cs) ← scanFraction? cs
  let (exponent, cs) ← scanExponent? cs
  return (⟨negative, whole, fraction, exponent⟩, cs)

/-- Appends digits to a number for as long as it fits into 64 bits; also the number of digits that
did. -/
def gather (significand : Nat) : (digits : List Nat) → (taken : Nat) → Nat × Nat
  | [], taken => (significand, taken)
  | digit :: rest, taken =>
    let next := 10 * significand + digit
    if next < UInt64.size then gather next rest (taken + 1) else (significand, taken)

/-- `x * 10 ^ power`, if that is not beyond the largest number. -/
def shift? (x : Float) (power : Int) : Option Float :=
  if power.natAbs ≤ 308 then
    let unit := Float.ofScientific 1 false power.natAbs
    if 0 ≤ power then
      let product := x * unit
      if product.isInf then none else some product
    else some (x / unit)
  else if x == 0 then some x
  else if 0 ≤ power then none
  else shift? (x / Float.ofScientific 1 false 308) (power + 308)
termination_by power.natAbs

/-- The largest exponent that is read as such. -/
def exponentLimit : Nat := UInt32.size / 2 - 1

def magnitude? (n : Numeral) : Option Float :=
  let (significand, taken) := gather 0 n.whole 0
  let (significand, places) := gather significand n.fraction 0
  let dropped : Int := n.whole.length - taken
  let power := n.exponent.getD 0
  if exponentLimit < power.natAbs then
    if significand ≠ 0 ∧ 0 < power then none else some 0
  else shift? significand.toUInt64.toFloat (dropped - places + power)

/-- The number that a numeral stands for: a whole one if it is written as one and fits into 64 bits,
with the exception of a negative zero. There is none beyond the largest floating-point number. -/
def number? (n : Numeral) : Option Number :=
  let whole := ofDigits n.whole
  let sign (x : Float) : Number := .float (if n.negative then -x else x)
  if n.fraction.isEmpty && n.exponent.isNone && whole < UInt64.size then
    if !n.negative then some (.integer whole)
    else if whole = 0 ∨ UInt64.size / 2 < whole then some (sign whole.toUInt64.toFloat)
    else some (.integer (-whole))
  else n.magnitude?.map sign

end Numeral

end Armature.Json
