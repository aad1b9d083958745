/-!
The shortest decimal of a binary floating-point number: of the decimals that round to the number
those with the fewest digits, and of these the nearest one.
-/

namespace Armature

/-- The number `digits * 10 ^ exponent`. -/
structure Decimal where
  digits : Nat
  exponent : Int
  deriving DecidableEq

namespace Decimal

/-- The numbers `(4 * mantissa - below) * 2 ^ (exponent - 2)` to `(4 * mantissa + 2) * 2 ^ (exponent - 2)`
are those that round to `mantissa * 2 ^ exponent`; the two ends do so when the mantissa is even. -/
structure Binary where
  mantissa : Nat
  exponent : Int
  /-- 1 when the next number below is half as far away as the next one above, and 2 otherwise. -/
  below : Nat

def leadingBit : Nat := 0x10000000000000

def Binary.ofFloat (x : Float) : Binary :=
  let bits : Nat := x.toBits.toNat
  let fraction := bits % leadingBit
  let biased : Nat := bits / leadingBit % 2048
  if biased = 0 then ⟨fraction, -1074, 2⟩
  else ⟨leadingBit + fraction, (biased : Int) - 1075, if fraction = 0 && biased ≠ 1 then 1 else 2⟩

/-- Which of two decimals to take when a number lies exactly between them. -/
inductive Tie
  | even
  | up

def quotient (a : Nat) (e t : Int) : Nat × Nat :=
  (a * Nat.pow 2 e.toNat * Nat.pow 10 t.toNat, Nat.pow 2 (-e).toNat * Nat.pow 10 (-t).toNat)

def Binary.leadingExponent (b : Binary) : Int :=
  let reaches (k : Int) : Bool :=
    let (value, unit) := quotient b.mantissa b.exponent (-k)
    unit ≤ value
  let guess := (b.exponent + b.mantissa.log2) * 30103 / 100000
  if reaches (guess + 1) then guess + 1 else if reaches guess then guess else guess - 1

/-- The multiple of `10 ^ t` that is nearest to the number among those that round to it, if there is
one. The candidates are the two neighbours of the number. -/
def Binary.nearestMultiple? (b : Binary) (tie : Tie) (t : Int) : Option Nat :=
  let (value, unit) := quotient (4 * b.mantissa) (b.exponent - 2) (-t)
  let step := (quotient 1 (b.exponent - 2) (-t)).1
  let lower := value / unit
  let upper := lower + 1
  let even := b.mantissa % 2 == 0
  let inside (gap reach : Nat) : Bool := gap < reach || (gap == reach && even)
  let gapDown := value - lower * unit
  let gapUp := upper * unit - value
  match inside gapDown (b.below * step), inside gapUp (2 * step) with
  | false, false => none
  | true, false => some lower
  | false, true => some upper
  | true, true =>
    if gapDown < gapUp then some lower
    else if gapUp < gapDown then some upper
    else
      match tie with
      | .even => some (if lower % 2 = 0 then lower else upper)
      | .up => some upper

/-- The first multiple that is found on the grids of `digits`, `digits + 1`, … digits, of which
`grids` are tried. -/
def Binary.search (b : Binary) (tie : Tie) (leading : Int) : (digits grids : Nat) → Decimal
  | _, 0 => ⟨0, 0⟩
  | digits, grids + 1 =>
    let t := leading - digits + 1
    match b.nearestMultiple? tie t with
    | some n => ⟨n, t⟩
    | none => b.search tie leading (digits + 1) grids

def strip (d : Decimal) : Decimal :=
  if h : d.digits ≠ 0 ∧ d.digits % 10 = 0 then strip ⟨d.digits / 10, d.exponent + 1⟩ else d
termination_by d.digits
decreasing_by exact Nat.div_lt_self (Nat.pos_of_ne_zero h.1) (by decide)

/-- The shortest decimal of the absolute value of a finite number. Seventeen digits always suffice. -/
def shortest (tie : Tie) (x : Float) : Decimal :=
  let b := Binary.ofFloat x
  if b.mantissa = 0 then ⟨0, 0⟩ else (b.search tie b.leadingExponent 1 17).strip

end Decimal

end Armature
