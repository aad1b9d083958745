import Armature.Decimal.Shortest
/-!
How a number is written out: where the point stands, and when an exponent is used.
-/

namespace Armature.Decimal

structure Layout where
  /-- The least exponent of a first digit that is still written without an exponent. -/
  plainFrom : Int
  /-- The least exponent of a first digit that is too large to be written without an exponent. -/
  plainBelow : Int
  /-- Whether a whole number written without an exponent ends in `.0`. -/
  keepsPoint : Bool
  /-- Whether a positive exponent has a sign. -/
  plusSign : Bool
  tie : Tie

def Layout.json : Layout := ⟨-5, 16, true, true, .even⟩

/-- Numbers in messages: never with an exponent, which no number needs within these limits. -/
def Layout.message : Layout := ⟨-400, 400, false, false, .up⟩

/-- Numbers in messages that show them as written in source text. -/
def Layout.literal : Layout := ⟨-4, 16, true, false, .up⟩

def zeros (n : Nat) : String := String.ofList (List.replicate n '0')

def Layout.plain (layout : Layout) (d : Decimal) : String :=
  let digits := toString d.digits
  if 0 ≤ d.exponent then
    digits ++ zeros (if d.digits = 0 then 0 else d.exponent.toNat) ++ if layout.keepsPoint then ".0" else ""
  else
    let places := (-d.exponent).toNat
    if places < digits.length then
      let whole := digits.length - places
      String.ofList (digits.toList.take whole) ++ "." ++ String.ofList (digits.toList.drop whole)
    else "0." ++ zeros (places - digits.length) ++ digits

def Layout.scientific (layout : Layout) (d : Decimal) : String :=
  let digits := (toString d.digits).toList
  let exponent := d.exponent + digits.length - 1
  let fraction := String.ofList (digits.drop 1)
  String.ofList (digits.take 1) ++ (if fraction.isEmpty then "" else "." ++ fraction) ++ "e"
    ++ (if exponent < 0 then "-" else if layout.plusSign then "+" else "") ++ toString exponent.natAbs

def Layout.text (layout : Layout) (x : Float) : String :=
  if x.isNaN then "NaN"
  else
    let negative := x.toBits >>> 63 == 1
    let sign := if negative then "-" else ""
    if x.isInf then sign ++ "inf"
    else
      let d := shortest layout.tie x
      let first := d.exponent + (toString d.digits).length - 1
      sign ++
        if d.digits = 0 || (layout.plainFrom ≤ first && first < layout.plainBelow) then layout.plain d
        else layout.scientific d

end Armature.Decimal
