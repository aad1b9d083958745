/-!
The numbers that coordinates are made of. Everything computed on positions is written over `Scalar`,
so that one definition runs on binary floating point and is reasoned about in exact arithmetic.
-/

namespace Armature

/-- A number system for coordinates. Comparisons are Boolean: they say what a computation sees. -/
class Scalar (K : Type) extends Add K, Sub K, Mul K, Div K, Neg K where
  /-- The number `digits / 10 ^ places`, rounded where the system has to round. -/
  ofDecimal (digits places : Nat) : K
  lt (a b : K) : Bool
  le (a b : K) : Bool
  eq (a b : K) : Bool
  abs (a : K) : K
  /-- The nearest whole number; a half goes away from zero. -/
  round (a : K) : K
  sqrt (a : K) : K
  sin (degrees : K) : K
  cos (degrees : K) : K
  isFinite (a : K) : Bool

namespace Scalar

variable {K : Type} [Scalar K]

def ofNat (n : Nat) : K := ofDecimal n 0

def zero : K := ofNat 0

def one : K := ofNat 1

def two : K := ofNat 2

def half : K := ofDecimal 5 1

/-- The distance up to which two coordinates count as the same. -/
def tolerance : K := ofDecimal 1 4

def near (a b : K) : Bool := le (abs (a - b)) tolerance

/-- The smaller of two numbers, the first when neither is smaller; an operand that is not a number
gives way to the other one. -/
def least (a b : K) : K := if lt b a || !eq a a then b else a

/-- The larger of two numbers, with the rules of `least`. -/
def greatest (a b : K) : K := if lt a b || !eq a a then b else a

end Scalar

def radiansPerDegree : Float := 3.141592653589793 / 180

instance : Scalar Float where
  ofDecimal digits places := Float.ofScientific digits true places
  lt a b := decide (a < b)
  le a b := decide (a ≤ b)
  eq a b := a == b
  abs := Float.abs
  round := Float.round
  sqrt := Float.sqrt
  sin degrees := Float.sin (degrees * radiansPerDegree)
  cos degrees := Float.cos (degrees * radiansPerDegree)
  isFinite := Float.isFinite

end Armature
