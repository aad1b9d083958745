import Armature.Scalar
/-!
Vectors of three coordinates: positions, extents, Euler angles in degrees, scales.
-/

namespace Armature

inductive Axis
  | x
  | y
  | z
  deriving DecidableEq

namespace Axis

def index : Axis → Nat
  | x => 0
  | y => 1
  | z => 2

def name : Axis → String
  | x => "x"
  | y => "y"
  | z => "z"

def all : List Axis := [x, y, z]

def ofName? (name : String) : Option Axis := all.find? (·.name == name)

end Axis

structure Vec3 (K : Type) where
  x : K
  y : K
  z : K
  deriving BEq, DecidableEq

structure Vec2 (K : Type) where
  u : K
  v : K
  deriving BEq, DecidableEq

namespace Vec3

variable {K : Type}

def get (a : Vec3 K) : Axis → K
  | .x => a.x
  | .y => a.y
  | .z => a.z

def set (a : Vec3 K) (axis : Axis) (value : K) : Vec3 K :=
  match axis with
  | .x => { a with x := value }
  | .y => { a with y := value }
  | .z => { a with z := value }

def map (f : K → K) (a : Vec3 K) : Vec3 K := ⟨f a.x, f a.y, f a.z⟩

def forall₂ (r : K → K → Bool) (a b : Vec3 K) : Bool := r a.x b.x && r a.y b.y && r a.z b.z

def toList (a : Vec3 K) : List K := [a.x, a.y, a.z]

def isFinite [Scalar K] (a : Vec3 K) : Bool := a.toList.all Scalar.isFinite

variable [Scalar K]

instance : Add (Vec3 K) := ⟨fun a b => ⟨a.x + b.x, a.y + b.y, a.z + b.z⟩⟩

instance : Sub (Vec3 K) := ⟨fun a b => ⟨a.x - b.x, a.y - b.y, a.z - b.z⟩⟩

def zero : Vec3 K := ⟨Scalar.zero, Scalar.zero, Scalar.zero⟩

def one : Vec3 K := ⟨Scalar.one, Scalar.one, Scalar.one⟩

def scale (a : Vec3 K) (factor : K) : Vec3 K := ⟨a.x * factor, a.y * factor, a.z * factor⟩

def length (a : Vec3 K) : K := Scalar.sqrt (a.x * a.x + a.y * a.y + a.z * a.z)

def near (a b : Vec3 K) : Bool := forall₂ Scalar.near a b

def center (lower upper : Vec3 K) : Vec3 K := (lower + upper).scale Scalar.half

def extent (lower upper : Vec3 K) : Vec3 K := upper - lower

end Vec3

namespace Vec2

variable {K : Type}

def toList (a : Vec2 K) : List K := [a.u, a.v]

variable [Scalar K]

def zero : Vec2 K := ⟨Scalar.zero, Scalar.zero⟩

def near (a b : Vec2 K) : Bool := Scalar.near a.u b.u && Scalar.near a.v b.v

def isFinite (a : Vec2 K) : Bool := a.toList.all Scalar.isFinite

end Vec2

end Armature
