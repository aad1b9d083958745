import Armature.Fault
import Armature.Geometry.Motion
import Armature.Spec.Basic
/-!
Copies of cubes. Directives are carried out in order, and a directive may copy the copies made by
those before it.
-/

namespace Armature.Model

variable {K : Type} [Scalar K]

/-- A copy of a cube under an identity and at a place of its own, both of which count as set by the
caller. -/
def Cube.copy (source : Cube K) (id name : String) (lower upper origin rotation : Vec3 K) : Cube K :=
  { source with
    id, name, lower, upper, origin, rotation
    originAnchor := none
    centerAnchor := none
    explicit :=
      { source.explicit with id := true, name := true, bounds := true, origin := true,
                             rotation := true } }

/-- The copy that a mirror makes. The reflected corners change places on the axis. -/
def Cube.mirrored (source : Cube K) (m : Spec.Mirror K) : Cube K :=
  let a := Scalar.reflect (source.lower.get m.axis) m.offset
  let b := Scalar.reflect (source.upper.get m.axis) m.offset
  source.copy (m.newId.getD (source.id ++ "_mirror")) (m.newName.getD (source.name ++ "_mirror"))
    (source.lower.set m.axis (Scalar.least a b)) (source.upper.set m.axis (Scalar.greatest a b))
    (source.origin.reflect m.axis m.offset) (source.rotation.reflectAngles m.axis)

def copyId (stem : String) (number : Nat) : String := s!"{stem}_{number}"

def Cube.shifted (source : Cube K) (r : Spec.Repetition K) (number : Nat) : Cube K :=
  let shift := r.delta.scale (Scalar.ofNat number)
  let id := copyId (r.idStem.getD (source.id ++ "_repeat")) number
  source.copy id id (source.lower + shift) (source.upper + shift) (source.origin + shift)
    source.rotation

/-- The direction in which a copy lies whose source lies on the axis. -/
def fallbackDirection : Axis → Vec3 K
  | .x => Vec3.zero.set .y Scalar.one
  | .y | .z => Vec3.zero.set .x Scalar.one

/-- The center of the copies before they are turned: that of the source, moved away from the axis or
towards it until it is at the radius. -/
def Cube.radialStart (source : Cube K) (r : Spec.Radial K) : Vec3 K :=
  let offset := source.center - r.center
  let planar := offset.set r.axis Scalar.zero
  let planar :=
    match r.radius with
    | none => planar
    | some radius =>
      if Scalar.lt Scalar.tolerance planar.length then planar.scale (radius / planar.length)
      else (fallbackDirection r.axis).scale radius
  r.center + planar.set r.axis (offset.get r.axis)

def Cube.turned (source : Cube K) (r : Spec.Radial K) (id : String) (angle : K) : Cube K :=
  let half := source.extent.scale Scalar.half
  let center := (source.radialStart r).rotate r.axis r.center angle
  let origin := center + (source.origin - source.center).rotate r.axis .zero angle
  source.copy id id (center - half) (center + half) origin
    (source.rotation.set r.axis (source.rotation.get r.axis + angle))

def radialAngle (r : Spec.Radial K) (position : Nat) : K :=
  r.startAngle.getD Scalar.zero + Scalar.ofNat 360 / Scalar.ofNat r.count * Scalar.ofNat position

structure Expansion (K : Type) where
  source : String
  count : Nat
  copies : Cube K → List (Cube K)

def expansion? : Spec.Directive K → Except String (Expansion K)
  | .mirror m => .ok ⟨m.source, 1, fun source => [source.mirrored m]⟩
  | .repetition r =>
    .ok ⟨r.source, r.count, fun source =>
      (List.range r.count).map fun position => source.shifted r (position + 1)⟩
  | .radial r =>
    .ok ⟨r.source, r.count, fun source =>
      (List.range r.count).map fun position =>
        source.turned r (copyId (r.idStem.getD (source.id ++ "_radial")) (position + 1))
          (radialAngle r position)⟩
  | .unknown type _ => .error type

/-- Cubes with the copies made so far, and the directives passed over. -/
structure Copying (K : Type) where
  cubes : Cubes K
  warnings : List Warning := []

/-- Appends a copy, whose id has to be new. -/
def addCopy (index : Nat) (cubes : Cubes K) (cube : Cube K) : Except (Fault K) (Cubes K) :=
  if cubes.contains cube.id then .error (.duplicateCopy index cube.id) else .ok (cubes.insert cube)

def Copying.carryOut (maxCubes : Nat) (c : Copying K) (directive : Spec.Directive K × Nat) :
    Except (Fault K) (Copying K) :=
  let index := directive.2
  match expansion? directive.1 with
  | .error type => .ok { c with warnings := c.warnings ++ [.unknownDirective index type] }
  | .ok expansion =>
    match c.cubes.get? expansion.source with
    | none => .error (.unknownSource index expansion.source)
    | some source =>
      let total := c.cubes.size + expansion.count
      if expansion.count = 0 then .error (.zeroCount index)
      else if maxCubes < total then .error (.tooManyCubes total maxCubes)
      else do
        let cubes ← (expansion.copies source).foldlM (addCopy index) c.cubes
        return { c with cubes }

def expand (maxCubes : Nat) (directives : List (Spec.Directive K)) (cubes : Cubes K) :
    Except (Fault K) (Copying K) :=
  directives.zipIdx.foldlM (Copying.carryOut maxCubes) { cubes }

end Armature.Model
