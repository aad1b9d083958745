import Armature.Geometry.Bounds
import Armature.Json.Reader
/-!
Vectors, axes and boxes in JSON: a vector is the array of its coordinates, an axis its name.
-/

namespace Armature

open Json (FieldReader Reader)

namespace Vec3

def fields : List (FieldReader (Vec3 Float)) :=
  [.mandatory "x" Reader.float fun a x => { a with x },
    .mandatory "y" Reader.float fun a y => { a with y },
    .mandatory "z" Reader.float fun a z => { a with z }]

def reader : Reader (Vec3 Float)
  | .array items closed => Reader.positions closed fields zero items
  | other => Reader.refuse other

def toJson (a : Vec3 Float) : Json := .array (a.toList.map Json.ofFloat)

end Vec3

namespace Vec2

def fields : List (FieldReader (Vec2 Float)) :=
  [.mandatory "u" Reader.float fun a u => { a with u },
    .mandatory "v" Reader.float fun a v => { a with v }]

def reader : Reader (Vec2 Float)
  | .array items closed => Reader.positions closed fields zero items
  | other => Reader.refuse other

def toJson (a : Vec2 Float) : Json := .array (a.toList.map Json.ofFloat)

end Vec2

namespace Axis

def reader : Reader Axis := Reader.choice ofName?

def toJson (axis : Axis) : Json := .text axis.name

end Axis

namespace Bounds

def fields : List (FieldReader (Bounds Float)) :=
  [.mandatory "min" Vec3.reader fun b min => { b with min },
    .mandatory "max" Vec3.reader fun b max => { b with max }]

def reader : Reader (Bounds Float) := Reader.record fields .refuse ⟨.zero, .zero⟩

def toJson (b : Bounds Float) : Json :=
  Json.record [Json.member "min" b.min.toJson, Json.member "max" b.max.toJson]

end Bounds

end Armature
