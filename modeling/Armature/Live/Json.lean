import Armature.Geometry.Json
import Armature.Live.Basic
/-!
Snapshots in JSON. Members that no field names are passed over.
-/

namespace Armature

open Json (FieldReader Reader member member?)

namespace Live

namespace Bone

def fields : List (FieldReader (Bone Float)) :=
  [.unset "id" Reader.text fun b id => { b with id },
    .mandatory "name" Reader.text fun b name => { b with name },
    .unset "parentId" Reader.text fun b parent => { b with parent },
    .defaulted "pivot" Vec3.reader fun b pivot => { b with pivot },
    .defaulted "rotation" Vec3.reader fun b rotation => { b with rotation },
    .defaulted "scale" Vec3.reader fun b scale => { b with scale },
    .unset "visibility" Reader.bool fun b visibility => { b with visibility }]

def reader : Reader (Bone Float) := Reader.record fields .ignore (named "")

def toJson (b : Bone Float) : Json :=
  Json.record
    [member? "id" .text b.id,
      member "name" (.text b.name),
      member? "parentId" .text b.parent,
      member "pivot" b.pivot.toJson,
      member "rotation" b.rotation.toJson,
      member "scale" b.scale.toJson,
      member? "visibility" .bool b.visibility]

end Bone

namespace Cube

def fields : List (FieldReader (Cube Float)) :=
  [.unset "id" Reader.text fun c id => { c with id },
    .mandatory "name" Reader.text fun c name => { c with name },
    .unset "parentId" Reader.text fun c parent => { c with parent },
    .mandatory "from" Vec3.reader fun c lower => { c with lower },
    .mandatory "to" Vec3.reader fun c upper => { c with upper },
    .unset "origin" Vec3.reader fun c origin => { c with origin },
    .defaulted "rotation" Vec3.reader fun c rotation => { c with rotation },
    .unset "inflate" Reader.float fun c inflate => { c with inflate },
    .unset "mirror" Reader.bool fun c mirror => { c with mirror },
    .unset "visibility" Reader.bool fun c visibility => { c with visibility },
    .unset "boxUv" Reader.bool fun c boxUv => { c with boxUv },
    .unset "uvOffset" Vec2.reader fun c uvOffset => { c with uvOffset }]

def reader : Reader (Cube Float) := Reader.record fields .ignore (named "")

def toJson (c : Cube Float) : Json :=
  Json.record
    [member? "id" .text c.id,
      member "name" (.text c.name),
      member? "parentId" .text c.parent,
      member "from" c.lower.toJson,
      member "to" c.upper.toJson,
      member? "origin" Vec3.toJson c.origin,
      member "rotation" c.rotation.toJson,
      member? "inflate" Json.ofFloat c.inflate,
      member? "mirror" .bool c.mirror,
      member? "visibility" .bool c.visibility,
      member? "boxUv" .bool c.boxUv,
      member? "uvOffset" Vec2.toJson c.uvOffset]

end Cube

def fields : List (FieldReader (Live Float)) :=
  [.defaulted "bones" (Reader.list Bone.reader) fun l bones => { l with bones },
    .defaulted "cubes" (Reader.list Cube.reader) fun l cubes => { l with cubes },
    .unset "revision" Reader.text fun l revision => { l with revision }]

def reader : Reader (Live Float) := Reader.record fields .ignore {}

def toJson (l : Live Float) : Json :=
  Json.record
    [member "bones" (.array (l.bones.map Bone.toJson)),
      member "cubes" (.array (l.cubes.map Cube.toJson)),
      member? "revision" .text l.revision]

def ofText (s : String) : Except Json.ReadError (Live Float) := Json.readText reader s

def ofJson (value : Json) : Except Json.ReadError (Live Float) := Json.readValue reader value

end Live

end Armature
