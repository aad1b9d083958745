import Armature.Geometry.Json
import Armature.Json.Canonical
import Armature.Model.Basic
/-!
Models in JSON: two objects, with the ids of the entities as keys.
-/

namespace Armature.Model

open Json (member member?)

def BoneFlags.toJson (f : BoneFlags) : Json :=
  .object
    [("id", .bool f.id), ("name", .bool f.name), ("parent", .bool f.parent),
      ("pivot", .bool f.pivot), ("rotation", .bool f.rotation), ("scale", .bool f.scale),
      ("visibility", .bool f.visibility)]

def CubeFlags.toJson (f : CubeFlags) : Json :=
  .object
    [("id", .bool f.id), ("name", .bool f.name), ("parent", .bool f.parent),
      ("bounds", .bool f.bounds), ("origin", .bool f.origin), ("rotation", .bool f.rotation),
      ("inflate", .bool f.inflate), ("mirror", .bool f.mirror), ("visibility", .bool f.visibility),
      ("boxUv", .bool f.boxUv), ("uvOffset", .bool f.uvOffset)]

def Bone.toJson (b : Bone Float) : Json :=
  Json.record
    [member "id" (.text b.id),
      member "name" (.text b.name),
      member? "parentId" .text b.parent,
      member "pivot" b.pivot.toJson,
      member? "pivotAnchorId" .text b.pivotAnchor,
      member "rotation" b.rotation.toJson,
      member "scale" b.scale.toJson,
      member? "visibility" .bool b.visibility,
      member "explicit" b.explicit.toJson]

def Cube.toJson (c : Cube Float) : Json :=
  Json.record
    [member "id" (.text c.id),
      member "name" (.text c.name),
      member "parentId" (.text c.parent),
      member "from" c.lower.toJson,
      member "to" c.upper.toJson,
      member "origin" c.origin.toJson,
      member? "originAnchorId" .text c.originAnchor,
      member? "centerAnchorId" .text c.centerAnchor,
      member "rotation" c.rotation.toJson,
      member? "inflate" Json.ofFloat c.inflate,
      member? "mirror" .bool c.mirror,
      member? "visibility" .bool c.visibility,
      member? "boxUv" .bool c.boxUv,
      member? "uvOffset" Vec2.toJson c.uvOffset,
      member "explicit" c.explicit.toJson]

def toJson (m : Model Float) : Json :=
  .object
    [("bones", .object (m.bones.toList.map fun b => (b.id, b.toJson))),
      ("cubes", .object (m.cubes.toList.map fun c => (c.id, c.toJson)))]

def digest (m : Model Float) : String := m.toJson.digest

end Armature.Model
