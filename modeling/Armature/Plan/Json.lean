import Armature.Json.Canonical
import Armature.Live.Json
import Armature.Plan.Basic
/-!
Plans in JSON. An operation is an object that says its kind ahead of its other members.
-/

namespace Armature

open Json (FieldReader Outline ReadError Reader member member?)

namespace Plan

namespace BoneChanges

def fields : List (FieldReader (BoneChanges Float)) :=
  [.unset "id" Reader.text fun c id => { c with id },
    .unset "name" Reader.text fun c name => { c with name },
    .unset "parentId" Reader.text fun c parent => { c with parent },
    .unset "pivot" Vec3.reader fun c pivot => { c with pivot },
    .unset "rotation" Vec3.reader fun c rotation => { c with rotation },
    .unset "scale" Vec3.reader fun c scale => { c with scale },
    .unset "visibility" Reader.bool fun c visibility => { c with visibility }]

def reader : Reader (BoneChanges Float) := Reader.record fields .ignore {}

def toJson (c : BoneChanges Float) : Json :=
  Json.record
    [member? "id" .text c.id,
      member? "name" .text c.name,
      member? "parentId" .text c.parent,
      member? "pivot" Vec3.toJson c.pivot,
      member? "rotation" Vec3.toJson c.rotation,
      member? "scale" Vec3.toJson c.scale,
      member? "visibility" .bool c.visibility]

end BoneChanges

namespace CubeChanges

def fields : List (FieldReader (CubeChanges Float)) :=
  [.unset "id" Reader.text fun c id => { c with id },
    .unset "name" Reader.text fun c name => { c with name },
    .unset "parentId" Reader.text fun c parent => { c with parent },
    .unset "from" Vec3.reader fun c lower => { c with lower },
    .unset "to" Vec3.reader fun c upper => { c with upper },
    .unset "origin" Vec3.reader fun c origin => { c with origin },
    .unset "rotation" Vec3.reader fun c rotation => { c with rotation },
    .unset "inflate" Reader.float fun c inflate => { c with inflate },
    .unset "mirror" Reader.bool fun c mirror => { c with mirror },
    .unset "visibility" Reader.bool fun c visibility => { c with visibility },
    .unset "boxUv" Reader.bool fun c boxUv => { c with boxUv },
    .unset "uvOffset" Vec2.reader fun c uvOffset => { c with uvOffset }]

def reader : Reader (CubeChanges Float) := Reader.record fields .ignore {}

def toJson (c : CubeChanges Float) : Json :=
  Json.record
    [member? "id" .text c.id,
      member? "name" .text c.name,
      member? "parentId" .text c.parent,
      member? "from" Vec3.toJson c.lower,
      member? "to" Vec3.toJson c.upper,
      member? "origin" Vec3.toJson c.origin,
      member? "rotation" Vec3.toJson c.rotation,
      member? "inflate" Json.ofFloat c.inflate,
      member? "mirror" .bool c.mirror,
      member? "visibility" .bool c.visibility,
      member? "boxUv" .bool c.boxUv,
      member? "uvOffset" Vec2.toJson c.uvOffset]

end CubeChanges

structure Update (γ : Type) where
  id : Option String := none
  name : String := ""
  changes : γ
  moves : Bool := false

def Update.fields {γ : Type} (changes : Reader γ) (moves : String) : List (FieldReader (Update γ)) :=
  [.unset "id" Reader.text fun u id => { u with id },
    .mandatory "name" Reader.text fun u name => { u with name },
    .mandatory "changes" changes fun u changes => { u with changes },
    .defaulted moves Reader.bool fun u moves => { u with moves }]

def deletionFields : List (FieldReader (Option String × String)) :=
  [.unset "id" Reader.text fun d id => (id, d.2),
    .mandatory "name" Reader.text fun d name => (d.1, name)]

def moves? (key : String) (moves : Bool) : Option (String × Json) :=
  if moves then some (key, .bool true) else none

namespace Op

def readBody (kind : OpKind) (body : Outline) : Except ReadError (Op Float) :=
  match kind with
  | .createBone =>
    createBone <$> Reader.record [.mandatory "bone" Live.Bone.reader fun _ bone => bone] .ignore
      (.named "") body
  | .createCube =>
    createCube <$> Reader.record [.mandatory "cube" Live.Cube.reader fun _ cube => cube] .ignore
      (.named "") body
  | .updateBone => do
    let u ← Reader.record (Update.fields BoneChanges.reader "parentRoot") .ignore { changes := {} } body
    return updateBone u.id u.name u.changes u.moves
  | .updateCube => do
    let u ← Reader.record (Update.fields CubeChanges.reader "boneRoot") .ignore { changes := {} } body
    return updateCube u.id u.name u.changes u.moves
  | .deleteBone => do
    let (id, name) ← Reader.record deletionFields .ignore (none, "") body
    return deleteBone id name
  | .deleteCube => do
    let (id, name) ← Reader.record deletionFields .ignore (none, "") body
    return deleteCube id name

def readKind : Reader OpKind := fun outline => do
  let name ← Reader.text outline
  (OpKind.ofName? name).elim (.error .mismatch) .ok

/-- Splits the members of an operation into its kind and the others, all of which are taken in before
they are looked at. -/
def splitMembers (closed : Bool) : (kind : Option OpKind) → List (Option String × Outline) →
    Except ReadError (Option OpKind × List (Option String × Outline))
  | kind, [] => if closed then .ok (kind, []) else .error .malformed
  | _, (none, _) :: _ => .error .malformed
  | kind, (some key, value) :: rest =>
    if key = "op" then
      if kind.isSome then .error .mismatch
      else do
        let kind ← readKind value
        splitMembers closed (some kind) rest
    else do
      let _ ← Reader.raw value
      let (kind, others) ← splitMembers closed kind rest
      return (kind, (some key, value) :: others)

/-- A problem with what has been taken in is one of its shape. -/
def settleShape {α : Type} : Except ReadError α → Except ReadError α
  | .ok a => .ok a
  | .error _ => .error .mismatch

/-- An object with its kind among its members, or an array with its kind ahead of its members. -/
def reader : Reader (Op Float)
  | .object members closed => do
    let (kind, others) ← splitMembers closed none members
    match kind with
    | none => throw .mismatch
    | some kind => settleShape (readBody kind (.object others true))
  | .array [] closed => .error (if closed then .mismatch else .malformed)
  | .array (first :: rest) closed => do
    let kind ← readKind first
    let _ ← Reader.raw (.array rest closed)
    settleShape (readBody kind (.array rest true))
  | other => Reader.refuse other

def toJson (op : Op Float) : Json :=
  Json.record <| member "op" (.text op.kind.name) ::
    match op with
    | createBone bone => [member "bone" bone.toJson]
    | createCube cube => [member "cube" cube.toJson]
    | updateBone id name changes toTop =>
      [member? "id" .text id, member "name" (.text name), member "changes" changes.toJson,
        moves? "parentRoot" toTop]
    | updateCube id name changes toRoot =>
      [member? "id" .text id, member "name" (.text name), member "changes" changes.toJson,
        moves? "boneRoot" toRoot]
    | deleteBone id name | deleteCube id name =>
      [member? "id" .text id, member "name" (.text name)]

end Op

namespace Summary

def limit : Nat := UInt64.size - 1

def fields : List (FieldReader Summary) :=
  [.mandatory "createBone" (Reader.count limit) fun s createBone => { s with createBone },
    .mandatory "updateBone" (Reader.count limit) fun s updateBone => { s with updateBone },
    .mandatory "deleteBone" (Reader.count limit) fun s deleteBone => { s with deleteBone },
    .mandatory "createCube" (Reader.count limit) fun s createCube => { s with createCube },
    .mandatory "updateCube" (Reader.count limit) fun s updateCube => { s with updateCube },
    .mandatory "deleteCube" (Reader.count limit) fun s deleteCube => { s with deleteCube },
    .mandatory "bones" (Reader.count limit) fun s bones => { s with bones },
    .mandatory "cubes" (Reader.count limit) fun s cubes => { s with cubes },
    .mandatory "total" (Reader.count limit) fun s total => { s with total }]

def reader : Reader Summary := Reader.record fields .ignore {}

def toJson (s : Summary) : Json :=
  .object
    [("createBone", .ofNat s.createBone), ("updateBone", .ofNat s.updateBone),
      ("deleteBone", .ofNat s.deleteBone), ("createCube", .ofNat s.createCube),
      ("updateCube", .ofNat s.updateCube), ("deleteCube", .ofNat s.deleteCube),
      ("bones", .ofNat s.bones), ("cubes", .ofNat s.cubes), ("total", .ofNat s.total)]

end Summary

def fields : List (FieldReader (Plan Float)) :=
  [.mandatory "ops" (Reader.list Op.reader) fun p ops => { p with ops },
    .mandatory "summary" Summary.reader fun p summary => { p with summary },
    .unset "revision" Reader.text fun p revision => { p with revision }]

def reader : Reader (Plan Float) := Reader.record fields .ignore ⟨[], {}, none⟩

def opsJson (p : Plan Float) : Json := .array (p.ops.map Op.toJson)

def toJson (p : Plan Float) : Json :=
  Json.record
    [member "ops" p.opsJson,
      member "summary" p.summary.toJson,
      member? "revision" .text p.revision]

def ofText (s : String) : Except ReadError (Plan Float) := Json.readText reader s

def ofJson (value : Json) : Except ReadError (Plan Float) := Json.readValue reader value

def digest (p : Plan Float) : String := p.opsJson.digest

end Plan

end Armature
