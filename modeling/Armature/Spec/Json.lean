import Armature.Geometry.Json
import Armature.Json.Printer
import Armature.Spec.Basic
/-!
Specs in JSON. A member that no field names is refused, except in a directive of unknown type.
-/

namespace Armature

open Json (FieldReader Reader member member?)

namespace IdPolicy

def reader : Reader IdPolicy := Reader.choice ofName?

end IdPolicy

namespace Template

def reader : Reader Template := Reader.choice ofName?

end Template

namespace Spec

namespace Policy

def fields : List (FieldReader (Policy Float)) :=
  [.defaulted "idPolicy" IdPolicy.reader fun p idPolicy => { p with idPolicy },
    .unset "defaultParentId" Reader.text fun p defaultParent => { p with defaultParent },
    .defaulted "enforceRoot" Reader.bool fun p enforceRoot => { p with enforceRoot },
    .unset "snapGrid" Reader.float fun p snapGrid => { p with snapGrid },
    .unset "bounds" Bounds.reader fun p bounds => { p with bounds }]

def reader : Reader (Policy Float) := Reader.record fields .refuse {}

def toJson (p : Policy Float) : Json :=
  Json.record
    [member "idPolicy" (.text p.idPolicy.name),
      member? "defaultParentId" .text p.defaultParent,
      member "enforceRoot" (.bool p.enforceRoot),
      member? "snapGrid" Json.ofFloat p.snapGrid,
      member? "bounds" Bounds.toJson p.bounds]

end Policy

namespace Bone

def fields : List (FieldReader (Bone Float)) :=
  [.unset "id" Reader.text fun b id => { b with id },
    .unset "name" Reader.text fun b name => { b with name },
    .unset "parentId" Reader.text fun b parent => { b with parent },
    .unset "pivot" Vec3.reader fun b pivot => { b with pivot },
    .unset "pivotAnchorId" Reader.text fun b pivotAnchor => { b with pivotAnchor },
    .unset "rotation" Vec3.reader fun b rotation => { b with rotation },
    .unset "scale" Vec3.reader fun b scale => { b with scale },
    .unset "visibility" Reader.bool fun b visibility => { b with visibility }]

def reader : Reader (Bone Float) := Reader.record fields .refuse {}

def toJson (b : Bone Float) : Json :=
  Json.record
    [member? "id" .text b.id,
      member? "name" .text b.name,
      member? "parentId" .text b.parent,
      member? "pivot" Vec3.toJson b.pivot,
      member? "pivotAnchorId" .text b.pivotAnchor,
      member? "rotation" Vec3.toJson b.rotation,
      member? "scale" Vec3.toJson b.scale,
      member? "visibility" .bool b.visibility]

end Bone

namespace Cube

def fields : List (FieldReader (Cube Float)) :=
  [.unset "id" Reader.text fun c id => { c with id },
    .unset "name" Reader.text fun c name => { c with name },
    .unset "parentId" Reader.text fun c parent => { c with parent },
    .unset "from" Vec3.reader fun c lower => { c with lower },
    .unset "to" Vec3.reader fun c upper => { c with upper },
    .unset "center" Vec3.reader fun c center => { c with center },
    .unset "size" Vec3.reader fun c size => { c with size },
    .unset "origin" Vec3.reader fun c origin => { c with origin },
    .unset "originAnchorId" Reader.text fun c originAnchor => { c with originAnchor },
    .unset "centerAnchorId" Reader.text fun c centerAnchor => { c with centerAnchor },
    .unset "rotation" Vec3.reader fun c rotation => { c with rotation },
    .unset "inflate" Reader.float fun c inflate => { c with inflate },
    .unset "mirror" Reader.bool fun c mirror => { c with mirror },
    .unset "visibility" Reader.bool fun c visibility => { c with visibility },
    .unset "boxUv" Reader.bool fun c boxUv => { c with boxUv },
    .unset "uvOffset" Vec2.reader fun c uvOffset => { c with uvOffset }]

def reader : Reader (Cube Float) := Reader.record fields .refuse {}

def toJson (c : Cube Float) : Json :=
  Json.record
    [member? "id" .text c.id,
      member? "name" .text c.name,
      member? "parentId" .text c.parent,
      member? "from" Vec3.toJson c.lower,
      member? "to" Vec3.toJson c.upper,
      member? "center" Vec3.toJson c.center,
      member? "size" Vec3.toJson c.size,
      member? "origin" Vec3.toJson c.origin,
      member? "originAnchorId" .text c.originAnchor,
      member? "centerAnchorId" .text c.centerAnchor,
      member? "rotation" Vec3.toJson c.rotation,
      member? "inflate" Json.ofFloat c.inflate,
      member? "mirror" .bool c.mirror,
      member? "visibility" .bool c.visibility,
      member? "boxUv" .bool c.boxUv,
      member? "uvOffset" Vec2.toJson c.uvOffset]

end Cube

namespace Target

def boneFields : List (FieldReader String) := [.mandatory "boneId" Reader.text fun _ id => id]

def cubeFields : List (FieldReader String) := [.mandatory "cubeId" Reader.text fun _ id => id]

/-- A bone or else a cube. The text is read to the end before its shape is looked at. -/
def reader : Reader Target := fun outline => do
  let _ ← Reader.raw outline
  match Reader.record boneFields .refuse "" outline, Reader.record cubeFields .refuse "" outline with
  | .ok id, _ => return bone id
  | _, .ok id => return cube id
  | _, _ => throw .mismatch

def toJson : Target → Json
  | bone id => Json.record [member "boneId" (.text id)]
  | cube id => Json.record [member "cubeId" (.text id)]

end Target

namespace Anchor

def fields : List (FieldReader (Anchor Float)) :=
  [.mandatory "id" Reader.text fun a id => { a with id },
    .mandatory "target" Target.reader fun a target => { a with target },
    .unset "offset" Vec3.reader fun a offset => { a with offset }]

def reader : Reader (Anchor Float) :=
  Reader.record fields .refuse { id := "", target := .bone "" }

def toJson (a : Anchor Float) : Json :=
  Json.record
    [member "id" (.text a.id),
      member "target" a.target.toJson,
      member? "offset" Vec3.toJson a.offset]

end Anchor

/-- The axis of a directive. An empty object beside its name is as good as a `null`. -/
def axisReader : Reader Axis
  | .object [(key, .object [] true)] true => Axis.reader (.object [(key, .null)] true)
  | other => Axis.reader other

namespace Mirror

def fields : List (FieldReader (Mirror Float)) :=
  [.mandatory "sourceId" Reader.text fun m source => { m with source },
    .mandatory "axis" axisReader fun m axis => { m with axis },
    .defaulted "offset" Reader.float fun m offset => { m with offset },
    .unset "newId" Reader.text fun m newId => { m with newId },
    .unset "newName" Reader.text fun m newName => { m with newName }]

def blank : Mirror Float := { source := "", axis := .x, offset := 0 }

def members (m : Mirror Float) : List (Option (String × Json)) :=
  [member "sourceId" (.text m.source),
    member "axis" m.axis.toJson,
    member "offset" (.ofFloat m.offset),
    member? "newId" .text m.newId,
    member? "newName" .text m.newName]

end Mirror

def countLimit : Nat := UInt32.size - 1

namespace Repetition

def fields : List (FieldReader (Repetition Float)) :=
  [.mandatory "sourceId" Reader.text fun r source => { r with source },
    .mandatory "count" (Reader.count countLimit) fun r count => { r with count },
    .mandatory "delta" Vec3.reader fun r delta => { r with delta },
    .unset "idPrefix" Reader.text fun r idStem => { r with idStem }]

def blank : Repetition Float := { source := "", count := 0, delta := .zero }

def members (r : Repetition Float) : List (Option (String × Json)) :=
  [member "sourceId" (.text r.source),
    member "count" (.ofNat r.count),
    member "delta" r.delta.toJson,
    member? "idPrefix" .text r.idStem]

end Repetition

namespace Radial

def fields : List (FieldReader (Radial Float)) :=
  [.mandatory "sourceId" Reader.text fun r source => { r with source },
    .mandatory "count" (Reader.count countLimit) fun r count => { r with count },
    .mandatory "axis" axisReader fun r axis => { r with axis },
    .defaulted "center" Vec3.reader fun r center => { r with center },
    .unset "radius" Reader.float fun r radius => { r with radius },
    .unset "startAngle" Reader.float fun r startAngle => { r with startAngle },
    .unset "idPrefix" Reader.text fun r idStem => { r with idStem }]

def blank : Radial Float := { source := "", count := 0, axis := .x, center := .zero }

def members (r : Radial Float) : List (Option (String × Json)) :=
  [member "sourceId" (.text r.source),
    member "count" (.ofNat r.count),
    member "axis" r.axis.toJson,
    member "center" r.center.toJson,
    member? "radius" Json.ofFloat r.radius,
    member? "startAngle" Json.ofFloat r.startAngle,
    member? "idPrefix" .text r.idStem]

end Radial

namespace Directive

/-- A record that is read from all members of a value but its type. -/
def readKnown {σ : Type} (fields : List (FieldReader σ)) (blank : σ) (value : Json) :
    Except Json.ReadError σ :=
  match value with
  | .object members =>
    let others := members.filter fun member => member.1 ≠ "type"
    match Json.readValue (Reader.record fields .refuse blank) (.object others) with
    | .ok record => .ok record
    | .error _ => .error .mismatch
  | _ => .error .mismatch

/-- A directive is taken in as a value before its type is looked at. -/
def reader : Reader (Directive Float) := fun outline => do
  let value ← Reader.raw outline
  match value.get? "type" with
  | some (.text "mirror") => mirror <$> readKnown Mirror.fields Mirror.blank value
  | some (.text "repeat") => repetition <$> readKnown Repetition.fields Repetition.blank value
  | some (.text "radial") => radial <$> readKnown Radial.fields Radial.blank value
  | some (.text type) => return unknown type value
  | _ => throw .untyped

def typed (type : String) (members : List (Option (String × Json))) : Json :=
  Json.record (member "type" (.text type) :: members)

def toJson : Directive Float → Json
  | mirror m => typed "mirror" m.members
  | repetition r => typed "repeat" r.members
  | radial r => typed "radial" r.members
  | unknown _ value => value

end Directive

def fields : List (FieldReader (Spec Float)) :=
  [.defaulted "rigTemplate" Template.reader fun s template => { s with template },
    .defaulted "bones" (Reader.list Bone.reader) fun s bones => { s with bones },
    .defaulted "cubes" (Reader.list Cube.reader) fun s cubes => { s with cubes },
    .defaulted "anchors" (Reader.list Anchor.reader) fun s anchors => { s with anchors },
    .defaulted "instances" (Reader.list Directive.reader) fun s instances => { s with instances },
    .defaulted "policy" Policy.reader fun s policy => { s with policy }]

def reader : Reader (Spec Float) := Reader.record fields .refuse {}

def toJson (s : Spec Float) : Json :=
  Json.record
    [member "rigTemplate" (.text s.template.name),
      member "bones" (.array (s.bones.map Bone.toJson)),
      member "cubes" (.array (s.cubes.map Cube.toJson)),
      member "anchors" (.array (s.anchors.map Anchor.toJson)),
      member "instances" (.array (s.instances.map Directive.toJson)),
      member "policy" s.policy.toJson]

def ofText (s : String) : Except Json.ReadError (Spec Float) := Json.readText reader s

def ofJson (value : Json) : Except Json.ReadError (Spec Float) := Json.readValue reader value

def roundTrips (s : Spec Float) : Bool :=
  match ofText s.toJson.pretty with
  | .ok other => other == s
  | .error _ => false

end Spec

end Armature
