import Armature.Fault
import Armature.Identity
/-!
What the entries of a spec stand for: each one alone, with defaults for what the caller did not set,
and all of them merged over the starter rig.
-/

namespace Armature

variable {K : Type} [Scalar K]

/-- The parent of entries that name none. -/
def Spec.Policy.parent? (policy : Spec.Policy K) : Option String :=
  policy.defaultParent <|> if policy.enforceRoot then some rootId else none

/-- The id and the name of an entry. A blank name counts as none; an entry without a name is called
like its id. -/
def Spec.identify (policy : IdPolicy) (kind : Kind) (index : Nat) (id name parent : Option String) :
    Except (Fault K) (String × String) :=
  let name := name.filter fun name => !Text.isBlank name
  match name <|> id.filter fun id => !Text.isBlank id with
  | none => .error (.unnamed kind index)
  | some label =>
    match Identity.resolve? policy kind id parent label with
    | none => .error (.missingId kind index label)
    | some id => .ok (id, name.getD id)

namespace Spec.Bone

def flags (entry : Bone K) : Model.BoneFlags :=
  { id := entry.id.isSome, name := entry.name.isSome, parent := entry.parent.isSome,
    pivot := entry.pivot.isSome || entry.pivotAnchor.isSome, rotation := entry.rotation.isSome,
    scale := entry.scale.isSome, visibility := entry.visibility.isSome }

/-- The bone of an entry. A default parent never makes a bone its own parent. -/
def resolve (policy : Policy K) (index : Nat) (entry : Bone K) : Except (Fault K) (Model.Bone K) := do
  let parent := entry.parent <|> policy.parent?
  let (id, name) ← identify policy.idPolicy .bone index entry.id entry.name parent
  return {
    id, name
    parent := if entry.parent.isNone && parent == some id then none else parent
    pivot := entry.pivot.getD .zero
    pivotAnchor := entry.pivotAnchor
    rotation := entry.rotation.getD .zero
    scale := entry.scale.getD .one
    visibility := entry.visibility
    explicit := entry.flags }

end Spec.Bone

namespace Spec.Cube

def flags (entry : Cube K) : Model.CubeFlags :=
  { id := entry.id.isSome, name := entry.name.isSome, parent := entry.parent.isSome,
    bounds := entry.lower.isSome || entry.center.isSome || entry.size.isSome
      || entry.centerAnchor.isSome,
    origin := entry.origin.isSome || entry.originAnchor.isSome, rotation := entry.rotation.isSome,
    inflate := entry.inflate.isSome, mirror := entry.mirror.isSome,
    visibility := entry.visibility.isSome, boxUv := entry.boxUv.isSome,
    uvOffset := entry.uvOffset.isSome }

/-- The center of a box that is given by its size. One that an anchor will move may be anywhere. -/
def center? (entry : Cube K) : Option (Vec3 K) :=
  entry.center <|> if entry.centerAnchor.isSome then some .zero else none

def box? (entry : Cube K) : Option (Vec3 K × Vec3 K) :=
  match entry.lower, entry.upper with
  | some lower, some upper => some (lower, upper)
  | _, _ => do
    let center ← entry.center?
    let size ← entry.size
    let half := size.scale Scalar.half
    return (center - half, center + half)

def resolve (policy : Policy K) (index : Nat) (entry : Cube K) : Except (Fault K) (Model.Cube K) := do
  let parent? := entry.parent <|> policy.parent?
  let (id, name) ← identify policy.idPolicy .cube index entry.id entry.name parent?
  let some parent := parent? | throw (.unattached index id)
  let some (lower, upper) := entry.box? | throw (.missingBox index id)
  return {
    id, name, parent, lower, upper
    origin := entry.origin.getD (Vec3.center lower upper)
    originAnchor := entry.originAnchor
    centerAnchor := entry.centerAnchor
    rotation := entry.rotation.getD .zero
    inflate := entry.inflate
    mirror := entry.mirror
    visibility := entry.visibility
    boxUv := entry.boxUv
    uvOffset := entry.uvOffset
    explicit := entry.flags }

end Spec.Cube

namespace Template

/-- The bones of a starter rig, in none of which the caller set anything. -/
def modelBones (template : Template) : Model.Bones K :=
  .ofList (template.bones.map fun bone =>
    { Model.Bone.ofId bone.id bone.parent with pivot := bone.pivot })

def modelCubes (template : Template) : Model.Cubes K :=
  .ofList (template.cubes.map fun cube => .ofBox cube.id cube.parent cube.lower cube.upper)

end Template

namespace Model

structure Merge (α : Type) [Identified α] where
  roster : Roster α
  entered : List String := []
  warnings : List Warning := []

/-- One more entry. Two entries have different ids; an entry with an id of the starter rig takes its
place, with a warning. -/
def Merge.add {α : Type} [Identified α] (kind : Kind) (m : Merge α) (index : Nat) (a : α) :
    Except (Fault K) (Merge α) :=
  let id := Identified.id a
  if m.entered.contains id then .error (.duplicateId kind index id)
  else
    let warnings :=
      if m.roster.contains id then [Warning.templateOverridden kind index id] else []
    .ok ⟨m.roster.insert a, id :: m.entered, m.warnings ++ warnings⟩

def mergeEntries {α ε : Type} [Identified α] (kind : Kind)
    (resolve : Nat → ε → Except (Fault K) α) (start : Roster α) (entries : List ε) :
    Except (Fault K) (Merge α) :=
  entries.zipIdx.foldlM
    (fun m (entry, index) => do
      let a ← resolve index entry
      m.add kind index a)
    { roster := start }

end Model

end Armature
