import Armature.Fault
import Armature.Graph.Postorder
import Armature.Spec.Basic
/-!
Positions that come from anchors. An anchor takes its point from a bone or a cube, which may itself
be placed by an anchor; so the order in which positions are settled is found first, and then each
one is computed from those before it.
-/

namespace Armature.Model

variable {K : Type}

def anchor? (anchors : List (Spec.Anchor K)) (id : String) : Option (Spec.Anchor K × Nat) :=
  anchors.zipIdx.find? fun (anchor, _) => anchor.id == id

def targetNode : Spec.Target → Node
  | .bone id => .bone id
  | .cube id => .cube id

def needed (anchors : List (Spec.Anchor K)) (bones : Bones K) (cubes : Cubes K) :
    Node → Except (Fault K) (List Node)
  | .anchor id =>
    match anchor? anchors id with
    | none => .error (.unknownAnchor id)
    | some (anchor, index) =>
      match anchor.target with
      | .bone target =>
        if bones.contains target then .ok [.bone target]
        else .error (.unknownTarget index id .bone target)
      | .cube target =>
        if cubes.contains target then .ok [.cube target]
        else .error (.unknownTarget index id .cube target)
  | .bone id =>
    match bones.get? id with
    | none => .error (.unknownEntity .bone id)
    | some bone => .ok (bone.pivotAnchor.toList.map .anchor)
  | .cube id =>
    match cubes.get? id with
    | none => .error (.unknownEntity .cube id)
    | some cube => .ok ((cube.centerAnchor.toList ++ cube.originAnchor.toList).map .anchor)

def positions (anchors : List (Spec.Anchor K)) (bones : Bones K) (cubes : Cubes K) :
    Needs Node (Fault K) where
  nodes := bones.ids.map .bone ++ cubes.ids.map .cube ++ anchors.map fun anchor => .anchor anchor.id
  of := needed anchors bones cubes
  mem_of_ok := by
    rintro (id | id | id) l h
    · simp only [needed, anchor?] at h
      split at h
      · cases h
      · next anchor index hf =>
        have hid : anchor.id = id := by simpa using List.find?_some hf
        have hm := List.fst_mem_of_mem_zipIdx (List.mem_of_find?_eq_some hf)
        simp only [List.mem_append, List.mem_map]
        exact Or.inr ⟨anchor, hm, by rw [hid]⟩
    · simp only [needed] at h
      split at h
      · cases h
      · next bone hb => simp [Roster.mem_ids_of_get? hb]
    · simp only [needed] at h
      split at h
      · cases h
      · next cube hc => simp [Roster.mem_ids_of_get? hc]

/-- Bones and cubes of which some positions are settled, with the points of the anchors that are. -/
structure Anchored (K : Type) where
  bones : Bones K
  cubes : Cubes K
  points : List (String × Vec3 K) := []

variable [Scalar K]

/-- The point of a cube that an anchor on it is attached to: its origin if the caller placed it, and
else the center of its box. -/
def Cube.anchorPoint (c : Cube K) : Vec3 K := if c.explicit.origin then c.origin else c.center

/-- The cube with the center of its box at a point. An origin that the caller did not place goes
along. -/
def Cube.centerAt (c : Cube K) (point : Vec3 K) : Cube K :=
  let half := c.extent.scale Scalar.half
  { c with
    lower := point - half
    upper := point + half
    origin := if c.explicit.origin then c.origin else point }

def Cube.originAt (c : Cube K) (point : Vec3 K) : Cube K := { c with origin := point }

def Cube.placeAt (c : Cube K) (center origin : Option (Vec3 K)) : Cube K :=
  let c := center.elim c c.centerAt
  origin.elim c c.originAt

theorem Cube.id_placeAt (c : Cube K) (center origin : Option (Vec3 K)) :
    (c.placeAt center origin).id = c.id := by
  cases center <;> cases origin <;> rfl

namespace Anchored

def point? (a : Anchored K) (id : String) : Option (Vec3 K) := a.points.lookup id

def base (a : Anchored K) : Spec.Target → Vec3 K
  | .bone id => (a.bones.get? id).elim .zero Bone.pivot
  | .cube id => (a.cubes.get? id).elim .zero Cube.anchorPoint

/-- Settles one position, those it needs being settled. -/
def settle (anchors : List (Spec.Anchor K)) (a : Anchored K) : Node → Anchored K
  | .anchor id =>
    match anchor? anchors id with
    | none => a
    | some (anchor, _) =>
      { a with points := (id, a.base anchor.target + anchor.offset.getD .zero) :: a.points }
  | .bone id =>
    let place (bone : Bone K) : Bone K :=
      { bone with pivot := (bone.pivotAnchor.bind a.point?).getD bone.pivot }
    { a with bones := a.bones.modify id place fun _ => rfl }
  | .cube id =>
    let place (cube : Cube K) : Cube K :=
      cube.placeAt (cube.centerAnchor.bind a.point?) (cube.originAnchor.bind a.point?)
    { a with cubes := a.cubes.modify id place fun cube => cube.id_placeAt _ _ }

end Anchored

def checkAnchors : (earlier : List String) → (rest : List (Spec.Anchor K × Nat)) →
    Except (Fault K) Unit
  | _, [] => .ok ()
  | earlier, (anchor, index) :: rest =>
    if earlier.contains anchor.id then .error (.duplicateAnchor index anchor.id)
    else checkAnchors (anchor.id :: earlier) rest

/-- Settles all positions: those of bones first, then those of cubes, then those of anchors that
place nothing. -/
def resolveAnchors (spec : Spec K) (bones : Bones K) (cubes : Cubes K) :
    Except (Fault K) (Bones K × Cubes K) := do
  if spec.anchors.isEmpty then
    if spec.referencesAnchors then throw .anchorsRequired
    return (bones, cubes)
  checkAnchors [] spec.anchors.zipIdx
  let graph := positions spec.anchors bones cubes
  let order ← graph.order .anchorCycle graph.nodes
  let settled := order.foldl (Anchored.settle spec.anchors) { bones, cubes }
  return (settled.bones, settled.cubes)

end Armature.Model
