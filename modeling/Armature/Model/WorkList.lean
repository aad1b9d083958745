import Armature.Model.Anchoring
/-!
Settling positions in a loop, with a list of work in the place of recursion: a node stays on the list
until all it needs is settled.
-/

namespace Armature.Model

variable {K : Type}

/-- A node on the list of work, and whether its turn has come before. -/
structure Frame where
  node : Node
  entered : Bool

/-- The positions as they are, with the bones and cubes that are settled and the nodes under way, the
nearest one first. -/
structure Resolver (K : Type) extends Anchored K where
  settledBones : List String := []
  settledCubes : List String := []
  underWay : List Node := []

inductive Turn (K : Type)
  | settled (r : Resolver K)
  | waits (r : Resolver K) (node : Node)

namespace Resolver

def knows (r : Resolver K) : Node → Bool
  | .anchor id => (r.point? id).isSome
  | .bone id => r.settledBones.contains id
  | .cube id => r.settledCubes.contains id

def enter (r : Resolver K) (frame : Frame) : Except (Fault K) (Resolver K) :=
  if frame.entered then .ok r
  else if frame.node ∈ r.underWay then .error (.anchorCycle r.underWay.reverse frame.node)
  else .ok { r with underWay := frame.node :: r.underWay }

variable [Scalar K]

/-- Writes the position of a node, which is no longer under way. -/
def finish (anchors : List (Spec.Anchor K)) (r : Resolver K) (node : Node) : Resolver K :=
  { r.toAnchored.settle anchors node with
    settledBones := match node with
      | .bone id => id :: r.settledBones
      | _ => r.settledBones
    settledCubes := match node with
      | .cube id => id :: r.settledCubes
      | _ => r.settledCubes
    underWay := r.underWay.tail }

def await (anchors : List (Spec.Anchor K)) (r : Resolver K) (node : Node) (needed : List Node) :
    Turn K :=
  match needed.find? fun other => !r.knows other with
  | some other => .waits r other
  | none => .settled (r.finish anchors node)

def turn (anchors : List (Spec.Anchor K)) (r : Resolver K) (frame : Frame) :
    Except (Fault K) (Turn K) :=
  if r.knows frame.node then .ok (.settled r)
  else
    match frame.node with
    | .anchor id =>
      match anchor? anchors id with
      | none => .error (.unknownAnchor id)
      | some (anchor, index) => do
        let r ← r.enter frame
        match anchor.target with
        | .bone target =>
          if r.bones.contains target then .ok (r.await anchors (.anchor id) [.bone target])
          else .error (.unknownTarget index id .bone target)
        | .cube target =>
          if r.cubes.contains target then .ok (r.await anchors (.anchor id) [.cube target])
          else .error (.unknownTarget index id .cube target)
    | .bone id =>
      match r.bones.get? id with
      | none => .error (.unknownEntity .bone id)
      | some bone => do
        let r ← r.enter frame
        .ok (r.await anchors (.bone id) (bone.pivotAnchor.toList.map .anchor))
    | .cube id =>
      match r.cubes.get? id with
      | none => .error (.unknownEntity .cube id)
      | some cube => do
        let r ← r.enter frame
        .ok (r.await anchors (.cube id)
          ((cube.centerAnchor.toList ++ cube.originAnchor.toList).map .anchor))

end Resolver

variable [Scalar K]

/-- The loop over a list of work, the next frame first: a frame that is done leaves the list, and the
node that it waits for goes before it. -/
inductive Runs (anchors : List (Spec.Anchor K)) :
    List Frame → Resolver K → Except (Fault K) (Resolver K) → Prop
  | done {r : Resolver K} : Runs anchors [] r (.ok r)
  | settled {frame : Frame} {frames : List Frame} {r r' : Resolver K}
      {out : Except (Fault K) (Resolver K)} (hturn : r.turn anchors frame = .ok (.settled r'))
      (hrest : Runs anchors frames r' out) : Runs anchors (frame :: frames) r out
  | waits {frame : Frame} {frames : List Frame} {r r' : Resolver K} {node : Node}
      {out : Except (Fault K) (Resolver K)} (hturn : r.turn anchors frame = .ok (.waits r' node))
      (hrest : Runs anchors (⟨node, false⟩ :: ⟨frame.node, true⟩ :: frames) r' out) :
      Runs anchors (frame :: frames) r out
  | fails {frame : Frame} {frames : List Frame} {r : Resolver K} {fault : Fault K}
      (hturn : r.turn anchors frame = .error fault) : Runs anchors (frame :: frames) r (.error fault)

inductive RunsAll (anchors : List (Spec.Anchor K)) :
    List Node → Resolver K → Except (Fault K) (Resolver K) → Prop
  | done {r : Resolver K} : RunsAll anchors [] r (.ok r)
  | next {node : Node} {nodes : List Node} {r r' : Resolver K}
      {out : Except (Fault K) (Resolver K)} (hrun : Runs anchors [⟨node, false⟩] r (.ok r'))
      (hrest : RunsAll anchors nodes r' out) : RunsAll anchors (node :: nodes) r out
  | fails {node : Node} {nodes : List Node} {r : Resolver K} {fault : Fault K}
      (hrun : Runs anchors [⟨node, false⟩] r (.error fault)) :
      RunsAll anchors (node :: nodes) r (.error fault)

/-- How the loops end that settle all bones, then all cubes, then all anchors. -/
def LoopEnds (spec : Spec K) (bones : Bones K) (cubes : Cubes K)
    (out : Except (Fault K) (Bones K × Cubes K)) : Prop :=
  match checkAnchors [] spec.anchors.zipIdx with
  | .error fault => out = .error fault
  | .ok () => ∃ last, RunsAll spec.anchors (positions spec.anchors bones cubes).nodes
      { bones, cubes } last ∧ out = last.map fun r => (r.bones, r.cubes)

end Armature.Model
