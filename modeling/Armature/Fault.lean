import Armature.Geometry.Bounds
import Armature.Limits
import Armature.Model.Basic
/-!
What can be wrong with a spec, or with a plan for the live model. A fault is a cause; its code, text,
path and remedy are functions of it.
-/

namespace Armature

/-- Something whose position may depend on an anchor. -/
inductive Node
  | anchor (id : String)
  | bone (id : String)
  | cube (id : String)
  deriving DecidableEq

namespace Node

def kindName : Node → String
  | anchor _ => "anchor"
  | bone _ => "bone"
  | cube _ => "cube"

def id : Node → String
  | anchor id | bone id | cube id => id

def text (node : Node) : String := s!"{node.kindName}:{node.id}"

end Node

def Kind.collection : Kind → String
  | bone => "bones"
  | cube => "cubes"

inductive Fault (K : Type)
  | badGrid (grid : K)
  | badBounds (bounds : Bounds K)
  /-- An entry has neither an id nor a name. -/
  | unnamed (kind : Kind) (index : Nat)
  /-- An entry has no id, and the policy makes none. -/
  | missingId (kind : Kind) (index : Nat) (label : String)
  | duplicateId (kind : Kind) (index : Nat) (id : String)
  | duplicateAnchor (index : Nat) (id : String)
  /-- A copy has the id of a cube that is there. -/
  | duplicateCopy (index : Nat) (id : String)
  | duplicateName (kind : Kind) (name first second : String)
  /-- A cube has neither two corners nor a center and a size. -/
  | missingBox (index : Nat) (id : String)
  /-- A cube hangs from no bone. -/
  | unattached (index : Nat) (id : String)
  | unknownParent (kind : Kind) (id parent : String)
  /-- Bones are parents of each other: each id in the chain but the first is the parent of the one
  before it, and the last one occurs twice. -/
  | parentCycle (chain : List String)
  /-- Anchors are referenced, but there are none. -/
  | anchorsRequired
  | unknownAnchor (id : String)
  | unknownTarget (index : Nat) (anchor : String) (kind : Kind) (target : String)
  /-- A position is asked for of an entity that is not there. -/
  | unknownEntity (kind : Kind) (id : String)
  /-- The position of a node depends on itself. The nodes are those under way when it was met again,
  the first one first. -/
  | anchorCycle (underWay : List Node) (node : Node)
  | zeroCount (index : Nat)
  | unknownSource (index : Nat) (source : String)
  | tooManyCubes (count limit : Nat)
  | tooManyBones (count : Nat) (limits : Limits)
  /-- An entity is live already, where everything has to be created. -/
  | alreadyExists (kind : Kind) (id : String)
  /-- An entity is not live, where nothing may be created. -/
  | notFound (kind : Kind) (id : String)

namespace Fault

variable {K : Type}

def code : Fault K → String
  | badGrid _ | badBounds _ | unnamed .. | zeroCount _ => "R001"
  | missingId .. => "R002"
  | duplicateId .. | duplicateAnchor .. | duplicateCopy .. => "R003"
  | duplicateName .. => "R004"
  | missingBox .. => "R005"
  | unattached .. | unknownParent .. => "R006"
  | parentCycle _ => "R007"
  | anchorsRequired => "R008"
  | unknownAnchor _ => "R009"
  | unknownTarget .. | unknownEntity .. => "R010"
  | anchorCycle .. => "R011"
  | unknownSource .. => "R012"
  | tooManyCubes .. => "R013"
  | tooManyBones .. => "R014"
  | alreadyExists .. => "R015"
  | notFound .. => "R016"

def category : Fault K → String
  | alreadyExists .. | notFound .. => "invalid_state"
  | _ => "invalid_payload"

def path : Fault K → Option String
  | badGrid _ => some "policy.snapGrid"
  | badBounds _ => some "policy.bounds"
  | unnamed kind index => some s!"{kind.collection}[{index}]"
  | missingId kind index _ => some s!"{kind.collection}[{index}].id"
  | duplicateId kind index _ => some s!"{kind.collection}[{index}].id"
  | duplicateAnchor index _ => some s!"anchors[{index}].id"
  | duplicateCopy index _ => some s!"instances[{index}]"
  | missingBox index _ => some s!"cubes[{index}]"
  | unattached index _ => some s!"cubes[{index}].parentId"
  | anchorsRequired => some "anchors"
  | unknownTarget index _ _ _ => some s!"anchors[{index}].target"
  | zeroCount index => some s!"instances[{index}].count"
  | unknownSource index _ => some s!"instances[{index}].sourceId"
  | _ => none

def remedy : Fault K → Option String
  | missingId .. => some "set idPolicy to stable_path/hash or supply all ids"
  | duplicateCopy .. => some "set newId or idPrefix to an unused value"
  | missingBox .. => some "supply both from and to, or both center and size"
  | unattached .. => some "set parentId, policy.defaultParentId, or enable policy.enforceRoot"
  | unknownParent .bone _ _ => some "declare the parent bone or enable policy.enforceRoot"
  | unknownParent .cube _ _ => some "declare the bone or point parentId at an existing bone"
  | anchorsRequired => some "define every referenced anchor id in the anchors array"
  | unknownAnchor _ => some "add the anchor to the anchors array or fix the reference"
  | anchorCycle .. => some "break the loop so no anchor depends on its own position"
  | tooManyCubes .. => some "reduce cubes or instance counts, or raise the cube limit"
  | alreadyExists .. => some "use merge or replace mode to update existing entities"
  | notFound .. => some "use merge mode to create missing entities"
  | _ => none

end Fault

end Armature
