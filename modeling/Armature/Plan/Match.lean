import Armature.Fault
import Armature.Plan.Basic
/-!
Matching: which live entity a desired one stands for. Desired entities claim live ones in turn, each
one by its id or else by its name, and a live entity is claimed once.
-/

namespace Armature

class Named (β : Type) where
  id? : β → Option String
  name : β → String

instance {K : Type} : Named (Live.Bone K) := ⟨Live.Bone.id, Live.Bone.name⟩

instance {K : Type} : Named (Live.Cube K) := ⟨Live.Cube.id, Live.Cube.name⟩

class Desired (α : Type) extends Identified α where
  name : α → String

instance {K : Type} : Desired (Model.Bone K) := ⟨Model.Bone.name⟩

instance {K : Type} : Desired (Model.Cube K) := ⟨Model.Cube.name⟩

namespace Plan

structure Slot (β : Type) where
  index : Nat
  entity : β

def slots {β : Type} (live : List β) : List (Slot β) :=
  live.zipIdx.map fun (entity, index) => ⟨index, entity⟩

variable {α β : Type} [Desired α] [Named β]

/-- The live entity that a desired one claims among those that are free. -/
def claim? (a : α) (free : List (Slot β)) : Option (Slot β) :=
  (free.find? fun slot => Named.id? slot.entity == some (Identified.id a)) <|>
    free.find? fun slot => Named.name slot.entity == Desired.name a

structure Matching (α β : Type) where
  pairs : List (α × Option (Slot β))
  free : List (Slot β)

def matchUp (free : List (Slot β)) : List α → Matching α β
  | [] => ⟨[], free⟩
  | a :: rest =>
    match claim? a free with
    | none =>
      let m := matchUp free rest
      ⟨(a, none) :: m.pairs, m.free⟩
    | some slot =>
      let m := matchUp (free.filter (·.index ≠ slot.index)) rest
      ⟨(a, some slot) :: m.pairs, m.free⟩

/-- Whether the mode allows what the matching found; a fault names the first entity that it does not
allow. -/
def Mode.check {K : Type} (mode : Mode) (kind : Kind) (m : Matching α β) : Except (Fault K) Unit :=
  match mode with
  | .create =>
    match m.pairs.find? (·.2.isSome) with
    | some (a, _) => .error (.alreadyExists kind (Identified.id a))
    | none => .ok ()
  | .patch =>
    match m.pairs.find? (·.2.isNone) with
    | some (a, _) => .error (.notFound kind (Identified.id a))
    | none => .ok ()
  | .merge | .replace => .ok ()

/-- Whether a live entity that nobody claimed is left over: its id is not desired, or its name if it
has no id. -/
def isOrphan (desired : List α) (b : β) : Bool :=
  match Named.id? b with
  | some id => !desired.any (Identified.id · == id)
  | none => !desired.any (Desired.name · == Named.name b)

def Matching.orphans (desired : List α) (m : Matching α β) : List (Slot β) :=
  m.free.filter fun slot => isOrphan desired slot.entity

end Plan

end Armature
