import Armature.Model.Ranks
import Armature.Plan.OfModel
import Mathlib.Data.Prod.Lex
/-!
The order of a plan as a sort by keys: by group, then by the rank of a desired bone or by how deep a
live one is, then by the kind of operation.
-/

namespace Armature

/-- Sorts by a key. What has the same key stays in order. -/
def sortedBy {α κ : Type} [LE κ] [DecidableLE κ] (key : α → κ) (l : List α) : List α :=
  l.mergeSort fun a b => key a ≤ key b

namespace Plan

variable {K : Type}

/-- What the place of an operation depends on. -/
inductive Pending.Subject
  | desiredBone (id : String)
  | liveBone (index : ℕ)
  | cube

/-- An operation that has come up and is not in its place yet. -/
structure Pending (K : Type) where
  op : Op K
  subject : Pending.Subject

/-- The key of an operation. Depths are taken from a number that none of them is above, so that the
deepest bone comes first. -/
def Pending.key (greatest : ℕ) (ranks : Std.HashMap String ℕ) (links : Array (Option ℕ))
    (p : Pending K) : ℕ ×ₗ ℕ ×ₗ ℕ :=
  let kind := p.op.kind
  match kind, p.subject with
  | .createBone, .desiredBone id | .updateBone, .desiredBone id =>
    toLex (0, toLex (ranks[id]?.getD greatest, kind.priority))
  | .deleteBone, .liveBone index => toLex (3, toLex (greatest - depth links index, kind.priority))
  | .deleteCube, _ => toLex (2, toLex (0, kind.priority))
  | _, _ => toLex (1, toLex (0, kind.priority))

def inPlace (greatest : ℕ) (bones : Model.Bones K) (live : List (Live.Bone K))
    (pending : List (Pending K)) : List (Op K) :=
  (sortedBy (Pending.key greatest (Model.ranks bones) (links live)) pending).map Pending.op

end Plan

end Armature
