import Armature.Model.Hierarchy
import Mathlib.Data.Nat.Notation
/-!
The ranks of bones: a climb from each bone in turn ranks what it has passed, from the top down. A
parent that is not among the bones is ranked as well.
-/

namespace Armature.Model

variable {K : Type}

theorem mem_ids_of_parent {bones : Bones K} {id parent : String}
    (h : (bones.get? id).bind Bone.parent = some parent) : id ∈ bones.ids := by
  obtain ⟨bone, hbone, -⟩ := Option.bind_eq_some_iff.mp h
  exact Roster.mem_ids_of_get? hbone

/-- Climbs from `id` for as long as there is a parent, up to what has a rank or was passed before. The
ids passed come out with the last one first. -/
def ascend (bones : Bones K) (table : Std.HashMap String ℕ) (passed : List String) (id : String) :
    List String :=
  if hp : id ∈ table ∨ id ∈ passed then passed
  else
    match h : (bones.get? id).bind Bone.parent with
    | none => id :: passed
    | some parent =>
      have := room_cons_lt (mem_ids_of_parent h) (not_or.mp hp).2
      ascend bones table (id :: passed) parent
termination_by room bones.ids passed

def enrol (table : Std.HashMap String ℕ) (id : String) : Std.HashMap String ℕ :=
  table.insert id table.size

def rankFrom (bones : Bones K) (table : Std.HashMap String ℕ) (ids : List String) :
    Std.HashMap String ℕ :=
  ids.foldl (fun table id => (ascend bones table [] id).foldl enrol table) table

def ranks (bones : Bones K) : Std.HashMap String ℕ := rankFrom bones ∅ bones.ids

end Armature.Model
