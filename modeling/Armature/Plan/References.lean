import Armature.Plan.OfModel
import Mathlib.Data.Nat.Notation
/-!
The table of what parent references name in a snapshot. Both kinds of marks are entered in one pass,
and yet an id counts before all names.
-/

namespace Armature.Plan

variable {K : Type}

/-- A name is entered if it is new, and an id in any case. -/
def enter (table : Std.HashMap String ℕ) (entry : Live.Bone K × ℕ) : Std.HashMap String ℕ :=
  let named := table.insertIfNew entry.1.name entry.2
  match entry.1.id with
  | some id => named.insert id entry.2
  | none => named

def references (live : List (Live.Bone K)) : Std.HashMap String ℕ := live.zipIdx.foldl enter ∅

end Armature.Plan
