/-!
The number of nodes that a walk has not passed, which bounds a walk that passes none twice.
-/

namespace Armature

variable {α : Type} [DecidableEq α]

/-- The number of nodes that are not among those passed. -/
def room (nodes passed : List α) : Nat := (nodes.filter (· ∉ passed)).length

theorem room_cons_lt {nodes passed : List α} {a : α} (ha : a ∈ nodes) (hp : a ∉ passed) :
    room nodes (a :: passed) < room nodes passed := by
  have hsub : nodes.filter (· ∉ a :: passed) = (nodes.filter (· ∉ passed)).filter (· ≠ a) := by
    rw [List.filter_filter]
    refine List.filter_congr fun x _ => ?_
    by_cases hx : x = a <;> simp [hx, hp]
  rw [room, room, hsub]
  exact List.length_filter_lt_length_iff_exists.2 ⟨a, by simpa using ⟨ha, hp⟩, by simp⟩

end Armature
