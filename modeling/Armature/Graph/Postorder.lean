import Armature.Graph.Room
/-!
Depth-first order of a finite graph: every node after the nodes it needs. A walk fails at the first
node that is not well-formed, and at the first node that is met while it is still under way.
-/

namespace Armature

structure Needs (α ε : Type) where
  nodes : List α
  /-- The nodes that a node needs, in the order in which they are visited. -/
  of : α → Except ε (List α)
  mem_of_ok : ∀ {a l}, of a = .ok l → a ∈ nodes

namespace Needs

variable {α ε : Type} [DecidableEq α]

/-- Visits a node: `settled` holds the nodes in order, the last one first, and `underWay` those on
the way to this node, the nearest one first. A node that is met again is reported with them. -/
def visit (g : Needs α ε) (cycle : List α → α → ε) (underWay : List α) (settled : List α) (a : α) :
    Except ε (List α) :=
  if a ∈ settled then .ok settled
  else
    match h : g.of a with
    | .error e => .error e
    | .ok needed =>
      if hu : a ∈ underWay then .error (cycle underWay.reverse a)
      else
        have := room_cons_lt (g.mem_of_ok h) hu
        (needed.foldlM (fun settled b => g.visit cycle (a :: underWay) settled b) settled).map (a :: ·)
termination_by room g.nodes underWay

def order (g : Needs α ε) (cycle : List α → α → ε) (starts : List α) : Except ε (List α) :=
  (starts.foldlM (fun settled a => g.visit cycle [] settled a) []).map List.reverse

end Needs

end Armature
