/-!
Collections of entities that have ids of their own, in the order in which the ids came in.
-/

namespace Armature

class Identified (α : Type) where
  id : α → String

/-- Entities with distinct ids, in the order in which the ids came in. -/
structure Roster (α : Type) [Identified α] where
  toList : List α
  nodup : (toList.map Identified.id).Nodup

namespace Roster

variable {α : Type} [Identified α]

def empty : Roster α := ⟨[], List.nodup_nil⟩

instance : Inhabited (Roster α) := ⟨empty⟩

def size (r : Roster α) : Nat := r.toList.length

def ids (r : Roster α) : List String := r.toList.map Identified.id

def get? (r : Roster α) (id : String) : Option α := r.toList.find? (Identified.id · == id)

def contains (r : Roster α) (id : String) : Bool := (r.get? id).isSome

theorem mem_ids {r : Roster α} {id : String} : id ∈ r.ids ↔ ∃ a ∈ r.toList, Identified.id a = id := by
  simp [ids]

theorem contains_iff {r : Roster α} {id : String} : r.contains id ↔ id ∈ r.ids := by
  simp [contains, get?, mem_ids]

theorem mem_ids_of_get? {r : Roster α} {id : String} {a : α} (h : r.get? id = some a) :
    id ∈ r.ids := by
  rw [← contains_iff, contains, h]; rfl

theorem id_of_get? {r : Roster α} {id : String} {a : α} (h : r.get? id = some a) :
    Identified.id a = id := by
  simpa using List.find?_some h

def replaceIn (a : α) (l : List α) : List α :=
  l.map fun b => if Identified.id b = Identified.id a then a else b

theorem map_id_replaceIn (a : α) (l : List α) :
    (replaceIn a l).map Identified.id = l.map Identified.id := by
  simp only [replaceIn, List.map_map]
  refine List.map_congr_left fun b _ => ?_
  by_cases h : Identified.id b = Identified.id a <;> simp [h]

/-- The roster with one more entity: in the place of the one with its id, or else at the end. -/
def insert (r : Roster α) (a : α) : Roster α :=
  if h : Identified.id a ∈ r.ids then
    ⟨replaceIn a r.toList, by rw [map_id_replaceIn]; exact r.nodup⟩
  else
    ⟨r.toList ++ [a], by
      simp only [List.map_append, List.map_cons, List.map_nil]
      refine List.nodup_append.2 ⟨r.nodup, by simp, ?_⟩
      rintro x hx y hy rfl
      exact h (List.mem_singleton.1 hy ▸ hx)⟩

/-- The roster with one more entity ahead of all others, unless its id is taken. -/
def insertFirst (r : Roster α) (a : α) : Roster α :=
  if h : Identified.id a ∈ r.ids then r
  else ⟨a :: r.toList, List.nodup_cons.2 ⟨h, r.nodup⟩⟩

def ofList (l : List α) : Roster α := l.foldl insert empty

def map (r : Roster α) (f : α → α) (h : ∀ a, Identified.id (f a) = Identified.id a) : Roster α :=
  ⟨r.toList.map f, by
    have : (r.toList.map f).map Identified.id = r.toList.map Identified.id := by
      simp [Function.comp_def, h]
    rw [this]; exact r.nodup⟩

def modify (r : Roster α) (id : String) (f : α → α) (h : ∀ a, Identified.id (f a) = Identified.id a) :
    Roster α :=
  r.map (fun a => if Identified.id a = id then f a else a) fun a => by
    by_cases ha : Identified.id a = id <;> simp [ha, h]

end Roster

end Armature
