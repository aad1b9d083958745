import Armature.Model.Roster
import Mathlib.Tactic

/-! Rosters as finite maps: what a look-up finds, and what each operation does to the entities and
their ids. -/

namespace Armature

lemma find?_key {α : Type} {key : α → String} {l : List α} {a : α} (h : (l.map key).Nodup)
    (ha : a ∈ l) : (l.find? fun b => key b == key a) = some a := by
  cases hb : l.find? fun b => key b == key a with
  | none => simpa using List.find?_eq_none.mp hb a ha
  | some b =>
    have hkey : key b = key a := by simpa using List.find?_some hb
    rw [List.inj_on_of_nodup_map h (List.mem_of_find?_eq_some hb) ha hkey]

lemma eq_of_filterMap_nodup {α β : Type} {key : α → Option β} {l : List α} {a b : α} {k : β}
    (h : (l.filterMap key).Nodup) (ha : a ∈ l) (hb : b ∈ l) (hka : key a = some k)
    (hkb : key b = some k) : a = b := by
  have hsymm : Std.Symm fun a b => ∀ x, key a = some x → ∀ y, key b = some y → x ≠ y :=
    ⟨fun a b hab x hx y hy hxy => hab y hy x hx hxy.symm⟩
  by_contra hne
  exact (List.pairwise_filterMap.mp h).forall ha hb hne k hka k hkb rfl

namespace Roster

variable {α β : Type} [Identified α] {r : Roster α} {a b : α} {id : String}

lemma mem_ids_of_mem (h : a ∈ r.toList) : Identified.id a ∈ r.ids := mem_ids.mpr ⟨a, h, rfl⟩

lemma eq_of_id_eq (ha : a ∈ r.toList) (hb : b ∈ r.toList)
    (h : Identified.id a = Identified.id b) : a = b :=
  List.inj_on_of_nodup_map r.nodup ha hb h

lemma get?_eq_some : r.get? id = some a ↔ a ∈ r.toList ∧ Identified.id a = id := by
  constructor
  · intro h
    exact ⟨List.mem_of_find?_eq_some h, id_of_get? h⟩
  · rintro ⟨ha, rfl⟩
    exact find?_key r.nodup ha

lemma get?_eq_none : r.get? id = none ↔ id ∉ r.ids := by
  rw [← contains_iff, contains, Option.not_isSome_iff_eq_none]

lemma toList_insert_of_not_mem (h : Identified.id a ∉ r.ids) :
    (r.insert a).toList = r.toList ++ [a] := by
  simp [insert, h]

lemma ids_insert_of_mem (h : Identified.id a ∈ r.ids) : (r.insert a).ids = r.ids := by
  rw [insert, dif_pos h]
  exact map_id_replaceIn a r.toList

lemma ids_insert_of_not_mem (h : Identified.id a ∉ r.ids) :
    (r.insert a).ids = r.ids ++ [Identified.id a] := by
  rw [ids, toList_insert_of_not_mem h, List.map_append]
  rfl

lemma mem_ids_insert : id ∈ (r.insert a).ids ↔ id = Identified.id a ∨ id ∈ r.ids := by
  by_cases h : Identified.id a ∈ r.ids
  · rw [ids_insert_of_mem h]
    refine (or_iff_right_of_imp ?_).symm
    rintro rfl
    exact h
  · rw [ids_insert_of_not_mem h, List.mem_append, List.mem_singleton, or_comm]

/-- Ids that are there keep their places, and new ones come in at the end. -/
lemma ids_foldl_insert {l : List α} (h : (l.map Identified.id).Nodup) :
    (l.foldl insert r).ids = r.ids ++ (l.map Identified.id).filter (· ∉ r.ids) := by
  induction l generalizing r with
  | nil => simp
  | cons a l ih =>
    obtain ⟨ha, hl⟩ := List.nodup_cons.mp h
    rw [List.foldl_cons, ih hl, List.map_cons]
    by_cases hid : Identified.id a ∈ r.ids
    · rw [ids_insert_of_mem hid, List.filter_cons_of_neg (by simpa using hid)]
    · have hnew : (l.map Identified.id).filter (· ∉ r.ids ++ [Identified.id a]) =
          (l.map Identified.id).filter (· ∉ r.ids) := by
        apply List.filter_congr
        intro id hm
        have hne : id ≠ Identified.id a := fun he => ha (he ▸ hm)
        simp [hne]
      rw [ids_insert_of_not_mem hid, List.filter_cons_of_pos (by simpa using hid), hnew,
        List.append_assoc]
      rfl

lemma toList_foldl_insert {l : List α} (h : (l.map Identified.id).Nodup)
    (hnew : ∀ a ∈ l, Identified.id a ∉ r.ids) : (l.foldl insert r).toList = r.toList ++ l := by
  induction l generalizing r with
  | nil => exact (List.append_nil _).symm
  | cons a l ih =>
    obtain ⟨ha, hl⟩ := List.nodup_cons.mp h
    obtain ⟨hid, hnew⟩ := List.forall_mem_cons.mp hnew
    have hnew' : ∀ b ∈ l, Identified.id b ∉ (r.insert a).ids := by
      intro b hb
      rw [mem_ids_insert, not_or]
      exact ⟨fun he => ha (he ▸ List.mem_map_of_mem hb), hnew b hb⟩
    rw [List.foldl_cons, ih hl hnew', toList_insert_of_not_mem hid, List.append_assoc]
    rfl

lemma toList_ofList {l : List α} (h : (l.map Identified.id).Nodup) : (ofList l).toList = l :=
  toList_foldl_insert h fun _ _ => List.not_mem_nil

lemma mem_insert :
    b ∈ (r.insert a).toList ↔ b = a ∨ b ∈ r.toList ∧ Identified.id b ≠ Identified.id a := by
  by_cases h : Identified.id a ∈ r.ids
  · obtain ⟨old, hold, hid⟩ := mem_ids.mp h
    simp only [insert, h, ↓reduceDIte, replaceIn, List.mem_map]
    constructor
    · rintro ⟨c, hc, rfl⟩
      split_ifs with hca
      · exact .inl rfl
      · exact .inr ⟨hc, hca⟩
    · rintro (rfl | ⟨hb, hne⟩)
      · exact ⟨old, hold, if_pos hid⟩
      · exact ⟨b, hb, if_neg hne⟩
  · have hne (hb : b ∈ r.toList) : Identified.id b ≠ Identified.id a := fun he =>
      h (he ▸ mem_ids_of_mem hb)
    rw [toList_insert_of_not_mem h, List.mem_append, List.mem_singleton]
    tauto

lemma mem_foldl_insert {l : List α} (h : (l.map Identified.id).Nodup) :
    b ∈ (l.foldl insert r).toList ↔
      b ∈ l ∨ b ∈ r.toList ∧ Identified.id b ∉ l.map Identified.id := by
  induction l generalizing r with
  | nil => simp
  | cons a l ih =>
    obtain ⟨ha, hl⟩ := List.nodup_cons.mp h
    rw [List.foldl_cons, ih hl, mem_insert, List.map_cons, List.mem_cons, List.mem_cons, not_or]
    constructor
    · rintro (hb | ⟨rfl | ⟨hb, hne⟩, hnew⟩)
      · exact .inl (.inr hb)
      · exact .inl (.inl rfl)
      · exact .inr ⟨hb, hne, hnew⟩
    · rintro ((rfl | hb) | ⟨hb, hne, hnew⟩)
      · exact .inr ⟨.inl rfl, ha⟩
      · exact .inl hb
      · exact .inr ⟨.inr ⟨hb, hne⟩, hnew⟩

lemma toList_nodup (r : Roster α) : r.toList.Nodup := r.nodup.of_map _

lemma foldl_insert_perm {l l' : List α} (h : (l.map Identified.id).Nodup) (hperm : l.Perm l') :
    (l.foldl insert r).toList.Perm (l'.foldl insert r).toList := by
  have h' : (l'.map Identified.id).Nodup := (hperm.map _).nodup_iff.mp h
  refine (List.perm_ext_iff_of_nodup (toList_nodup _) (toList_nodup _)).mpr fun b => ?_
  rw [mem_foldl_insert h, mem_foldl_insert h', hperm.mem_iff, (hperm.map _).mem_iff]

section Perm

variable {s : Roster α} (h : r.toList.Perm s.toList)

include h

lemma get?_perm : r.get? id = s.get? id := by
  refine Option.ext fun a => ?_
  rw [get?_eq_some, get?_eq_some, h.mem_iff]

lemma contains_perm : r.contains id = s.contains id := by rw [contains, contains, get?_perm h]

lemma ids_perm : r.ids.Perm s.ids := h.map _

lemma size_perm : r.size = s.size := h.length_eq

lemma insert_perm : (r.insert a).toList.Perm (s.insert a).toList := by
  refine (List.perm_ext_iff_of_nodup (toList_nodup _) (toList_nodup _)).mpr fun b => ?_
  rw [mem_insert, mem_insert, h.mem_iff]

lemma insertFirst_perm : (r.insertFirst a).toList.Perm (s.insertFirst a).toList := by
  have hids : Identified.id a ∈ r.ids ↔ Identified.id a ∈ s.ids := (ids_perm h).mem_iff
  by_cases ha : Identified.id a ∈ s.ids
  · simpa [insertFirst, ha, hids.mpr ha] using h
  · simpa [insertFirst, ha, hids.not.mpr ha] using h

end Perm

lemma mem_insertFirst :
    b ∈ (r.insertFirst a).toList ↔ b ∈ r.toList ∨ b = a ∧ Identified.id a ∉ r.ids := by
  by_cases h : Identified.id a ∈ r.ids
  · simp [insertFirst, h]
  · simp [insertFirst, h, or_comm]

lemma ids_insertFirst :
    (r.insertFirst a).ids = if Identified.id a ∈ r.ids then r.ids else Identified.id a :: r.ids := by
  unfold insertFirst
  split_ifs <;> rfl

lemma mem_ids_insertFirst : Identified.id a ∈ (r.insertFirst a).ids := by
  rw [ids_insertFirst]
  split_ifs with h
  · exact h
  · exact List.mem_cons_self

lemma map_toList_map {f : α → α} {h : ∀ a, Identified.id (f a) = Identified.id a} {g : α → β}
    (hg : ∀ a, g (f a) = g a) : (r.map f h).toList.map g = r.toList.map g := by
  simp [map, Function.comp_def, hg]

lemma map_toList_modify {f : α → α} {h : ∀ a, Identified.id (f a) = Identified.id a} {g : α → β}
    (hg : ∀ a, g (f a) = g a) : (r.modify id f h).toList.map g = r.toList.map g := by
  refine map_toList_map fun a => ?_
  split_ifs
  · exact hg a
  · rfl

lemma ext_of_toList {r s : Roster α} (h : r.toList = s.toList) : r = s := by
  obtain ⟨l, _⟩ := r
  obtain ⟨l', _⟩ := s
  obtain rfl : l = l' := h
  rfl

lemma filterMap_get?_ids (r : Roster α) : r.ids.filterMap r.get? = r.toList := by
  have hget : ∀ a ∈ r.toList, (r.get? ∘ Identified.id) a = some a := fun a ha =>
    get?_eq_some.mpr ⟨ha, rfl⟩
  rw [ids, List.filterMap_map, List.filterMap_congr hget, List.filterMap_some]

lemma toList_eq_map {s : Roster α} {f : α → α} (hids : s.ids = r.ids)
    (h : ∀ a ∈ r.toList, s.get? (Identified.id a) = some (f a)) : s.toList = r.toList.map f := by
  have hget : ∀ a ∈ r.toList, (s.get? ∘ Identified.id) a = (some ∘ f) a := h
  rw [← s.filterMap_get?_ids, hids, ids, List.filterMap_map, List.filterMap_congr hget,
    List.filterMap_eq_map]

lemma get?_map {f : α → α} {h : ∀ a, Identified.id (f a) = Identified.id a} :
    (r.map f h).get? id = (r.get? id).map f := by
  simp only [get?, map, List.find?_map, Function.comp_def, h]

lemma get?_modify_map {β : Type} {f : α → α} {h : ∀ a, Identified.id (f a) = Identified.id a}
    {other : String} {g : α → β} (hg : ∀ a, g (f a) = g a) :
    ((r.modify id f h).get? other).map g = (r.get? other).map g := by
  rw [modify, get?_map, Option.map_map]
  refine congrArg (Option.map · _) (funext fun a => ?_)
  by_cases ha : Identified.id a = id <;> simp [ha, hg]

lemma get?_modify_of_ne {f : α → α} {h : ∀ a, Identified.id (f a) = Identified.id a} {other : String}
    (hne : id ≠ other) : (r.modify id f h).get? other = r.get? other := by
  rw [modify, get?_map]
  cases hget : r.get? other with
  | none => rfl
  | some a =>
    have hid : Identified.id a ≠ id := fun he => hne (he.symm.trans (id_of_get? hget))
    simp [hid]

lemma get?_modify {f : α → α} {h : ∀ a, Identified.id (f a) = Identified.id a} :
    (r.modify id f h).get? id = (r.get? id).map f := by
  rw [modify, get?_map]
  cases hget : r.get? id with
  | none => rfl
  | some a => simp [id_of_get? hget]

end Roster

end Armature
