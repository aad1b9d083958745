import Armature.Model.Ranks
import Armature.Proofs.TopDown

/-! What the ranks of bones are good for: distinct ranks for all bones, and a parent's rank before its
children's. The order from the top down is the order of the ranks. -/

namespace Armature.Model

open Relation

variable {K : Type} {bones : Bones K} {table : Std.HashMap String ℕ}
  {passed listed new ids : List String} {id child parent : String}

lemma bind_parent_iff :
    (bones.get? id).bind Bone.parent = some parent ↔ ParentOf bones id parent := by
  constructor
  · intro h
    obtain ⟨bone, hbone, hparent⟩ := Option.bind_eq_some_iff.mp h
    exact (parentOf_iff hbone).mpr hparent
  · rintro ⟨bone, hbone, hid, hparent⟩
    exact Option.bind_eq_some_iff.mpr ⟨bone, Roster.get?_eq_some.mpr ⟨hbone, hid⟩, hparent⟩

def RankedBefore (table : Std.HashMap String ℕ) (id other : String) : Prop :=
  ∃ rank later : ℕ, table[id]? = some rank ∧ table[other]? = some later ∧ rank < later

section Tables

/-- The ranks are the places in a list. -/
structure Listed (table : Std.HashMap String ℕ) (listed : List String) : Prop where
  size : table.size = listed.length
  get? : ∀ (id : String) (rank : ℕ), table[id]? = some rank ↔ listed[rank]? = some id

lemma listed_nil : Listed ∅ [] := ⟨by simp, by simp⟩

lemma Listed.mem (h : Listed table listed) : id ∈ table ↔ id ∈ listed := by
  rw [Std.HashMap.mem_iff_isSome_getElem?, Option.isSome_iff_exists, List.mem_iff_getElem?]
  exact exists_congr fun rank => h.get? id rank

lemma getElem?_concat_iff {l : List String} {a b : String} {i : ℕ} :
    (l ++ [a])[i]? = some b ↔ l[i]? = some b ∨ i = l.length ∧ a = b := by
  rcases Nat.lt_trichotomy i l.length with hlt | rfl | hgt
  · rw [List.getElem?_append_left hlt]
    exact (or_iff_left fun h => hlt.ne h.1).symm
  · rw [List.getElem?_concat_length, List.getElem?_eq_none le_rfl]
    simp
  · rw [List.getElem?_eq_none (by simpa using hgt), List.getElem?_eq_none hgt.le]
    simp [hgt.ne']

lemma Listed.enrol (h : Listed table listed) (hid : id ∉ listed) :
    Listed (enrol table id) (listed ++ [id]) where
  size := by
    rw [Model.enrol, Std.HashMap.size_insert, if_neg (mt h.mem.mp hid), h.size, List.length_append]
    rfl
  get? other rank := by
    rw [getElem?_concat_iff, Model.enrol, Std.HashMap.getElem?_insert, h.size]
    by_cases hother : id = other
    · subst hother
      have hold : listed[rank]? ≠ some id := fun hr => hid (List.mem_of_getElem? hr)
      simp [hold, eq_comm]
    · simp [hother, h.get?]

lemma Listed.foldl_enrol (h : Listed table listed) (hn : new.Nodup) (hnew : ∀ x ∈ new, x ∉ listed) :
    Listed (new.foldl Model.enrol table) (listed ++ new) := by
  induction new generalizing table listed with
  | nil => rwa [List.append_nil]
  | cons id new ih =>
    obtain ⟨hid, hn⟩ := List.nodup_cons.mp hn
    obtain ⟨hlisted, hnew⟩ := List.forall_mem_cons.mp hnew
    rw [List.append_cons]
    apply ih (h.enrol hlisted) hn
    intro x hx hm
    rcases List.mem_append.mp hm with hm | hm
    · exact hnew x hx hm
    · exact hid (List.mem_singleton.mp hm ▸ hx)

lemma Listed.pairwise (h : Listed table listed) : listed.Pairwise (RankedBefore table) := by
  apply List.pairwise_iff_getElem.mpr
  intro i j hi hj hlt
  exact ⟨i, j, (h.get? _ i).mpr (List.getElem?_eq_getElem hi),
    (h.get? _ j).mpr (List.getElem?_eq_getElem hj), hlt⟩

end Tables

section Climbs

lemma ascend_fresh (hn : passed.Nodup) (hr : ∀ x ∈ passed, x ∉ table) :
    (ascend bones table passed id).Nodup ∧ ∀ x ∈ ascend bones table passed id, x ∉ table := by
  fun_induction ascend bones table passed id with
  | case1 => exact ⟨hn, hr⟩
  | case2 passed id hp =>
    obtain ⟨hrank, hpassed⟩ := not_or.mp hp
    exact ⟨List.nodup_cons.mpr ⟨hpassed, hn⟩, List.forall_mem_cons.mpr ⟨hrank, hr⟩⟩
  | case3 passed id hp parent _ _ ih =>
    obtain ⟨hrank, hpassed⟩ := not_or.mp hp
    exact ih (List.nodup_cons.mpr ⟨hpassed, hn⟩) (List.forall_mem_cons.mpr ⟨hrank, hr⟩)

/-- A climb passes each bone once, and at the end perhaps an id that is not of a bone. -/
lemma length_ascend_le (hn : passed.Nodup) (hk : passed ⊆ bones.ids) :
    (ascend bones table passed id).length ≤ bones.size + 1 := by
  have hle : ∀ l : List String, l.Nodup → l ⊆ bones.ids → l.length ≤ bones.size := by
    intro l hl hsub
    have hsubperm := (hl.subperm hsub).length_le
    rwa [Roster.ids, List.length_map] at hsubperm
  fun_induction ascend bones table passed id with
  | case1 passed => exact (hle passed hn hk).trans (Nat.le_succ _)
  | case2 passed => exact Nat.succ_le_succ (hle passed hn hk)
  | case3 passed id hp parent h _ ih =>
    exact ih (List.nodup_cons.mpr ⟨(not_or.mp hp).2, hn⟩)
      (List.cons_subset.mpr ⟨mem_ids_of_parent h, hk⟩)

/-- What is passed on a trail comes after its parent, but for the one below the trail's end. -/
lemma Trail.led (h : Trail bones passed id) (hc : child ∈ passed) (hp : ParentOf bones child parent) :
    [parent, child].Sublist passed ∨ parent = id ∧ ∃ below, passed = child :: below := by
  induction passed generalizing id with
  | nil => cases hc
  | cons first passed ih =>
    rcases List.mem_cons.mp hc with rfl | hbelow
    · exact .inr ⟨hp.unique h.1, passed, rfl⟩
    left
    rcases ih h.2 hbelow with hled | ⟨rfl, -⟩
    · exact hled.cons first
    · exact (List.singleton_sublist.mpr hbelow).cons_cons _

lemma ascend_led (ht : Trail bones passed id) (hc : child ∈ ascend bones table passed id)
    (hp : ParentOf bones child parent) (hn : ¬ TransGen (ParentOf bones) child child) :
    parent ∈ table ∨ [parent, child].Sublist (ascend bones table passed id) := by
  fun_induction ascend bones table passed id with
  | case1 passed id hstop =>
    rcases ht.led hc hp with hled | ⟨rfl, below, rfl⟩
    · exact .inr hled
    · exact .inl (hstop.resolve_right fun hmet => hn (Trail.cycle ht hmet))
  | case2 passed id hstop hnone =>
    right
    rcases List.mem_cons.mp hc with rfl | hbelow
    · cases hnone.symm.trans (bind_parent_iff.mpr hp)
    rcases ht.led hbelow hp with hled | ⟨rfl, -⟩
    · exact hled.cons id
    · exact (List.singleton_sublist.mpr hbelow).cons_cons _
  | case3 passed id hstop above h _ ih => exact ih ⟨bind_parent_iff.mp h, ht⟩ hc

lemma climb_stop {settled : List String} (h : id ∈ settled ∨ id ∈ passed ∨ id ∉ bones.ids) :
    (climb bones settled passed id).passed = passed := by
  rw [climb]
  split_ifs with hs hp
  · rfl
  · rfl
  split
  · rfl
  next hb =>
  rcases h with h | h | h
  · exact (hs (by simpa using h)).elim
  · exact (hp h).elim
  · exact (h (Roster.mem_ids_of_get? hb)).elim

lemma climb_go {settled : List String} (hs : id ∉ settled) (hp : id ∉ passed)
    (hid : id ∈ bones.ids) :
    climb bones settled passed id = ((bones.get? id).bind Bone.parent).elim ⟨id :: passed, none⟩
      (climb bones settled (id :: passed)) := by
  rw [climb, if_neg (by simpa using hs), dif_neg hp]
  split
  · next hnone => exact (Roster.get?_eq_none.mp hnone hid).elim
  · next bone hbone =>
    simp only [hbone, Option.bind_some]
    cases bone.parent <;> rfl

/-- Of the bones, a climb for ranks passes those that a climb past the ranked ones finds new. -/
lemma filter_ascend (h : Listed table listed) (hk : ∀ x ∈ passed, bones.contains x) :
    (ascend bones table passed id).filter bones.contains =
      (climb bones (listed.filter bones.contains) passed id).passed := by
  have hsettled : ∀ x, x ∈ listed.filter bones.contains ↔ x ∈ table ∧ x ∈ bones.ids := by
    intro x
    rw [List.mem_filter, h.mem, Roster.contains_iff]
  have hkeep : ∀ x l, x ∈ bones.ids → (∀ y ∈ l, bones.contains y) →
      ∀ y ∈ x :: l, bones.contains y :=
    fun x l hx hl => List.forall_mem_cons.mpr ⟨Roster.contains_iff.mpr hx, hl⟩
  -- both climbs stop at the same bone, but one may pass an id that no bone has
  fun_induction ascend bones table passed id with
  | case1 passed id hstop =>
    rw [List.filter_eq_self.mpr hk, climb_stop]
    by_cases hid : id ∈ bones.ids
    · exact hstop.elim (fun ht => .inl ((hsettled id).mpr ⟨ht, hid⟩)) fun hp => .inr (.inl hp)
    · exact .inr (.inr hid)
  | case2 passed id hstop hnone =>
    obtain ⟨htable, hpassed⟩ := not_or.mp hstop
    by_cases hid : id ∈ bones.ids
    · rw [List.filter_eq_self.mpr (hkeep id passed hid hk),
        climb_go (fun hs => htable ((hsettled id).mp hs).1) hpassed hid, hnone,
        Option.elim_none]
    · rw [List.filter_cons_of_neg (mt Roster.contains_iff.mp hid), List.filter_eq_self.mpr hk,
        climb_stop (.inr (.inr hid))]
  | case3 passed id hstop parent hsome _ ih =>
    obtain ⟨htable, hpassed⟩ := not_or.mp hstop
    have hid : id ∈ bones.ids := mem_ids_of_parent hsome
    rw [ih (hkeep id passed hid hk),
      climb_go (fun hs => htable ((hsettled id).mp hs).1) hpassed hid, hsome,
      Option.elim_some]

end Climbs

section Ranks

/-- The state after some climbs: every bone that has a rank comes after its parent, unless it is on a
cycle, and the bones with ranks are those that the climbs from the top down have settled. -/
structure Ranked (bones : Bones K) (table : Std.HashMap String ℕ) (settled listed : List String) :
    Prop extends Listed table listed where
  led : ∀ child ∈ listed, ∀ parent, ParentOf bones child parent →
    ¬ TransGen (ParentOf bones) child child → [parent, child].Sublist listed
  settled_eq : settled = listed.filter bones.contains

lemma Ranked.climb {settled : List String} (h : Ranked bones table settled listed) (id : String) :
    Ranked bones ((ascend bones table [] id).foldl enrol table)
      (settled ++ (climb bones settled [] id).passed) (listed ++ ascend bones table [] id) := by
  have hfresh : (ascend bones table [] id).Nodup ∧ ∀ x ∈ ascend bones table [] id, x ∉ table :=
    ascend_fresh List.nodup_nil (by simp)
  obtain ⟨hn, hnew⟩ := hfresh
  refine {
    toListed := h.foldl_enrol hn fun x hx => mt h.mem.mpr (hnew x hx)
    led := fun child hchild parent hp hcycle => ?_
    settled_eq := ?_ }
  · rcases List.mem_append.mp hchild with hold | hclimbed
    · exact (h.led child hold parent hp hcycle).trans (List.sublist_append_left _ _)
    have htrail : Trail bones [] id := trivial
    rcases ascend_led htrail hclimbed hp hcycle with hranked | hled
    · exact (List.singleton_sublist.mpr (h.mem.mp hranked)).append
        (List.singleton_sublist.mpr hclimbed)
    · exact hled.trans (List.sublist_append_right _ _)
  · rw [List.filter_append, ← h.settled_eq, filter_ascend h.toListed (by simp), ← h.settled_eq]

lemma Ranked.foldl {settled : List String} (h : Ranked bones table settled listed)
    (ids : List String) :
    ∃ listed', Ranked bones (rankFrom bones table ids)
      (ids.foldl (fun settled id => settled ++ (Model.climb bones settled [] id).passed) settled)
      listed' := by
  induction ids generalizing table settled listed with
  | nil => exact ⟨listed, h⟩
  | cons id ids ih => exact ih (h.climb id)

lemma ranked_ranks (bones : Bones K) :
    ∃ listed, Ranked bones (ranks bones) (topDown bones) listed := by
  apply Ranked.foldl
  exact ⟨listed_nil, by simp, rfl⟩

lemma topDown_ranked (bones : Bones K) :
    (topDown bones).Pairwise (RankedBefore (ranks bones)) := by
  obtain ⟨listed, h⟩ := ranked_ranks bones
  rw [h.settled_eq]
  exact h.pairwise.sublist List.filter_sublist

/-- The ranks of any bones, whose parents need not be among them and which may be their own ancestors.
The bones of a plan are taken in the order of their ranks. -/
structure RanksSound (bones : Bones K) : Prop where
  climbs : ∀ table id, (ascend bones table [] id).length ≤ bones.size + 1
  total : ∀ id ∈ bones.ids, ∃ rank : ℕ, (ranks bones)[id]? = some rank
  distinct : ∀ (id other : String) (rank : ℕ), (ranks bones)[id]? = some rank →
    (ranks bones)[other]? = some rank → id = other
  parents_first : ∀ child parent, ParentOf bones child parent →
    ¬ TransGen (ParentOf bones) child child → RankedBefore (ranks bones) parent child
  order : (topDown bones).Perm bones.ids ∧ (topDown bones).Pairwise (RankedBefore (ranks bones))

theorem ranks_sound (bones : Bones K) : RanksSound bones := by
  obtain ⟨listed, h⟩ := ranked_ranks bones
  have hlisted : ∀ id ∈ bones.ids, id ∈ listed := by
    intro id hid
    have hm := mem_topDown.mpr hid
    rw [h.settled_eq] at hm
    exact List.mem_of_mem_filter hm
  refine {
    climbs := fun table id => length_ascend_le List.nodup_nil (List.nil_subset _)
    total := fun id hid => ?_
    distinct := fun id other rank hid hother => ?_
    parents_first := fun child parent hp hcycle => ?_
    order := ⟨topDown_perm bones, topDown_ranked bones⟩ }
  · obtain ⟨rank, hrank⟩ := List.mem_iff_getElem?.mp (hlisted id hid)
    exact ⟨rank, (h.get? id rank).mpr hrank⟩
  · have hplace := (h.get? id rank).mp hid
    exact Option.some.inj (hplace.symm.trans ((h.get? other rank).mp hother))
  · have hled := h.led child (hlisted child hp.mem_ids) parent hp hcycle
    exact List.rel_of_pairwise_cons (h.pairwise.sublist hled) List.mem_cons_self

end Ranks

end Armature.Model
