import Armature.Proofs.Hierarchies

/-! The bones from the top down: every bone once, and after its parent unless it is its own
ancestor. Nothing is asked of the hierarchy: parents may be missing or form cycles. -/

namespace Armature.Model

open Relation

variable {K : Type} {bones : Bones K} {settled above passed l : List String} {id : String}

/-- Every bone of the list comes after its parent, if that is not among the bones above the list. A
bone that is its own ancestor may come at any place. -/
def ParentsFirst (bones : Bones K) : (above l : List String) → Prop
  | _, [] => True
  | above, id :: l =>
    (∀ parent, ParentOf bones id parent → parent ∈ bones.ids →
        ¬ TransGen (ParentOf bones) id id → parent ∈ above) ∧
      ParentsFirst bones (id :: above) l

lemma ParentsFirst.mono {above' : List String} (h : ParentsFirst bones above l)
    (hs : above ⊆ above') : ParentsFirst bones above' l := by
  induction l generalizing above above' with
  | nil => trivial
  | cons id l ih =>
    obtain ⟨hid, hl⟩ := h
    exact ⟨fun p hp hm hc => hs (hid p hp hm hc), ih hl (List.cons_subset_cons id hs)⟩

lemma ParentsFirst.append {l' : List String} (h : ParentsFirst bones above l)
    (h' : ParentsFirst bones (l ++ above) l') : ParentsFirst bones above (l ++ l') := by
  induction l generalizing above with
  | nil => exact h'
  | cons id l ih =>
    refine ⟨h.1, ih h.2 (h'.mono fun x hx => ?_)⟩
    simpa [or_left_comm] using hx

/-- The bones passed on the way to a bone, the nearest one first. -/
def Trail (bones : Bones K) : (passed : List String) → (id : String) → Prop
  | [], _ => True
  | child :: passed, id => ParentOf bones child id ∧ Trail bones passed child

lemma Trail.ancestor (h : Trail bones passed id) : ∀ x ∈ passed, TransGen (ParentOf bones) x id := by
  induction passed generalizing id with
  | nil => simp
  | cons child passed ih =>
    intro x hx
    rcases List.mem_cons.mp hx with rfl | hx
    · exact .single h.1
    · exact (ih h.2 x hx).tail h.1

/-- A bone that is met again is an ancestor of the one before it, which is therefore on a cycle. -/
lemma Trail.cycle {child : String} (h : Trail bones (child :: passed) id)
    (hid : id ∈ child :: passed) : TransGen (ParentOf bones) child child := by
  rcases List.mem_cons.mp hid with rfl | hid
  · exact .single h.1
  · exact .head h.1 (h.2.ancestor id hid)

lemma Trail.parentsFirst (h : Trail bones passed id)
    (hid : ∀ child, passed.head? = some child → id ∈ bones.ids →
      ¬ TransGen (ParentOf bones) child child → id ∈ above) :
    ParentsFirst bones above passed := by
  induction passed generalizing id above with
  | nil => trivial
  | cons child passed ih =>
    refine ⟨fun p hp hm hc => ?_, ih h.2 fun _ _ _ _ => List.mem_cons_self⟩
    obtain rfl := hp.unique h.1
    exact hid child rfl hm hc

lemma climb_parentsFirst (ht : Trail bones passed id) :
    ParentsFirst bones settled (climb bones settled passed id).passed := by
  fun_induction climb bones settled passed id with
  | case1 passed id hs => exact ht.parentsFirst fun _ _ _ _ => by simpa using hs
  | case2 passed id hs hp =>
    refine ht.parentsFirst fun child hc _ hn => (hn ?_).elim
    cases passed with
    | nil => cases hc
    | cons first passed =>
      obtain rfl : first = child := Option.some.inj hc
      exact ht.cycle hp
  | case3 passed id hs hp hn =>
    exact ht.parentsFirst fun _ _ hm _ => (Roster.get?_eq_none.mp hn hm).elim
  | case4 passed id hs hp bone hb _ hn =>
    refine ⟨fun p hp => ?_, ht.parentsFirst fun _ _ _ _ => List.mem_cons_self⟩
    rw [parentOf_iff hb, hn] at hp
    cases hp
  | case5 passed id hs hp bone hb _ parent hn ih => exact ih ⟨(parentOf_iff hb).mpr hn, ht⟩

structure Fresh (bones : Bones K) (settled l : List String) : Prop where
  nodup : l.Nodup
  unsettled : ∀ x ∈ l, x ∉ settled
  known : ∀ x ∈ l, x ∈ bones.ids

lemma Fresh.cons (h : Fresh bones settled passed) (hp : id ∉ passed) (hs : id ∉ settled)
    (hm : id ∈ bones.ids) : Fresh bones settled (id :: passed) where
  nodup := List.nodup_cons.mpr ⟨hp, h.nodup⟩
  unsettled := List.forall_mem_cons.mpr ⟨hs, h.unsettled⟩
  known := List.forall_mem_cons.mpr ⟨hm, h.known⟩

lemma climb_fresh (hf : Fresh bones settled passed) :
    Fresh bones settled (climb bones settled passed id).passed := by
  fun_induction climb bones settled passed id with
  | case1 | case2 | case3 => exact hf
  | case4 passed id hs hp bone hb =>
    exact hf.cons hp (by simpa using hs) (Roster.mem_ids_of_get? hb)
  | case5 passed id hs hp bone hb _ parent hn ih =>
    exact ih (hf.cons hp (by simpa using hs) (Roster.mem_ids_of_get? hb))

lemma climb_subset : passed ⊆ (climb bones settled passed id).passed := by
  fun_induction climb bones settled passed id with
  | case1 | case2 | case3 => exact List.Subset.refl _
  | case4 passed id => exact List.subset_cons_self id passed
  | case5 passed id hs hp bone hb _ parent hn ih =>
    exact List.Subset.trans (List.subset_cons_self id passed) ih

lemma mem_climb (hid : id ∈ bones.ids) (hs : id ∉ settled) :
    id ∈ (climb bones settled passed id).passed := by
  rw [climb]
  split_ifs with hc hp
  · exact (hs (by simpa using hc)).elim
  · exact hp
  · split
    · next hn => exact (Roster.get?_eq_none.mp hn hid).elim
    · split
      · exact List.mem_cons_self
      · exact climb_subset List.mem_cons_self

structure Collected (bones : Bones K) (settled : List String) : Prop where
  nodup : settled.Nodup
  known : ∀ x ∈ settled, x ∈ bones.ids
  parentsFirst : ParentsFirst bones [] settled

lemma Collected.climb (h : Collected bones settled) (id : String) :
    Collected bones (settled ++ (climb bones settled [] id).passed) := by
  have hf : Fresh bones settled (Model.climb bones settled [] id).passed :=
    climb_fresh ⟨List.nodup_nil, by simp, by simp⟩
  refine ⟨List.nodup_append.mpr ⟨h.nodup, hf.nodup, ?_⟩, ?_, ?_⟩
  · rintro x hx _ hy rfl
    exact hf.unsettled x hy hx
  · intro x hx
    rcases List.mem_append.mp hx with hx | hx
    · exact h.known x hx
    · exact hf.known x hx
  · refine h.parentsFirst.append ?_
    rw [List.append_nil]
    exact climb_parentsFirst trivial

lemma foldl_climb_collected (ids : List String) (h : Collected bones settled) :
    Collected bones
      (ids.foldl (fun settled id => settled ++ (climb bones settled [] id).passed) settled) := by
  induction ids generalizing settled with
  | nil => exact h
  | cons id ids ih => exact ih (h.climb id)

lemma mem_foldl_climb {x : String} (ids : List String) (hx : x ∈ bones.ids)
    (h : x ∈ settled ∨ x ∈ ids) :
    x ∈ ids.foldl (fun settled id => settled ++ (climb bones settled [] id).passed) settled := by
  induction ids generalizing settled with
  | nil => exact h.resolve_right List.not_mem_nil
  | cons id ids ih =>
    apply ih
    rcases h with h | h
    · exact .inl (List.mem_append_left _ h)
    rcases List.mem_cons.mp h with rfl | h
    · by_cases hs : x ∈ settled
      · exact .inl (List.mem_append_left _ hs)
      · exact .inl (List.mem_append_right _ (mem_climb hx hs))
    · exact .inr h

lemma topDown_collected (bones : Bones K) : Collected bones (topDown bones) :=
  foldl_climb_collected _ ⟨List.nodup_nil, by simp, trivial⟩

lemma mem_topDown {x : String} : x ∈ topDown bones ↔ x ∈ bones.ids :=
  ⟨(topDown_collected bones).known x, fun hx => mem_foldl_climb _ hx (.inr hx)⟩

lemma topDown_perm (bones : Bones K) : (topDown bones).Perm bones.ids :=
  (List.perm_ext_iff_of_nodup (topDown_collected bones).nodup bones.nodup).mpr fun _ => mem_topDown

lemma ParentsFirst.pairwise (hacyclic : Acyclic bones)
    (hparents : ∀ child parent, ParentOf bones child parent → parent ∈ bones.ids)
    (habove : ∀ x ∈ above, ∀ y, TransGen (ParentOf bones) x y → y ∈ above)
    (hnodup : l.Nodup) (hnew : ∀ x ∈ l, x ∉ above) (h : ParentsFirst bones above l) :
    l.Pairwise fun x y => ¬ TransGen (ParentOf bones) x y := by
  induction l generalizing above with
  | nil => exact .nil
  | cons id l ih =>
    obtain ⟨hid, hl⟩ := List.nodup_cons.mp hnodup
    have hup : ∀ y, TransGen (ParentOf bones) id y → y ∈ above := by
      intro y hy
      obtain ⟨p, hp, hr⟩ := TransGen.head'_iff.mp hy
      have hpa := h.1 p hp (hparents id p hp) (hacyclic id)
      rcases reflTransGen_iff_eq_or_transGen.mp hr with rfl | hr
      · exact hpa
      · exact habove p hpa y hr
    refine List.pairwise_cons.mpr ⟨fun y hy ha => hnew y (List.mem_cons_of_mem _ hy) (hup y ha), ?_⟩
    refine ih ?_ hl ?_ h.2
    · intro x hx y hy
      rcases List.mem_cons.mp hx with rfl | hx
      · exact List.mem_cons_of_mem _ (hup y hy)
      · exact List.mem_cons_of_mem _ (habove x hx y hy)
    · intro x hx hxa
      rcases List.mem_cons.mp hxa with rfl | hxa
      · exact hid hx
      · exact hnew x (List.mem_cons_of_mem _ hx) hxa

lemma topDown_pairwise {limits : Limits} (h : SoundBones limits bones) :
    (topDown bones).Pairwise fun x y => ¬ TransGen (ParentOf bones) x y := by
  have hc := topDown_collected bones
  refine hc.parentsFirst.pairwise h.acyclic ?_ (by simp) hc.nodup (by simp)
  rintro child parent ⟨b, hb, -, hp⟩
  exact h.parents b hb parent hp

end Armature.Model
