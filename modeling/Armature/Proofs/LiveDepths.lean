import Armature.Plan.References
import Armature.Proofs.LiveHierarchies

/-! The depths of live bones. A bone whose way up ends has the length of this way as its depth, which
is less than the number of bones; a bone whose way up does not end has the number of bones and one
more. The table that is made in one pass finds what a reference denotes. -/

namespace Armature.Plan

variable {K : Type} {live : List (Live.Bone K)} {index parent : ℕ} {way : List ℕ}
  {reference : String}

section References

lemma resolve?_append (bone : Live.Bone K) :
    resolve? (live ++ [bone]) reference =
      if bone.id = some reference then some live.length
      else (resolve? live reference).or
        (if bone.name = reference then some live.length else none) := by
  rw [resolve?, resolve?, List.reverse_append, List.reverse_singleton, List.singleton_append,
    List.findIdx?_cons, List.findIdx?_append, List.length_append, List.length_singleton]
  by_cases hid : bone.id = some reference
  · simp [hid]
  have hback : (fun index => live.length + 1 - 1 - index) ∘ (· + 1) =
      fun index => live.length - 1 - index := by
    funext index
    simp only [Function.comp_apply]
    omega
  rw [if_neg (by simpa using hid), if_neg hid, Option.map_map, hback]
  simp only [Option.orElse_eq_orElse, Option.orElse_eq_or, Option.or_assoc]
  congr 2
  by_cases hname : bone.name = reference <;> simp [hname]

lemma getElem?_enter (table : Std.HashMap String ℕ) (bone : Live.Bone K) (index : ℕ) :
    (enter table (bone, index))[reference]? =
      if bone.id = some reference then some index
      else table[reference]?.or (if bone.name = reference then some index else none) := by
  have hnamed : (table.insertIfNew bone.name index)[reference]? =
      table[reference]?.or (if bone.name = reference then some index else none) := by
    rw [Std.HashMap.getElem?_insertIfNew]
    by_cases hname : bone.name = reference
    · subst hname
      cases hold : table[bone.name]? with
      | none => simp [Std.HashMap.mem_iff_isSome_getElem?, hold]
      | some old => simp [Std.HashMap.mem_iff_isSome_getElem?, hold]
    · simp [hname]
  rw [enter]
  cases hid : bone.id with
  | none => simpa using hnamed
  | some id =>
    rw [Std.HashMap.getElem?_insert]
    simp [hnamed]

lemma references_append (bone : Live.Bone K) :
    references (live ++ [bone]) = enter (references live) (bone, live.length) := by
  rw [references, List.zipIdx_append, List.foldl_append, Nat.zero_add]
  rfl

lemma references_eq : (references live)[reference]? = resolve? live reference := by
  induction live using List.reverseRecOn with
  | nil => simp [references, resolve?]
  | append_singleton live bone ih =>
    rw [references_append, getElem?_enter, resolve?_append, ih]

end References

section Ways

namespace WayUp

lemma parent_of_mem {passed : ℕ} (h : WayUp live index way) (hm : passed ∈ way) :
    ∃ parent, LiveParent live passed parent := by
  induction h with
  | top => cases hm
  | step hp _ ih =>
    rcases List.mem_cons.mp hm with rfl | hm
    · exact ⟨_, hp⟩
    · exact ih hm

lemma exists_top (h : WayUp live index way) (hindex : index < live.length) :
    ∃ top < live.length, ∀ parent, ¬ LiveParent live top parent := by
  induction h with
  | top hn => exact ⟨_, hindex, hn⟩
  | step hp _ ih => exact ih hp.parent_lt

/-- The last bone of a way up has no parent, and so it is none of those on the way. -/
lemma length_lt (h : WayUp live index way) (hindex : index < live.length) :
    way.length < live.length := by
  obtain ⟨top, htop, hn⟩ := h.exists_top hindex
  have hnot : top ∉ way := by
    intro hm
    obtain ⟨parent, hp⟩ := h.parent_of_mem hm
    exact hn parent hp
  have hnodup := List.nodup_cons.mpr ⟨hnot, h.nodup⟩
  have hsub : top :: way ⊆ List.range live.length :=
    List.cons_subset.mpr ⟨List.mem_range.mpr htop, h.subset_range⟩
  have hle := (hnodup.subperm hsub).length_le
  rwa [List.length_range] at hle

end WayUp

def Endless (live : List (Live.Bone K)) (index : ℕ) : Prop :=
  ∃ chain : ℕ → ℕ, chain 0 = index ∧ ∀ n, LiveParent live (chain n) (chain (n + 1))

lemma heightUpTo_endless {chain : ℕ → ℕ} (h : ∀ n, LiveParent live (chain n) (chain (n + 1)))
    (limit : ℕ) : heightUpTo (links live) limit (links live)[chain 0]?.join = limit := by
  induction limit generalizing chain with
  | zero => rfl
  | succ limit ih =>
    rw [join_links_eq_some.mpr (h 0), heightUpTo]
    exact congrArg (· + 1) (ih fun n => h (n + 1))

lemma Endless.depth_eq (h : Endless live index) : depth (links live) index = live.length + 1 := by
  obtain ⟨chain, rfl, hchain⟩ := h
  rw [depth, heightUpTo_endless hchain]
  simp [links]

lemma endless_of_no_wayUp (h : ¬ ∃ way, WayUp live index way) : Endless live index := by
  -- a bone without a way up has a parent without one
  have hstep : ∀ i, (¬ ∃ way, WayUp live i way) →
      ∃ parent, LiveParent live i parent ∧ ¬ ∃ way, WayUp live parent way := by
    intro i hi
    by_contra hno
    push Not at hno
    apply hi
    by_cases hp : ∃ parent, LiveParent live i parent
    · obtain ⟨parent, hp⟩ := hp
      obtain ⟨way, hway⟩ := hno parent hp
      exact ⟨i :: way, .step hp hway⟩
    · exact ⟨[], .top (not_exists.mp hp)⟩
  choose! next hnext using hstep
  have hnever : ∀ n, ¬ ∃ way, WayUp live (next^[n] index) way := by
    intro n
    induction n with
    | zero => exact h
    | succ n ih =>
      rw [Function.iterate_succ_apply']
      exact (hnext _ ih).2
  have hparent : ∀ n, LiveParent live (next^[n] index) (next^[n + 1] index) := by
    intro n
    rw [Function.iterate_succ_apply']
    exact (hnext _ (hnever n)).1
  exact ⟨fun n => next^[n] index, rfl, hparent⟩

lemma depth_le (live : List (Live.Bone K)) (index : ℕ) :
    depth (links live) index ≤ live.length + 1 := by
  by_cases h : ∃ way, WayUp live index way
  · obtain ⟨way, hway⟩ := h
    rw [hway.depth_eq]
    exact hway.length_le.trans (Nat.le_succ _)
  · exact (endless_of_no_wayUp h).depth_eq.le

/-- The depths of live bones, whatever their marks are and wherever their references lead. Taken from
the greatest number that there is, they sort the bones with the deepest one first. -/
structure DepthsExact (live : List (Live.Bone K)) : Prop where
  denoted : ∀ reference index, (references live)[reference]? = some index ↔
    Denotes live reference index
  parents : ∀ index parent, LiveParent live index parent ↔
    ∃ bone reference, live[index]? = some bone ∧ bone.parent = some reference ∧
      (references live)[reference]? = some parent
  ends_or_not : ∀ index, (∃ way, WayUp live index way) ∨ Endless live index
  ending : ∀ index < live.length, ∀ way, WayUp live index way →
    depth (links live) index = way.length ∧ way.length < live.length ∧
      ∀ parent, LiveParent live index parent →
        depth (links live) index = depth (links live) parent + 1
  endless : ∀ index, Endless live index → depth (links live) index = live.length + 1
  keys : ∀ greatest, live.length < greatest → ∀ index other,
    depth (links live) index ≤ greatest ∧
      (greatest - depth (links live) index ≤ greatest - depth (links live) other ↔
        depth (links live) other ≤ depth (links live) index)

theorem depths_exact (live : List (Live.Bone K)) : DepthsExact live where
  denoted reference index := by rw [references_eq, resolve?_iff]
  parents index parent := by simp only [references_eq, LiveParent]
  ends_or_not index := by
    by_cases h : ∃ way, WayUp live index way
    · exact .inl h
    · exact .inr (endless_of_no_wayUp h)
  ending index hindex way hway :=
    ⟨hway.depth_eq, hway.length_lt hindex, fun _ hp => hway.depth_parent hp⟩
  endless _ h := h.depth_eq
  keys greatest hgreatest index other := by
    have hindex := depth_le live index
    have hother := depth_le live other
    omega

end Ways

end Armature.Plan
