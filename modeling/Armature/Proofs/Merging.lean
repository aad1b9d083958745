import Armature.Model.OfSpec
import Armature.Proofs.Attempts
import Armature.Proofs.Rosters

/-! What merging the entries of a spec over the starter rig comes to: the entities that the entries
stand for, and those of the rig whose ids they leave free. Where an entry is in the list matters to
the texts of faults and warnings alone. -/

namespace Armature.Model

lemma exists_of_mem_left {α β : Type} {R : α → β → Prop} {l : List α} {u : List β} {a : α}
    (h : List.Forall₂ R l u) (ha : a ∈ l) : ∃ b ∈ u, R a b := by
  induction h with
  | nil => cases ha
  | cons hR _ ih =>
    rcases List.mem_cons.mp ha with rfl | ha
    · exact ⟨_, List.mem_cons_self, hR⟩
    · obtain ⟨b, hb, hab⟩ := ih ha
      exact ⟨b, List.mem_cons_of_mem _ hb, hab⟩

section Entries

variable {K α ε : Type} [Identified α] {kind : Kind} {resolve : ℕ → ε → Except (Fault K) α}
  {start roster : Roster α} {entries entries' : List ε} {m m' : Merge α} {a : α} {index : ℕ}

def StandsFor (resolve : ℕ → ε → Except (Fault K) α) (entry : ε) (a : α) : Prop :=
  ∃ index, resolve index entry = .ok a

lemma add_ok (h : m.add (K := K) kind index a = .ok m') :
    Identified.id a ∉ m.entered ∧ m'.roster = m.roster.insert a ∧
      m'.entered = Identified.id a :: m.entered := by
  simp only [Merge.add] at h
  split_ifs at h with hc <;> cases h <;> exact ⟨by simpa using hc, rfl, rfl⟩

lemma exists_add (kind : Kind) (index : ℕ) (h : Identified.id a ∉ m.entered) :
    ∃ m', m.add (K := K) kind index a = .ok m' ∧ m'.roster = m.roster.insert a ∧
      m'.entered = Identified.id a :: m.entered := by
  have hc : ¬ m.entered.contains (Identified.id a) = true := by simpa using h
  exact ⟨_, if_neg hc, rfl, rfl⟩

variable {numbered : List (ε × ℕ)} {as : List α}

lemma foldlM_add_ok (h : numbered.foldlM (fun m (entry, index) => do
      let a ← resolve index entry
      m.add kind index a) m = .ok m') :
    ∃ as, List.Forall₂ (fun e a => resolve e.2 e.1 = .ok a) numbered as ∧
      (as.map Identified.id).Nodup ∧ (∀ a ∈ as, Identified.id a ∉ m.entered) ∧
      as.foldl Roster.insert m.roster = m'.roster := by
  induction numbered generalizing m with
  | nil =>
    obtain rfl : m = m' := by simpa [pure, Except.pure] using h
    exact ⟨[], .nil, List.nodup_nil, by simp, rfl⟩
  | cons entry rest ih =>
    obtain ⟨next, hnext, h⟩ := Attempts.bind_ok.mp h
    obtain ⟨a, ha, hnext⟩ := Attempts.bind_ok.mp hnext
    obtain ⟨hnew, hroster, hentered⟩ := add_ok hnext
    obtain ⟨as, hstands, hnodup, hfresh, hresult⟩ := ih h
    rw [hentered] at hfresh
    refine ⟨a :: as, .cons ha hstands, List.nodup_cons.mpr ⟨fun hm => ?_, hnodup⟩,
      List.forall_mem_cons.mpr ⟨hnew, fun b hb hm => hfresh b hb (List.mem_cons_of_mem _ hm)⟩, ?_⟩
    · obtain ⟨b, hb, hid⟩ := List.mem_map.mp hm
      exact hfresh b hb (hid ▸ List.mem_cons_self)
    · rw [List.foldl_cons, ← hroster, hresult]

lemma exists_foldlM_add (hstands : List.Forall₂ (fun e a => resolve e.2 e.1 = .ok a) numbered as)
    (hnodup : (as.map Identified.id).Nodup) (hfresh : ∀ a ∈ as, Identified.id a ∉ m.entered) :
    ∃ m', numbered.foldlM (fun m (entry, index) => do
      let a ← resolve index entry
      m.add kind index a) m = .ok m' ∧ m'.roster = as.foldl Roster.insert m.roster := by
  induction hstands generalizing m with
  | nil => exact ⟨m, rfl, rfl⟩
  | @cons entry a rest as ha _ ih =>
    obtain ⟨hnew, hnodup⟩ := List.nodup_cons.mp hnodup
    obtain ⟨hm, hfresh⟩ := List.forall_mem_cons.mp hfresh
    obtain ⟨next, hnext, hroster, hentered⟩ := exists_add (K := K) kind entry.2 hm
    have hfresh' : ∀ b ∈ as, Identified.id b ∉ next.entered := by
      intro b hb hm
      rcases List.mem_cons.mp (hentered ▸ hm) with hid | hm
      · exact hnew (hid ▸ List.mem_map_of_mem hb)
      · exact hfresh b hb hm
    obtain ⟨m', hm', hresult⟩ := ih hnodup hfresh'
    refine ⟨m', ?_, by rw [hresult, hroster, List.foldl_cons]⟩
    exact Attempts.bind_ok.mpr ⟨next, Attempts.bind_ok.mpr ⟨a, ha, hnext⟩, hm'⟩

variable (hindex : ∀ entry a, StandsFor resolve entry a → ∀ index, resolve index entry = .ok a)

include hindex

lemma mergeEntries_ok : (∃ m, mergeEntries kind resolve start entries = .ok m ∧ m.roster = roster) ↔
    ∃ as, List.Forall₂ (StandsFor resolve) entries as ∧ (as.map Identified.id).Nodup ∧
      as.foldl Roster.insert start = roster := by
  have hstands (as : List α) : List.Forall₂ (StandsFor resolve) entries as ↔
      List.Forall₂ (fun e a => resolve e.2 e.1 = .ok a) entries.zipIdx as := by
    have hR : (fun (e : ε × ℕ) a => StandsFor resolve e.1 a) =
        fun e a => resolve e.2 e.1 = .ok a := by
      funext e a
      exact propext ⟨fun h => hindex e.1 a h e.2, fun h => ⟨e.2, h⟩⟩
    rw [← hR, ← List.forall₂_map_left_iff (f := Prod.fst), List.zipIdx_map_fst]
  constructor
  · rintro ⟨m, hm, rfl⟩
    obtain ⟨as, has, hnodup, -, hroster⟩ := foldlM_add_ok hm
    exact ⟨as, (hstands as).mpr has, hnodup, hroster⟩
  · rintro ⟨as, has, hnodup, rfl⟩
    exact exists_foldlM_add ((hstands as).mp has) hnodup (by simp)

lemma mergeEntries_perm (hperm : entries.Perm entries')
    (h : mergeEntries kind resolve start entries = .ok m) :
    ∃ m', mergeEntries kind resolve start entries' = .ok m' ∧
      m.roster.toList.Perm m'.roster.toList := by
  obtain ⟨as, hstands, hnodup, hroster⟩ := (mergeEntries_ok hindex).mp ⟨m, h, rfl⟩
  obtain ⟨as', hstands', has⟩ := List.perm_comp_forall₂ hperm.symm hstands
  have hnodup' : (as'.map Identified.id).Nodup := (has.map _).nodup_iff.mpr hnodup
  obtain ⟨m', hm', hroster'⟩ := (mergeEntries_ok hindex).mpr ⟨as', hstands', hnodup', rfl⟩
  refine ⟨m', hm', ?_⟩
  rw [← hroster, hroster']
  exact Roster.foldl_insert_perm hnodup has.symm

omit [Identified α] in
lemma StandsFor.unique {entry : ε} {a b : α} (ha : StandsFor resolve entry a)
    (hb : StandsFor resolve entry b) : a = b :=
  Except.ok.inj ((hindex entry a ha 0).symm.trans (hindex entry b hb 0))

/-- A merged entity is that of an entry, or one of the rig with an id that no entry takes. -/
lemma mem_mergeEntries (h : mergeEntries kind resolve start entries = .ok m) :
    a ∈ m.roster.toList ↔ (∃ entry ∈ entries, StandsFor resolve entry a) ∨
      a ∈ start.toList ∧ ∀ entry ∈ entries, ∀ b, StandsFor resolve entry b →
        Identified.id b ≠ Identified.id a := by
  obtain ⟨as, hstands, hnodup, hroster⟩ := (mergeEntries_ok hindex).mp ⟨m, h, rfl⟩
  have hentry (b : α) : b ∈ as ↔ ∃ entry ∈ entries, StandsFor resolve entry b := by
    constructor
    · exact fun hb => exists_of_mem_left hstands.flip hb
    · rintro ⟨entry, hm, hb⟩
      obtain ⟨c, hc, hstands⟩ := exists_of_mem_left hstands hm
      rwa [StandsFor.unique hindex hb hstands]
  have hfree : Identified.id a ∉ as.map Identified.id ↔
      ∀ entry ∈ entries, ∀ b, StandsFor resolve entry b → Identified.id b ≠ Identified.id a := by
    simp only [List.mem_map, hentry, not_exists, not_and]
    constructor
    · exact fun h entry hm b hb => h b ⟨entry, hm, hb⟩
    · rintro h b ⟨entry, hm, hb⟩
      exact h entry hm b hb
  rw [← hroster, Roster.mem_foldl_insert hnodup, hentry, hfree]

lemma pairwise_of_mergeEntries (h : mergeEntries kind resolve start entries = .ok m) :
    entries.Pairwise fun e e' => ∀ a a', StandsFor resolve e a → StandsFor resolve e' a' →
      Identified.id a ≠ Identified.id a' := by
  obtain ⟨as, hstands, hnodup, -⟩ := (mergeEntries_ok hindex).mp ⟨m, h, rfl⟩
  clear h
  induction hstands with
  | nil => exact .nil
  | @cons e a entries as ha hrest ih =>
    obtain ⟨hnew, hnodup⟩ := List.nodup_cons.mp hnodup
    refine List.pairwise_cons.mpr ⟨fun e' he' b b' hb hb' hid => hnew ?_, ih hnodup⟩
    obtain ⟨c, hc, hstands⟩ := exists_of_mem_left hrest he'
    rw [← StandsFor.unique hindex hb ha, hid, StandsFor.unique hindex hb' hstands]
    exact List.mem_map_of_mem hc

/-- The entry that repeats an id is the fault, if those before it have none. -/
lemma mergeEntries_repeated {before after : List ε} {entry other : ε} {b : α}
    (hbefore : mergeEntries kind resolve start before = .ok m) (hother : other ∈ before)
    (hb : StandsFor resolve other b) (ha : StandsFor resolve entry a)
    (hid : Identified.id b = Identified.id a) :
    mergeEntries kind resolve start (before ++ entry :: after) =
      .error (.duplicateId kind before.length (Identified.id a)) := by
  have hadd : m.add (K := K) kind before.length a =
      .error (.duplicateId kind before.length (Identified.id a)) := by
    by_cases hnew : Identified.id a ∈ m.entered
    · exact if_pos (by simpa using hnew)
    · obtain ⟨m', hm', -⟩ := exists_add (K := K) kind before.length hnew
      have hmore : mergeEntries kind resolve start (before ++ [entry]) = .ok m' := by
        rw [mergeEntries, List.zipIdx_append, List.foldlM_append]
        refine Attempts.bind_ok.mpr ⟨m, hbefore, ?_⟩
        rw [List.zipIdx_singleton, List.foldlM_cons, Nat.zero_add]
        refine Attempts.bind_ok.mpr ⟨m', ?_, rfl⟩
        exact Attempts.bind_ok.mpr ⟨a, hindex entry a ha _, hm'⟩
      have hpairs := pairwise_of_mergeEntries hindex hmore
      exact absurd hid ((List.pairwise_append.mp hpairs).2.2 other hother entry List.mem_cons_self
        b a hb ha)
  rw [mergeEntries, List.zipIdx_append, List.foldlM_append]
  refine Attempts.bind_error.mpr (.inr ⟨m, hbefore, ?_⟩)
  rw [List.zipIdx_cons, List.foldlM_cons, Nat.zero_add]
  refine Attempts.bind_error.mpr (.inl ?_)
  exact Attempts.bind_error.mpr (.inr ⟨a, hindex entry a ha _, hadd⟩)

end Entries

section Resolve

variable {K : Type} {policy : Spec.Policy K}

lemma identify_ok {idPolicy : IdPolicy} {kind : Kind} {index : ℕ} {id name parent : Option String}
    {identity : String × String}
    (h : Spec.identify (K := K) idPolicy kind index id name parent = .ok identity) :
    ∃ label, ((name.filter fun name => !Text.isBlank name) <|>
        id.filter fun id => !Text.isBlank id) = some label ∧
      Identity.resolve? idPolicy kind id parent label = some identity.1 ∧
      identity.2 = (name.filter fun name => !Text.isBlank name).getD identity.1 := by
  simp only [Spec.identify] at h
  split at h
  · cases h
  · next label hlabel =>
    split at h
    · cases h
    · next hid =>
      cases h
      exact ⟨label, hlabel, hid, rfl⟩

lemma identify_index {kind : Kind} {i j : ℕ} {id name parent : Option String}
    {identity : String × String}
    (h : Spec.identify (K := K) policy.idPolicy kind i id name parent = .ok identity) :
    Spec.identify (K := K) policy.idPolicy kind j id name parent = .ok identity := by
  simp only [Spec.identify] at h ⊢
  split at h
  · cases h
  · split at h
    · cases h
    · exact h

variable [Scalar K]

lemma resolveBone_index {entry : Spec.Bone K} {b : Bone K}
    (h : StandsFor (Spec.Bone.resolve policy) entry b) (index : ℕ) :
    entry.resolve policy index = .ok b := by
  obtain ⟨other, h⟩ := h
  obtain ⟨identity, hidentity, h⟩ := Attempts.bind_ok.mp h
  exact Attempts.bind_ok.mpr ⟨identity, identify_index hidentity, h⟩

lemma resolveCube_index {entry : Spec.Cube K} {c : Cube K}
    (h : StandsFor (Spec.Cube.resolve policy) entry c) (index : ℕ) :
    entry.resolve policy index = .ok c := by
  obtain ⟨other, h⟩ := h
  obtain ⟨⟨id, name⟩, hidentity, h⟩ := Attempts.bind_ok.mp h
  refine Attempts.bind_ok.mpr ⟨(id, name), identify_index hidentity, ?_⟩
  dsimp only at h ⊢
  split at h
  · split at h
    · exact h
    · cases h
  · cases h

lemma resolveBone_ok {entry : Spec.Bone K} {b : Bone K}
    (h : StandsFor (Spec.Bone.resolve policy) entry b) :
    Spec.identify (K := K) policy.idPolicy .bone 0 entry.id entry.name
        (entry.parent <|> policy.parent?) = .ok (b.id, b.name) ∧
      b.explicit = entry.flags ∧ ∀ parent ∈ entry.parent, b.parent = some parent := by
  obtain ⟨⟨id, name⟩, hidentity, hb⟩ := Attempts.bind_ok.mp (resolveBone_index h 0)
  cases hb
  refine ⟨hidentity, rfl, fun parent hparent => ?_⟩
  simp [Option.mem_def.mp hparent]

lemma resolveCube_ok {entry : Spec.Cube K} {c : Cube K}
    (h : StandsFor (Spec.Cube.resolve policy) entry c) :
    Spec.identify (K := K) policy.idPolicy .cube 0 entry.id entry.name
        (entry.parent <|> policy.parent?) = .ok (c.id, c.name) ∧
      c.explicit = entry.flags ∧ ∃ box, entry.box? = some box := by
  obtain ⟨⟨id, name⟩, hidentity, hc⟩ := Attempts.bind_ok.mp (resolveCube_index h 0)
  dsimp only at hc
  split at hc
  · split at hc
    next lower upper hbox =>
      cases hc
      exact ⟨hidentity, rfl, _, hbox⟩
    · cases hc
  · cases hc

end Resolve

end Armature.Model
