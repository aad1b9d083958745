import Armature.Proofs.Acts
import Armature.Proofs.Rematching

/-! The live entities after the acts that come of a matching. What was claimed is still there, under
the same marks or those of the desired entity; what was left over is as it was, or removed. So the
next matching follows the first one, and leaves nothing over that should be removed. -/

namespace Armature.Plan

variable {α β : Type} [Desired α] [Named β]

structure Apart (l : List α) : Prop where
  ids : (l.map Identified.id).Nodup
  names : (l.map Desired.name).Nodup

lemma Apart.eq_of_fits {l : List α} (h : Apart l) {a c : α} {b : β} {mark : Mark} (ha : a ∈ l)
    (hc : c ∈ l) (hfits : mark.fits b a = true) (hfits' : mark.fits b c = true) : c = a := by
  cases mark with
  | id =>
    simp only [Mark.fits, beq_iff_eq] at hfits hfits'
    exact List.inj_on_of_nodup_map h.ids hc ha (Option.some.inj (hfits'.symm.trans hfits))
  | name =>
    simp only [Mark.fits, beq_iff_eq] at hfits hfits'
    exact List.inj_on_of_nodup_map h.names hc ha (hfits'.symm.trans hfits)

lemma isOrphan_of_fits {l : List α} {a : α} {b : β} (ha : a ∈ l) (h : Mark.id.fits b a = true) :
    isOrphan l b = false := by
  simp only [Mark.fits, beq_iff_eq] at h
  have hdesired : l.any (Identified.id · == Identified.id a) = true :=
    List.any_eq_true.mpr ⟨a, ha, beq_self_eq_true _⟩
  simp [isOrphan, h, hdesired]

structure Renames (a : α) (b b' : β) : Prop where
  id : Named.id? b' = Named.id? b ∨ Named.id? b' = some (Identified.id a)
  name : Named.name b' = Named.name b ∨ Named.name b' = Desired.name a

namespace Renames

variable {a c : α} {b b' : β}

lemma refl (a : α) (b : β) : Renames a b b := ⟨.inl rfl, .inl rfl⟩

lemma fits_or (h : Renames a b b') (mark : Mark) :
    (∀ c : α, mark.fits b' c = mark.fits b c) ∨ mark.fits b' a = true := by
  cases mark with
  | id =>
    rcases h.id with he | he
    · exact .inl fun c => by simp only [Mark.fits, he]
    · exact .inr (by simp [Mark.fits, he])
  | name =>
    rcases h.name with he | he
    · exact .inl fun c => by simp only [Mark.fits, he]
    · exact .inr (by simp [Mark.fits, he])

lemma keeps (h : Renames a b b') {mark : Mark} (hfits : mark.fits b a = true) :
    mark.fits b' a = true := by
  rcases h.fits_or mark with he | he
  · rw [he, hfits]
  · exact he

lemma eq_or_fits {l : List α} (h : Renames a b b') (hl : Apart l) (ha : a ∈ l) (hc : c ∈ l)
    {mark : Mark} (hfits : mark.fits b' c = true) : c = a ∨ mark.fits b c = true := by
  rcases h.fits_or mark with he | he
  · exact .inr (he c ▸ hfits)
  · exact .inl (hl.eq_of_fits ha hc he hfits)

end Renames

def enacted (act? : α × Option (Slot β) → Option (Act β)) (m : Matching α β)
    (removed : List (Slot β)) : List (Act β) :=
  m.pairs.filterMap act? ++ removed.map fun slot => .remove slot.index

/-- The acts of a plan on the entities of one kind, in any order. -/
structure Enacting (make : α → β) (live : List β) (l : List α) (removed : List (Slot β))
    (acts : List (Act β)) where
  act? : α × Option (Slot β) → Option (Act β)
  fits : ∀ a, ∀ mark : Mark, mark.fits (make a) a = true
  create : ∀ a, act? (a, none) = some (.append (make a))
  update : ∀ a slot act, act? (a, some slot) = some act →
    ∃ change, act = .overwrite slot.index change ∧ Renames a slot.entity (change slot.entity)
  removed_sublist : removed.Sublist (matchUp (slots live) l).free
  perm : acts.Perm (enacted act? (matchUp (slots live) l) removed)

/-- Every desired entity claims what has become of the live one that it claimed before, or what was
created for it. -/
def Rematched (make : α → β) (next : List (Tracked β)) (before after : Matching α β) :
    Prop :=
  ∀ pair ∈ before.pairs, ∃ slot t, (pair.1, some slot) ∈ after.pairs ∧
    next[slot.index]? = some t ∧ t.origin = pair.2.map Slot.index ∧
      (pair.2 = none → t.entity = make pair.1)

namespace Enacting

variable {make : α → β} {live : List β} {l : List α} {removed : List (Slot β)} {acts : List (Act β)}
  {pair : α × Option (Slot β)} {act : Act β} {slot : Slot β} {t : Tracked β}

lemma position?_act? (e : Enacting make live l removed acts) (h : e.act? pair = some act) :
    act.position? = pair.2.map Slot.index := by
  obtain ⟨a, claim⟩ := pair
  cases claim with
  | none =>
    rw [e.create] at h
    obtain rfl := Option.some.inj h
    rfl
  | some slot =>
    obtain ⟨change, rfl, -⟩ := e.update a slot act h
    rfl

lemma mem_acts (e : Enacting make live l removed acts) : act ∈ acts ↔
    (∃ pair ∈ (matchUp (slots live) l).pairs, e.act? pair = some act) ∨
      ∃ slot ∈ removed, act = .remove slot.index := by
  rw [e.perm.mem_iff, enacted, List.mem_append, List.mem_filterMap, List.mem_map]
  simp only [eq_comm]

lemma positions_nodup (e : Enacting make live l removed acts) :
    (acts.filterMap Act.position?).Nodup := by
  refine (e.perm.filterMap Act.position?).nodup_iff.mpr ?_
  refine (matchUp_distinct (slots_distinct live) l).sublist ?_
  rw [enacted, List.filterMap_append, List.map_append]
  refine List.Sublist.append ?_ ?_
  · rw [List.filterMap_filterMap, Matching.claimed, List.map_filterMap]
    refine filterMap_sublist_filterMap fun pair _ index h => ?_
    obtain ⟨act, hact, hindex⟩ := Option.bind_eq_some_iff.mp h
    exact (e.position?_act? hact).symm.trans hindex
  · have hposition : ∀ slot : Slot β, (Act.remove slot.index : Act β).position? = some slot.index :=
      fun _ => rfl
    rw [filterMap_map_some hposition]
    exact e.removed_sublist.map _

lemma act?_of_position (e : Enacting make live l removed acts)
    (hp : pair ∈ (matchUp (slots live) l).pairs) (hslot : pair.2 = some slot) (hact : act ∈ acts)
    (hposition : act.position? = some slot.index) : e.act? pair = some act := by
  have hdistinct := slots_distinct live
  rcases e.mem_acts.mp hact with ⟨other, ho, hact⟩ | ⟨s, hs, rfl⟩
  · rw [e.position?_act? hact] at hposition
    obtain ⟨s, hs, hindex⟩ := Option.map_eq_some_iff.mp hposition
    rwa [claim_unique hdistinct hp ho hslot hs hindex.symm]
  · have hfree := e.removed_sublist.subset hs
    exact (claim_ne_free hdistinct hp hslot hfree (Option.some.inj hposition).symm).elim

lemma removed_of_position (e : Enacting make live l removed acts)
    (hfree : slot ∈ (matchUp (slots live) l).free) (hact : act ∈ acts)
    (hposition : act.position? = some slot.index) : slot ∈ removed := by
  have hdistinct := slots_distinct live
  rcases e.mem_acts.mp hact with ⟨pair, hp, hact⟩ | ⟨s, hs, rfl⟩
  · rw [e.position?_act? hact] at hposition
    obtain ⟨s, hs, hindex⟩ := Option.map_eq_some_iff.mp hposition
    exact (claim_ne_free hdistinct hp hs hfree hindex).elim
  · have hsub := (matchUp_free_sublist (slots live) l).subset
    have hs' := hsub (e.removed_sublist.subset hs)
    rwa [List.inj_on_of_nodup_map hdistinct (hsub hfree) hs' (Option.some.inj hposition).symm]

def fate (acts : List (Act β)) (slot : Slot β) : Option (Tracked β) :=
  acts.foldlM Act.on ⟨some slot.index, slot.entity⟩

/-- What comes to stand for a desired entity. -/
def final (e : Enacting make live l removed acts) : α × Option (Slot β) → β
  | (a, none) => make a
  | (a, some slot) =>
    match e.act? (a, some slot) with
    | some (.overwrite _ change) => change slot.entity
    | _ => slot.entity

lemma final_of_idle (e : Enacting make live l removed acts) {a : α}
    (h : e.act? (a, some slot) = none) : e.final (a, some slot) = slot.entity := by
  simp only [final, h]

lemma final_of_overwrite (e : Enacting make live l removed acts) {a : α} {index : ℕ}
    {change : β → β} (h : e.act? (a, some slot) = some (.overwrite index change)) :
    e.final (a, some slot) = change slot.entity := by
  simp only [final, h]

lemma renames_final (e : Enacting make live l removed acts) (a : α) (slot : Slot β) :
    Renames a slot.entity (e.final (a, some slot)) := by
  cases hact : e.act? (a, some slot) with
  | none => exact e.final_of_idle hact ▸ .refl a slot.entity
  | some act =>
    obtain ⟨change, rfl, hrenames⟩ := e.update a slot act hact
    exact e.final_of_overwrite hact ▸ hrenames

omit [Named β] in
lemma fate_untouched (h : ∀ act ∈ acts, act.position? ≠ some slot.index) :
    fate acts slot = some ⟨some slot.index, slot.entity⟩ := by
  apply Act.foldlM_on_eq_self
  intro index hi horigin
  obtain ⟨act, hm, hposition⟩ := List.mem_filterMap.mp hi
  exact h act hm (hposition.trans horigin.symm)

lemma fate_claimed (e : Enacting make live l removed acts) {a : α}
    (hp : (a, some slot) ∈ (matchUp (slots live) l).pairs) :
    fate acts slot = some ⟨some slot.index, e.final (a, some slot)⟩ := by
  cases hact : e.act? (a, some slot) with
  | none =>
    rw [e.final_of_idle hact]
    exact fate_untouched fun act hm hposition => by
      cases hact.symm.trans (e.act?_of_position hp rfl hm hposition)
  | some act =>
    obtain ⟨change, rfl, -⟩ := e.update a slot act hact
    rw [e.final_of_overwrite hact]
    have hm := e.mem_acts.mpr (.inl ⟨_, hp, hact⟩)
    exact (Act.foldlM_on_eq e.positions_nodup hm rfl rfl).trans (congrArg some (if_pos rfl))

lemma fate_left (e : Enacting make live l removed acts)
    (hfree : slot ∈ (matchUp (slots live) l).free) (hkept : slot ∉ removed) :
    fate acts slot = some ⟨some slot.index, slot.entity⟩ :=
  fate_untouched fun _ hm hposition => hkept (e.removed_of_position hfree hm hposition)

lemma fate_removed (e : Enacting make live l removed acts) (hremoved : slot ∈ removed) :
    fate acts slot = none := by
  have hm := e.mem_acts.mpr (.inr ⟨slot, hremoved, rfl⟩)
  exact (Act.foldlM_on_eq e.positions_nodup hm rfl rfl).trans (if_pos rfl)

/-- The live entities after the acts: those that stand for desired ones, and those that were left over
and are not removed. -/
lemma final_or_left (e : Enacting make live l removed acts)
    (ht : t ∈ acts.foldl Act.carryOut (track live)) :
    (∃ pair ∈ (matchUp (slots live) l).pairs, t = ⟨pair.2.map Slot.index, e.final pair⟩) ∨
      ∃ slot ∈ (matchUp (slots live) l).free, slot ∉ removed ∧
        t = ⟨some slot.index, slot.entity⟩ := by
  -- what was there has a fate, and what is new was appended
  rcases Act.mem_foldl_carryOut.mp ht with ⟨s, hs, hfate⟩ | ⟨entity, hact, rfl⟩
  · obtain ⟨slot, hslot, rfl⟩ := List.mem_map.mp hs
    change fate acts slot = some t at hfate
    rcases List.mem_append.mp ((matchUp_perm (slots_distinct live) l).mem_iff.mpr hslot) with hm | hm
    · obtain ⟨⟨a, claim⟩, hp, hclaim⟩ := List.mem_filterMap.mp hm
      obtain rfl : claim = some slot := hclaim
      obtain rfl := Option.some.inj (hfate.symm.trans (e.fate_claimed hp))
      exact .inl ⟨_, hp, rfl⟩
    · have hkept : slot ∉ removed := fun hremoved => by
        rw [e.fate_removed hremoved] at hfate
        cases hfate
      rw [e.fate_left hm hkept] at hfate
      exact .inr ⟨slot, hm, hkept, (Option.some.inj hfate).symm⟩
  · rcases e.mem_acts.mp hact with ⟨⟨a, claim⟩, hp, hact⟩ | ⟨slot, -, hact⟩
    · cases claim with
      | none =>
        obtain rfl := Act.append.inj (Option.some.inj ((e.create a).symm.trans hact))
        exact .inl ⟨_, hp, rfl⟩
      | some slot =>
        obtain ⟨change, hact, -⟩ := e.update a slot _ hact
        cases hact
    · cases hact

lemma cases_of_mem (e : Enacting make live l removed acts)
    (ht : t ∈ acts.foldl Act.carryOut (track live)) :
    (∃ a, (a, none) ∈ (matchUp (slots live) l).pairs ∧ t = ⟨none, make a⟩) ∨
      (∃ a slot, (a, some slot) ∈ (matchUp (slots live) l).pairs ∧ t.origin = some slot.index ∧
        Renames a slot.entity t.entity) ∨
      ∃ slot ∈ (matchUp (slots live) l).free, slot ∉ removed ∧
        t = ⟨some slot.index, slot.entity⟩ := by
  rcases e.final_or_left ht with ⟨⟨a, claim⟩, hp, rfl⟩ | hleft
  · cases claim with
    | none => exact .inl ⟨a, hp, rfl⟩
    | some slot => exact .inr (.inl ⟨a, slot, hp, rfl, e.renames_final a slot⟩)
  · exact .inr (.inr hleft)

lemma heir_mem (e : Enacting make live l removed acts)
    (hp : pair ∈ (matchUp (slots live) l).pairs) :
    ∃ t ∈ acts.foldl Act.carryOut (track live), t.origin = pair.2.map Slot.index ∧
      (pair.2 = none → t.entity = make pair.1) ∧
        ∀ slot ∈ pair.2, Renames pair.1 slot.entity t.entity := by
  obtain ⟨a, claim⟩ := pair
  cases claim with
  | none =>
    have hact := e.mem_acts.mpr (.inl ⟨_, hp, e.create a⟩)
    exact ⟨_, Act.mem_foldl_carryOut.mpr (.inr ⟨make a, hact, rfl⟩), rfl, fun _ => rfl, fun _ => nofun⟩
  | some slot =>
    have hfate := e.fate_claimed hp
    have hslot : slot ∈ slots live := mem_free_of_claim (slots_distinct live) hp rfl
    refine ⟨_, Act.mem_foldl_carryOut.mpr (.inl ⟨_, List.mem_map_of_mem hslot, hfate⟩), rfl, nofun, ?_⟩
    rintro s hs
    obtain rfl := Option.some.inj hs
    exact e.renames_final a slot

lemma follows (e : Enacting make live l removed acts) (hl : Apart l) :
    Follows (slots live) (slots (acts.foldl Act.carryOut (track live))) l where
  distinct := slots_distinct _
  ordered := pairwise_slots ((track_ascending live).foldl acts)
  heirs pair hp := by
    obtain ⟨t, ht, horigin, hmade, hrenames⟩ := e.heir_mem hp
    obtain ⟨s, hs, rfl⟩ := exists_slot ht
    refine ⟨s, hs, horigin, fun hnone => ?_, fun slot hslot mark hfits => ?_⟩
    · rw [Mark.fits_tracked, hmade hnone]
      exact e.fits pair.1 .id
    · rw [Mark.fits_tracked]
      exact (hrenames slot hslot).keeps hfits
  marks t ht a ha mark hfits := by
    rw [Mark.fits_tracked] at hfits
    rcases e.cases_of_mem (entity_mem ht) with ⟨b, hp, he⟩ | ⟨b, slot, hp, horigin, hrenames⟩ |
      ⟨slot, hfree, -, he⟩
    · rw [he] at hfits ⊢
      obtain rfl := hl.eq_of_fits (mem_of_pair hp) ha (e.fits b mark) hfits
      exact .inr ⟨none, hp, rfl⟩
    · rcases hrenames.eq_or_fits hl (mem_of_pair hp) ha hfits with rfl | hold
      · exact .inr ⟨some slot, hp, horigin⟩
      · exact .inl ⟨slot, mem_free_of_claim (slots_distinct live) hp rfl, horigin, hold⟩
    · rw [he] at hfits ⊢
      exact .inl ⟨slot, (matchUp_free_sublist _ _).subset hfree, rfl, hfits⟩

lemma claim_again (e : Enacting make live l removed acts) (hl : Apart l)
    (hp : pair ∈ (matchUp (slots live) l).pairs) :
    ∃ t, (pair.1, some t) ∈ (matchUp (slots (acts.foldl Act.carryOut (track live))) l).pairs ∧
      t.entity.origin = pair.2.map Slot.index ∧ (pair.2 = none → t.entity.entity = make pair.1) := by
  obtain ⟨t, ht, horigin, hid⟩ := matchUp_follows hl.ids (slots_ascending live) (e.follows hl) hp
  refine ⟨t, ht, horigin, fun hnone => ?_⟩
  have hm := entity_mem (mem_free_of_claim (slots_distinct _) ht rfl)
  rw [hnone] at horigin
  rcases e.cases_of_mem hm with ⟨a, ha, he⟩ | ⟨_, slot, -, hsome, -⟩ | ⟨slot, -, -, he⟩
  · have hfits := hid hnone
    rw [Mark.fits_tracked, he] at hfits
    rw [he, hl.eq_of_fits (mem_of_pair ha) (mem_of_pair hp) (e.fits a .id) hfits]
  · rw [hsome] at horigin
    cases horigin
  · rw [he] at horigin
    cases horigin

lemma orphans_eq_nil (e : Enacting make live l removed acts) (hl : Apart l)
    (hremoved : (matchUp (slots live) l).orphans l ⊆ removed) :
    (matchUp (slots (acts.foldl Act.carryOut (track live))) l).orphans l = [] := by
  refine List.filter_eq_nil_iff.mpr fun t ht => ?_
  have hslot := (matchUp_free_sublist _ _).subset ht
  rcases e.cases_of_mem (entity_mem hslot) with ⟨a, hp, he⟩ | ⟨a, slot, hp, horigin, -⟩ |
    ⟨slot, hfree, hkept, he⟩
  · rw [isOrphan_of_fits (mem_of_pair hp) (by rw [Mark.fits_tracked, he]; exact e.fits a .id)]
    exact Bool.false_ne_true
  · -- what was claimed is claimed again, and so is not left over
    obtain ⟨s, hs, horigin', -⟩ := e.claim_again hl hp
    have hs' := mem_free_of_claim (slots_distinct _) hs rfl
    obtain rfl := (e.follows hl).eq_of_origin hslot hs' horigin horigin'
    exact (claim_ne_free (slots_distinct _) hs rfl ht rfl).elim
  · intro horphan
    rw [he] at horphan
    exact hkept (hremoved (List.mem_filter.mpr ⟨hfree, horphan⟩))

lemma rematched (e : Enacting make live l removed acts) (hl : Apart l) :
    Rematched make (acts.foldl Act.carryOut (track live)) (matchUp (slots live) l)
      (matchUp (slots ((acts.foldl Act.carryOut (track live)).map Tracked.entity)) l) := by
  intro pair hp
  obtain ⟨t, ht, horigin, hmade⟩ := e.claim_again hl hp
  refine ⟨t.forget, t.entity, ?_, ?_, horigin, hmade⟩
  · rw [slots_map_forget, (matchUp_forget _ l).1]
    exact List.mem_map.mpr ⟨_, ht, rfl⟩
  · exact mem_slots.mp (mem_free_of_claim (slots_distinct _) ht rfl)

lemma no_orphans (e : Enacting make live l removed acts) (hl : Apart l)
    (hremoved : (matchUp (slots live) l).orphans l ⊆ removed) :
    (matchUp (slots ((acts.foldl Act.carryOut (track live)).map Tracked.entity)) l).orphans l =
      [] := by
  have horphans := List.filter_eq_nil_iff.mp (e.orphans_eq_nil hl hremoved)
  refine List.filter_eq_nil_iff.mpr fun slot hslot => ?_
  rw [slots_map_forget, (matchUp_forget _ l).2] at hslot
  obtain ⟨t, ht, rfl⟩ := List.mem_map.mp hslot
  exact horphans t ht

end Enacting

lemma Rematched.claimed {make : α → β} {free other : List (Slot β)} {next : List (Tracked β)}
    {l : List α} (h : Rematched make next (matchUp free l) (matchUp other l)) (hl : Apart l)
    {pair : α × Option (Slot β)} (hp : pair ∈ (matchUp other l).pairs) : ∃ slot, pair.2 = some slot := by
  obtain ⟨claim, hfirst⟩ := exists_pair free (mem_of_pair hp)
  obtain ⟨slot, -, hslot, -⟩ := h _ hfirst
  have hpair := List.inj_on_of_nodup_map (pairs_fst_nodup hl.ids) hp hslot rfl
  exact ⟨slot, congrArg Prod.snd hpair⟩

end Armature.Plan
