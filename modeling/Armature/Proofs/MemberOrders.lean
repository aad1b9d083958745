import Armature.Json.Outline
import Mathlib.Data.String.Basic
import Mathlib.Tactic

/-! JSON values up to the order of their members. Reading in a value sorts its members and loses
nothing else, as long as no two members of one object have the same key. -/

namespace Armature

/-- What a number of a JSON value can be. -/
def Number.isProper : Number → Bool
  | integer n => decide (-UInt64.size ≤ 2 * n ∧ n < UInt64.size)
  | float x => x.isFinite

namespace Json

mutual

/-- Whether all numbers can be, and no two members of one object have the same key. -/
def isProper : Json → Bool
  | number n => n.isProper
  | array items => areProper items
  | object members => decide (members.map Prod.fst).Nodup && membersProper members
  | _ => true

def areProper : List Json → Bool
  | [] => true
  | item :: rest => isProper item && areProper rest

def membersProper : List (String × Json) → Bool
  | [] => true
  | (_, value) :: rest => isProper value && membersProper rest

end

mutual

/-- Equality up to the order of members and up to a relation on numbers. -/
def Alike (related : Number → Number → Prop) : Json → Json → Prop
  | null, null => True
  | bool a, bool b => a = b
  | number m, number n => related m n
  | text s, text t => s = t
  | array as, array bs => AlikeItems related as bs
  | object as, object bs => ∃ cs, bs.Perm cs ∧ AlikeMembers related as cs
  | _, _ => False

def AlikeItems (related : Number → Number → Prop) : List Json → List Json → Prop
  | [], [] => True
  | a :: as, b :: bs => Alike related a b ∧ AlikeItems related as bs
  | _, _ => False

def AlikeMembers (related : Number → Number → Prop) :
    List (String × Json) → List (String × Json) → Prop
  | [], [] => True
  | (k, a) :: as, (l, b) :: bs => k = l ∧ Alike related a b ∧ AlikeMembers related as bs
  | _, _ => False

end

/-- Equality up to the order of members. -/
abbrev Reordered : Json → Json → Prop := Alike Eq

section Alike

variable {related related' : Number → Number → Prop}

mutual

lemma Alike.refl (h : ∀ n, related n n) : (v : Json) → Alike related v v
  | null | bool _ | text _ => by simp only [Alike]
  | number n => h n
  | array items => AlikeItems.refl h items
  | object members => ⟨members, .refl _, AlikeMembers.refl h members⟩

lemma AlikeItems.refl (h : ∀ n, related n n) : (items : List Json) → AlikeItems related items items
  | [] => trivial
  | item :: rest => ⟨Alike.refl h item, AlikeItems.refl h rest⟩

lemma AlikeMembers.refl (h : ∀ n, related n n) :
    (members : List (String × Json)) → AlikeMembers related members members
  | [] => trivial
  | (_, value) :: rest => ⟨rfl, Alike.refl h value, AlikeMembers.refl h rest⟩

end

lemma alikeMembers_iff {as bs : List (String × Json)} :
    AlikeMembers related as bs ↔
      List.Forall₂ (fun a b => a.1 = b.1 ∧ Alike related a.2 b.2) as bs := by
  induction as generalizing bs with
  | nil => cases bs <;> simp [AlikeMembers]
  | cons a as ih =>
    cases bs with
    | nil => simp [AlikeMembers]
    | cons b bs => rw [AlikeMembers, ih, List.forall₂_cons, and_assoc]

mutual

lemma Alike.symm (h : ∀ m n, related m n → related' n m) : (v w : Json) → Alike related v w →
    Alike related' w v
  | null, null, _ => trivial
  | bool _, bool _, hvw => Eq.symm hvw
  | number m, number n, hvw => h m n hvw
  | text _, text _, hvw => Eq.symm hvw
  | array as, array bs, hvw => AlikeItems.symm h as bs hvw
  | object as, object bs, ⟨cs, hperm, hmembers⟩ => by
    have hcs := alikeMembers_iff.mp (AlikeMembers.symm h as cs hmembers)
    obtain ⟨ds, hds, hperm'⟩ := List.perm_comp_forall₂ hperm hcs
    exact ⟨ds, hperm'.symm, alikeMembers_iff.mpr hds⟩

lemma AlikeItems.symm (h : ∀ m n, related m n → related' n m) : (as bs : List Json) →
    AlikeItems related as bs → AlikeItems related' bs as
  | [], [], _ => trivial
  | a :: as, b :: bs, ⟨hab, hrest⟩ => ⟨Alike.symm h a b hab, AlikeItems.symm h as bs hrest⟩

lemma AlikeMembers.symm (h : ∀ m n, related m n → related' n m) :
    (as bs : List (String × Json)) → AlikeMembers related as bs → AlikeMembers related' bs as
  | [], [], _ => trivial
  | (_, a) :: as, (_, b) :: bs, ⟨hkey, hab, hrest⟩ =>
    ⟨hkey.symm, Alike.symm h a b hab, AlikeMembers.symm h as bs hrest⟩

end

mutual

lemma Alike.trans {composed : Number → Number → Prop}
    (h : ∀ l m n, related l m → related' m n → composed l n) :
    (u v w : Json) → Alike related u v → Alike related' v w → Alike composed u w
  | null, null, null, _, _ => trivial
  | bool _, bool _, bool _, huv, hvw => Eq.trans huv hvw
  | number l, number m, number n, huv, hvw => h l m n huv hvw
  | text _, text _, text _, huv, hvw => Eq.trans huv hvw
  | array as, array bs, array cs, huv, hvw => AlikeItems.trans h as bs cs huv hvw
  | object as, object bs, object cs, ⟨bs', hbs, huv⟩, ⟨cs', hcs, hvw⟩ => by
    obtain ⟨ds, hds, hperm⟩ := List.perm_comp_forall₂ hbs.symm (alikeMembers_iff.mp hvw)
    exact ⟨ds, hcs.trans hperm.symm, AlikeMembers.trans h as bs' ds huv (alikeMembers_iff.mpr hds)⟩

lemma AlikeItems.trans {composed : Number → Number → Prop}
    (h : ∀ l m n, related l m → related' m n → composed l n) :
    (as bs cs : List Json) → AlikeItems related as bs → AlikeItems related' bs cs →
      AlikeItems composed as cs
  | [], [], [], _, _ => trivial
  | a :: as, b :: bs, c :: cs, ⟨hab, has⟩, ⟨hbc, hbs⟩ =>
    ⟨Alike.trans h a b c hab hbc, AlikeItems.trans h as bs cs has hbs⟩

lemma AlikeMembers.trans {composed : Number → Number → Prop}
    (h : ∀ l m n, related l m → related' m n → composed l n) :
    (as bs cs : List (String × Json)) → AlikeMembers related as bs → AlikeMembers related' bs cs →
      AlikeMembers composed as cs
  | [], [], [], _, _ => trivial
  | (_, a) :: as, (_, b) :: bs, (_, c) :: cs, ⟨hkey, hab, has⟩, ⟨hkey', hbc, hbs⟩ =>
    ⟨hkey.trans hkey', Alike.trans h a b c hab hbc, AlikeMembers.trans h as bs cs has hbs⟩

end

lemma AlikeMembers.exists_right {key : String} {as bs : List (String × Json)}
    (h : AlikeMembers related as bs) {a : Json} (ha : (key, a) ∈ as) :
    ∃ b, (key, b) ∈ bs ∧ Alike related a b := by
  rw [alikeMembers_iff] at h
  induction h with
  | nil => cases ha
  | @cons first first' _ _ hfirst _ ih =>
    rcases List.mem_cons.mp ha with rfl | ha
    · exact ⟨first'.2, List.mem_cons.mpr (.inl (Prod.ext hfirst.1 rfl)), hfirst.2⟩
    · obtain ⟨b, hb, hab⟩ := ih ha
      exact ⟨b, List.mem_cons_of_mem _ hb, hab⟩

lemma AlikeMembers.keys_eq {as bs : List (String × Json)} (h : AlikeMembers related as bs) :
    as.map Prod.fst = bs.map Prod.fst := by
  rw [alikeMembers_iff] at h
  induction h with
  | nil => rfl
  | cons hab _ ih => rw [List.map_cons, List.map_cons, hab.1, ih]

end Alike

section Sorting

variable {key : String} {value : Json} {members members' : List (String × Json)}

/-- In ascending order of the keys, each of them once. -/
def Ascending (members : List (String × Json)) : Prop := members.Pairwise fun a b => a.1 < b.1

lemma insertMember_perm (h : key ∉ members.map Prod.fst) :
    (insertMember key value members).Perm ((key, value) :: members) := by
  induction members with
  | nil => exact .refl _
  | cons member rest ih =>
    obtain ⟨k, v⟩ := member
    rw [List.map_cons, List.mem_cons, not_or] at h
    rw [insertMember, if_neg h.1]
    split
    · exact .refl _
    · exact ((ih h.2).cons _).trans (.swap ..)

lemma key_of_mem_insertMember {member : String × Json} (h : member ∈ insertMember key value members) :
    member.1 = key ∨ member ∈ members := by
  induction members with
  | nil => simp_all [insertMember]
  | cons first rest ih =>
    obtain ⟨k, v⟩ := first
    rw [insertMember] at h
    split at h
    · simpa [or_assoc, or_comm] using (List.mem_cons.mp h).imp_left (congrArg Prod.fst)
    · split at h
      · rcases List.mem_cons.mp h with rfl | h
        · exact .inl rfl
        · exact .inr (List.mem_cons_of_mem _ h)
      · rcases List.mem_cons.mp h with rfl | h
        · exact .inr List.mem_cons_self
        · exact (ih h).imp_right (List.mem_cons_of_mem _)

lemma Ascending.insertMember (h : Ascending members) :
    Ascending (insertMember key value members) := by
  induction members with
  | nil => exact List.pairwise_singleton _ _
  | cons first rest ih =>
    obtain ⟨k, v⟩ := first
    obtain ⟨hfirst, hrest⟩ := List.pairwise_cons.mp h
    rw [Json.insertMember]
    split_ifs with hlt heq
    · refine List.pairwise_cons.mpr ⟨fun member hmember => ?_, h⟩
      rcases List.mem_cons.mp hmember with rfl | hmember
      · exact hlt
      · exact hlt.trans (hfirst member hmember)
    · subst heq
      exact List.pairwise_cons.mpr ⟨hfirst, hrest⟩
    · refine List.pairwise_cons.mpr ⟨fun member hmember => ?_, ih hrest⟩
      rcases key_of_mem_insertMember hmember with he | hmember
      · exact he ▸ lt_of_le_of_ne (not_lt.mp hlt) (Ne.symm heq)
      · exact hfirst member hmember

def insertMembers (sorted members : List (String × Json)) : List (String × Json) :=
  members.foldl (fun sorted (key, value) => insertMember key value sorted) sorted

lemma Ascending.insertMembers {sorted : List (String × Json)} (h : Ascending sorted) :
    Ascending (insertMembers sorted members) := by
  induction members generalizing sorted with
  | nil => exact h
  | cons member rest ih => exact ih h.insertMember

lemma insertMembers_perm {sorted : List (String × Json)}
    (h : ((sorted ++ members).map Prod.fst).Nodup) :
    (insertMembers sorted members).Perm (sorted ++ members) := by
  induction members generalizing sorted with
  | nil => simp [insertMembers]
  | cons member rest ih =>
    have hmiddle : (sorted ++ member :: rest).Perm (member :: sorted ++ rest) := List.perm_middle
    have hnodup := ((hmiddle.map Prod.fst).nodup_iff.mp h)
    have hnew : member.1 ∉ sorted.map Prod.fst := fun hmem => by
      rw [List.cons_append, List.map_cons, List.nodup_cons, List.map_append] at hnodup
      exact hnodup.1 (List.mem_append_left _ hmem)
    have hinsert := (@insertMember_perm member.1 member.2 sorted hnew).append_right rest
    exact (ih ((hinsert.map Prod.fst).nodup_iff.mpr hnodup)).trans (hinsert.trans hmiddle.symm)

lemma insertMembers_nil_perm (h : (members.map Prod.fst).Nodup) :
    (insertMembers [] members).Perm members := @insertMembers_perm members [] h

lemma ofMembers_perm (h : (members.map Prod.fst).Nodup) (hperm : members.Perm members') :
    ofMembers members = ofMembers members' := by
  have h' : (members'.map Prod.fst).Nodup := (hperm.map _).nodup_iff.mp h
  have hsorted : Ascending [] := List.Pairwise.nil
  have hinserted : (insertMembers [] members).Perm (insertMembers [] members') :=
    (insertMembers_nil_perm h).trans (hperm.trans (insertMembers_nil_perm h').symm)
  exact congrArg object (List.Perm.eq_of_pairwise (fun a b _ _ hab hba => (lt_asymm hab hba).elim)
    hsorted.insertMembers hsorted.insertMembers hinserted)

lemma keys_sortedMembers (members : List (String × Json)) :
    (sortedMembers members).map Prod.fst = members.map Prod.fst := by
  induction members with
  | nil => rfl
  | cons member rest ih => rw [sortedMembers, List.map_cons, List.map_cons, ih]

end Sorting

section Reordered

section Members

variable {as bs : List (String × Json)} {key : String}

lemma lookup_eq_some (h : (as.map Prod.fst).Nodup) {a : Json} :
    as.lookup key = some a ↔ (key, a) ∈ as := by
  induction as with
  | nil => simp
  | cons member rest ih =>
    obtain ⟨k, b⟩ := member
    obtain ⟨hnew, hrest⟩ := List.nodup_cons.mp h
    by_cases hk : key = k
    · subst hk
      have hnot : (key, a) ∉ rest := fun hmem => hnew (List.mem_map.mpr ⟨_, hmem, rfl⟩)
      simp [hnot, eq_comm]
    · rw [List.lookup_cons, beq_false_of_ne hk, List.mem_cons]
      simp [hk, ih hrest]

lemma Reordered.nodup (h : Reordered (object as) (object bs)) (hkeys : (as.map Prod.fst).Nodup) :
    (bs.map Prod.fst).Nodup := by
  obtain ⟨cs, hperm, hcs⟩ := h
  rw [(hperm.map _).nodup_iff, ← hcs.keys_eq]
  exact hkeys

lemma Reordered.exists_member (h : Reordered (object as) (object bs)) {a : Json} (ha : (key, a) ∈ as) :
    ∃ b, (key, b) ∈ bs ∧ Reordered a b := by
  obtain ⟨cs, hperm, hcs⟩ := h
  obtain ⟨b, hb, hab⟩ := hcs.exists_right ha
  exact ⟨b, hperm.mem_iff.mpr hb, hab⟩

/-- The members with another key. -/
def without (key : String) (members : List (String × Json)) : List (String × Json) :=
  members.filter (·.1 ≠ key)

lemma without_of_notMem (h : key ∉ as.map Prod.fst) : without key as = as :=
  List.filter_eq_self.mpr fun a ha => decide_eq_true fun hkey : a.1 = key =>
    h (hkey ▸ List.mem_map.mpr ⟨a, ha, rfl⟩)

lemma without_cons_self {value : Json} (h : key ∉ as.map Prod.fst) :
    without key ((key, value) :: as) = as := by
  rw [without, List.filter_cons_of_neg (by simp)]
  exact without_of_notMem h

lemma without_cons_of_ne {a : String × Json} (h : a.1 ≠ key) :
    without key (a :: as) = a :: without key as :=
  List.filter_cons_of_pos (decide_eq_true h)

lemma Reordered.without (key : String) (h : Reordered (object as) (object bs)) :
    Reordered (object (without key as)) (object (without key bs)) := by
  obtain ⟨cs, hperm, hcs⟩ := h
  refine ⟨Json.without key cs, hperm.filter _, ?_⟩
  rw [alikeMembers_iff] at hcs ⊢
  exact List.rel_filter (fun a b hab => by simp [hab.1]) hcs

end Members

lemma proper_object {members : List (String × Json)} :
    (object members).isProper = true ↔
      (members.map Prod.fst).Nodup ∧ membersProper members = true := by
  rw [isProper, Bool.and_eq_true, decide_eq_true_eq]

lemma sortedMembers_perm {members members' : List (String × Json)} (h : members.Perm members') :
    (sortedMembers members).Perm (sortedMembers members') := by
  have hmap (members : List (String × Json)) :
      sortedMembers members = members.map fun member => (member.1, member.2.sorted) := by
    induction members with
    | nil => rfl
    | cons member rest ih => rw [sortedMembers, ih, List.map_cons]
  rw [hmap, hmap]
  exact h.map _

mutual

lemma sorted_congr : (a b : Json) → a.isProper = true → Reordered a b → a.sorted = b.sorted
  | null, null, _, _ => rfl
  | bool _, bool _, _, h => congrArg bool h
  | number _, number _, _, h => congrArg number h
  | text _, text _, _, h => congrArg text h
  | array as, array bs, ha, h => congrArg array (sortedItems_congr as bs ha h)
  | object as, object bs, ha, ⟨cs, hperm, h⟩ => by
    obtain ⟨hkeys, hmembers⟩ := proper_object.mp ha
    have hsorted : sortedMembers as = sortedMembers cs := sortedMembers_congr as cs hmembers h
    have hkeys' : ((sortedMembers as).map Prod.fst).Nodup := by rwa [keys_sortedMembers]
    rw [sorted, sorted]
    exact ofMembers_perm hkeys' (hsorted ▸ (sortedMembers_perm hperm).symm)

lemma sortedItems_congr : (as bs : List Json) → areProper as = true → AlikeItems Eq as bs →
    sortedItems as = sortedItems bs
  | [], [], _, _ => rfl
  | a :: as, b :: bs, ha, ⟨h, hrest⟩ => by
    rw [areProper, Bool.and_eq_true] at ha
    rw [sortedItems, sortedItems, sorted_congr a b ha.1 h, sortedItems_congr as bs ha.2 hrest]

lemma sortedMembers_congr : (as bs : List (String × Json)) → membersProper as = true →
    AlikeMembers Eq as bs → sortedMembers as = sortedMembers bs
  | [], [], _, _ => rfl
  | (k, a) :: as, (l, b) :: bs, ha, ⟨hkey, h, hrest⟩ => by
    rw [membersProper, Bool.and_eq_true] at ha
    rw [sortedMembers, sortedMembers, hkey, sorted_congr a b ha.1 h,
      sortedMembers_congr as bs ha.2 hrest]

end

mutual

/-- A value that is read in has its members in another order at most. -/
lemma reordered_sorted : (a : Json) → a.isProper = true → Reordered a a.sorted
  | null, _ | bool _, _ | number _, _ | text _, _ => Alike.refl (fun _ => rfl) _
  | array items, h => reordered_sortedItems items h
  | object members, h => by
    obtain ⟨hkeys, hmembers⟩ := proper_object.mp h
    refine ⟨sortedMembers members, ?_, reordered_sortedMembers members hmembers⟩
    exact insertMembers_nil_perm (by rwa [keys_sortedMembers])

lemma reordered_sortedItems : (items : List Json) → areProper items = true →
    AlikeItems Eq items (sortedItems items)
  | [], _ => trivial
  | item :: rest, h => by
    rw [areProper, Bool.and_eq_true] at h
    exact ⟨reordered_sorted item h.1, reordered_sortedItems rest h.2⟩

lemma reordered_sortedMembers : (members : List (String × Json)) → membersProper members = true →
    AlikeMembers Eq members (sortedMembers members)
  | [], _ => trivial
  | (_, value) :: rest, h => by
    rw [membersProper, Bool.and_eq_true] at h
    exact ⟨rfl, reordered_sorted value h.1, reordered_sortedMembers rest h.2⟩

end

lemma sorted_sorted {a : Json} (h : a.isProper = true) : a.sorted.sorted = a.sorted :=
  (sorted_congr _ _ h (reordered_sorted a h)).symm

lemma membersProper_iff {members : List (String × Json)} :
    membersProper members = true ↔ ∀ member ∈ members, member.2.isProper = true := by
  induction members with
  | nil => simp [membersProper]
  | cons member rest ih => rw [membersProper, Bool.and_eq_true, ih, List.forall_mem_cons]

lemma proper_without {members : List (String × Json)} (key : String)
    (h : (object members).isProper = true) : (object (without key members)).isProper = true := by
  obtain ⟨hkeys, hmembers⟩ := proper_object.mp h
  refine proper_object.mpr ⟨hkeys.sublist (List.filter_sublist.map _), membersProper_iff.mpr ?_⟩
  exact fun member hmember => membersProper_iff.mp hmembers member (List.mem_of_mem_filter hmember)

lemma areProper_iff {items : List Json} :
    areProper items = true ↔ ∀ item ∈ items, item.isProper = true := by
  induction items with
  | nil => simp [areProper]
  | cons item rest ih => rw [areProper, Bool.and_eq_true, ih, List.forall_mem_cons]

mutual

lemma proper_of_reordered : (a b : Json) → a.isProper = true → Reordered a b → b.isProper = true
  | null, null, _, _ | bool _, bool _, _, _ | text _, text _, _, _ => rfl
  | number m, number n, ha, h => by
    obtain rfl : m = n := h
    exact ha
  | array as, array bs, ha, h => areProper_of_reordered as bs ha h
  | object as, object bs, ha, ⟨cs, hperm, h⟩ => by
    obtain ⟨hkeys, hmembers⟩ := proper_object.mp ha
    have hcs := membersProper_iff.mp (membersProper_of_reordered as cs hmembers h)
    refine proper_object.mpr ⟨?_, membersProper_iff.mpr fun b hb => hcs b (hperm.mem_iff.mp hb)⟩
    rw [(hperm.map _).nodup_iff, ← h.keys_eq]
    exact hkeys

lemma areProper_of_reordered : (as bs : List Json) → areProper as = true → AlikeItems Eq as bs →
    areProper bs = true
  | [], [], _, _ => rfl
  | a :: as, b :: bs, ha, ⟨h, hrest⟩ => by
    rw [areProper, Bool.and_eq_true] at ha ⊢
    exact ⟨proper_of_reordered a b ha.1 h, areProper_of_reordered as bs ha.2 hrest⟩

lemma membersProper_of_reordered : (as bs : List (String × Json)) → membersProper as = true →
    AlikeMembers Eq as bs → membersProper bs = true
  | [], [], _, _ => rfl
  | (_, a) :: as, (_, b) :: bs, ha, ⟨_, h, hrest⟩ => by
    rw [membersProper, Bool.and_eq_true] at ha ⊢
    exact ⟨proper_of_reordered a b ha.1 h, membersProper_of_reordered as bs ha.2 hrest⟩

end

end Reordered

namespace Outline

mutual

lemma value?_ofJson : (v : Json) → (ofJson v).value? = some v.sorted
  | .null | .bool _ | .number _ | .text _ => by simp only [ofJson, value?, sorted]
  | .array items => by simp [ofJson, value?, sorted, items?_ofItems items]
  | .object members => by simp [ofJson, value?, sorted, members?_ofMembers members]

lemma items?_ofItems : (items : List Json) → items? (ofItems items) = some (sortedItems items)
  | [] => rfl
  | item :: rest => by
    simp [ofItems, items?, sortedItems, value?_ofJson item, items?_ofItems rest]

lemma members?_ofMembers : (members : List (String × Json)) →
    members? (ofMembers members) = some (sortedMembers members)
  | [] => rfl
  | (key, value) :: rest => by
    simp [ofMembers, members?, sortedMembers, value?_ofJson value, members?_ofMembers rest]

end

mutual

lemma isComplete_ofJson : (v : Json) → (ofJson v).isComplete = true
  | .null | .bool _ | .number _ | .text _ => by simp only [ofJson, isComplete]
  | .array items => by simp [ofJson, isComplete, areComplete_ofItems items]
  | .object members => by simp [ofJson, isComplete, membersComplete_ofMembers members]

lemma areComplete_ofItems : (items : List Json) → areComplete (ofItems items) = true
  | [] => rfl
  | item :: rest => by simp [ofItems, areComplete, isComplete_ofJson item, areComplete_ofItems rest]

lemma membersComplete_ofMembers : (members : List (String × Json)) →
    membersComplete (ofMembers members) = true
  | [] => rfl
  | (_, value) :: rest => by
    simp [ofMembers, membersComplete, isComplete_ofJson value, membersComplete_ofMembers rest]

end

end Outline

end Json

end Armature
