import Armature.Proofs.Bearers
import Armature.Proofs.Sequencing

/-! What the modes let through. Nothing is claimed before `create` ends at a live entity, so that it
asks for live ids and names alone; whether `patch` finds everything depends on what earlier entities
have taken. -/

namespace Armature.Plan

section First

variable {α γ : Type} {p : α → Prop} {l : List α} {a b : α}

/-- The first entity with a property. -/
def First (p : α → Prop) (l : List α) (a : α) : Prop :=
  p a ∧ ∃ before after, l = before ++ a :: after ∧ ∀ b ∈ before, ¬ p b

lemma First.mem (h : First p l a) : a ∈ l := by
  obtain ⟨-, before, after, rfl, -⟩ := h
  simp

lemma not_first_nil : ¬ First p [] a := by
  rintro ⟨-, before, after, h, -⟩
  cases before <;> cases h

lemma first_cons_of (h : p b) : First p (b :: l) a ↔ a = b := by
  constructor
  · rintro ⟨-, _ | ⟨c, before⟩, after, hl, hbefore⟩
    · exact (List.cons.inj hl).1.symm
    · obtain rfl := (List.cons.inj hl).1
      exact (hbefore b List.mem_cons_self h).elim
  · rintro rfl
    exact ⟨h, [], l, rfl, by simp⟩

lemma first_cons_of_not (h : ¬ p b) : First p (b :: l) a ↔ First p l a := by
  constructor
  · rintro ⟨ha, _ | ⟨c, before⟩, after, hl, hbefore⟩
    · obtain rfl := (List.cons.inj hl).1
      exact (h ha).elim
    · obtain ⟨rfl, rfl⟩ := List.cons.inj hl
      exact ⟨ha, before, after, rfl, fun x hx => hbefore x (List.mem_cons_of_mem _ hx)⟩
  · rintro ⟨ha, before, after, rfl, hbefore⟩
    exact ⟨ha, b :: before, after, rfl, List.forall_mem_cons.mpr ⟨h, hbefore⟩⟩

lemma exists_first_or_forall (p : α → Prop) (l : List α) :
    (∃ a, First p l a) ∨ ∀ a ∈ l, ¬ p a := by
  induction l with
  | nil => exact .inr (by simp)
  | cons b l ih =>
    by_cases h : p b
    · exact .inl ⟨b, (first_cons_of h).mpr rfl⟩
    · rcases ih with ⟨a, ha⟩ | hall
      · exact .inl ⟨a, (first_cons_of_not h).mpr ha⟩
      · exact .inr (List.forall_mem_cons.mpr ⟨h, hall⟩)

lemma exists_find?_iff_first {pairs : List (α × γ)} {q : α × γ → Bool}
    (h : ∀ pair ∈ pairs, q pair = true ↔ p pair.1) :
    (∃ c, pairs.find? q = some (a, c)) ↔ First p (pairs.map Prod.fst) a := by
  induction pairs with
  | nil => simp [not_first_nil]
  | cons pair pairs ih =>
    obtain ⟨hpair, hpairs⟩ := List.forall_mem_cons.mp h
    rw [List.map_cons]
    by_cases hq : q pair = true
    · rw [first_cons_of (hpair.mp hq), List.find?_cons_of_pos hq]
      constructor
      · rintro ⟨c, hc⟩
        rw [Option.some.inj hc]
      · rintro rfl
        exact ⟨pair.2, rfl⟩
    · rw [first_cons_of_not (hpair.not.mp hq), List.find?_cons_of_neg hq, ih hpairs]

end First

section Greedy

variable {α β : Type} [Desired α] [Named β] {live : List β} {taken : List ℕ} {mark : Mark} {a : α}
  {l : List α}

/-- The first live entity with a mark of a desired one that is not taken. -/
structure FirstFree (live : List β) (taken : List ℕ) (mark : Mark) (a : α) (i : ℕ) : Prop where
  fits : ∃ b, live[i]? = some b ∧ mark.fits b a = true
  free : i ∉ taken
  first : ∀ j < i, ∀ b, live[j]? = some b → mark.fits b a = true → j ∈ taken

def NoneFree (live : List β) (taken : List ℕ) (mark : Mark) (a : α) : Prop :=
  ∀ i b, live[i]? = some b → mark.fits b a = true → i ∈ taken

/-- What a desired entity takes of a live model of which some is taken: the first one with its id, or
else the first one with its name. -/
inductive Choice (live : List β) (taken : List ℕ) (a : α) : Option ℕ → Prop
  | byId {i : ℕ} : FirstFree live taken .id a i → Choice live taken a (some i)
  | byName {i : ℕ} : NoneFree live taken .id a → FirstFree live taken .name a i →
      Choice live taken a (some i)
  | missing : NoneFree live taken .id a → NoneFree live taken .name a → Choice live taken a none

/-- The choices of desired entities that take live ones in turn. -/
inductive Greedy (live : List β) : (taken : List ℕ) → List α → List (Option ℕ) → Prop
  | nil {taken : List ℕ} : Greedy live taken [] []
  | cons {taken : List ℕ} {a : α} {l : List α} {choice : Option ℕ} {choices : List (Option ℕ)} :
      Choice live taken a choice → Greedy live (choice.toList ++ taken) l choices →
      Greedy live taken (a :: l) (choice :: choices)

/-- A desired entity gets a live one when all of them choose in turn. -/
def Finds (live : List β) (l : List α) (a : α) : Prop :=
  ∃ choices, Greedy live [] l choices ∧ ∃ i, (a, some i) ∈ l.zip choices

lemma NoneFree.not_first {i : ℕ} (h : NoneFree live taken mark a) :
    ¬ FirstFree live taken mark a i := by
  intro hi
  obtain ⟨b, hb, hfits⟩ := hi.fits
  exact hi.free (h i b hb hfits)

lemma FirstFree.unique {i j : ℕ} (hi : FirstFree live taken mark a i)
    (hj : FirstFree live taken mark a j) : i = j := by
  obtain ⟨b, hb, hbfits⟩ := hi.fits
  obtain ⟨c, hc, hcfits⟩ := hj.fits
  rcases Nat.lt_trichotomy i j with hlt | he | hlt
  · exact (hi.free (hj.first i hlt b hb hbfits)).elim
  · exact he
  · exact (hj.free (hi.first j hlt c hc hcfits)).elim

lemma Choice.unique {choice other : Option ℕ} (h : Choice live taken a choice)
    (h' : Choice live taken a other) : choice = other := by
  cases h with
  | byId hid =>
    cases h' with
    | byId hid' => rw [hid.unique hid']
    | byName hnone => exact (hnone.not_first hid).elim
    | missing hnone => exact (hnone.not_first hid).elim
  | byName hnone hname =>
    cases h' with
    | byId hid' => exact (hnone.not_first hid').elim
    | byName _ hname' => rw [hname.unique hname']
    | missing _ hnone' => exact (hnone'.not_first hname).elim
  | missing hnone hnone' =>
    cases h' with
    | byId hid' => exact (hnone.not_first hid').elim
    | byName _ hname' => exact (hnone'.not_first hname').elim
    | missing => rfl

lemma Greedy.unique {choices others : List (Option ℕ)} (h : Greedy live taken l choices)
    (h' : Greedy live taken l others) : choices = others := by
  induction h generalizing others with
  | nil =>
    cases h'
    rfl
  | cons hchoice _ ih =>
    cases h' with
    | cons hchoice' hrest' =>
      obtain rfl := hchoice.unique hchoice'
      rw [ih hrest']

/-- The slots that are left when some positions are taken. -/
def untaken (live : List β) (taken : List ℕ) : List (Slot β) :=
  (slots live).filter (·.index ∉ taken)

omit [Named β] in
lemma mem_untaken {slot : Slot β} : slot ∈ untaken live taken ↔
    live[slot.index]? = some slot.entity ∧ slot.index ∉ taken := by
  simp [untaken, mem_slots]

omit [Named β] in
lemma untaken_nil (live : List β) : untaken live [] = slots live := by simp [untaken]

omit [Named β] in
lemma remaining_untaken (claim : Option (Slot β)) : remaining (untaken live taken) claim =
    untaken live ((claim.map Slot.index).toList ++ taken) := by
  cases claim with
  | none => rfl
  | some slot =>
    simp only [remaining, untaken, List.filter_filter]
    apply List.filter_congr
    simp

lemma firstFree_of_find? {slot : Slot β}
    (h : (untaken live taken).find? (fun slot => mark.fits slot.entity a) = some slot) :
    FirstFree live taken mark a slot.index := by
  obtain ⟨hlive, hfree⟩ := mem_untaken.mp (List.mem_of_find?_eq_some h)
  refine ⟨⟨slot.entity, hlive, fits_of_find? h⟩, hfree, fun j hj b hb hfits => ?_⟩
  by_contra hjt
  have hordered : (untaken live taken).Pairwise (·.index < ·.index) :=
    (slots_ascending live).sublist List.filter_sublist
  have hle : slot.index ≤ (⟨j, b⟩ : Slot β).index :=
    index_le_of_find? hordered h (mem_untaken.mpr ⟨hb, hjt⟩) hfits
  exact hle.not_gt hj

lemma noneFree_of_fits (h : ∀ slot ∈ untaken live taken, mark.fits slot.entity a = false) :
    NoneFree live taken mark a := by
  intro i b hb hfits
  by_contra hit
  rw [h ⟨i, b⟩ (mem_untaken.mpr ⟨hb, hit⟩)] at hfits
  cases hfits

lemma choice_claim? (live : List β) (taken : List ℕ) (a : α) :
    Choice live taken a ((claim? a (untaken live taken)).map Slot.index) := by
  cases hclaim : claim? a (untaken live taken) with
  | some slot =>
    rcases claim?_eq_some_iff.mp hclaim with hid | ⟨hnone, hname⟩
    · exact .byId (firstFree_of_find? hid)
    · refine .byName (noneFree_of_fits fun slot hs => ?_) (firstFree_of_find? hname)
      exact Bool.eq_false_iff.mpr (List.find?_eq_none.mp hnone slot hs)
  | none =>
    have hfits := claim?_eq_none_iff.mp hclaim
    exact .missing (noneFree_of_fits (hfits .id)) (noneFree_of_fits (hfits .name))

lemma greedy_matchUp (live : List β) (taken : List ℕ) (l : List α) : Greedy live taken l
    ((matchUp (untaken live taken) l).pairs.map fun pair => pair.2.map Slot.index) := by
  induction l generalizing taken with
  | nil => exact .nil
  | cons a l ih =>
    rw [matchUp_cons, remaining_untaken, List.map_cons]
    exact .cons (choice_claim? live taken a) (ih _)

lemma greedy_iff {choices : List (Option ℕ)} : Greedy live [] l choices ↔
    choices = (matchUp (slots live) l).pairs.map fun pair => pair.2.map Slot.index := by
  have h := greedy_matchUp live [] l
  rw [untaken_nil] at h
  constructor
  · exact fun hchoices => hchoices.unique h
  · rintro rfl
    exact h

lemma finds_iff : Finds live l a ↔ ∃ slot, (a, some slot) ∈ (matchUp (slots live) l).pairs := by
  have hzip : l.zip ((matchUp (slots live) l).pairs.map fun pair => pair.2.map Slot.index) =
      (matchUp (slots live) l).pairs.map fun pair => (pair.1, pair.2.map Slot.index) := by
    rw [← List.zip_map', matchUp_pairs_fst]
  simp only [Finds, greedy_iff, exists_eq_left, hzip, List.mem_map, Prod.mk.injEq,
    Option.map_eq_some_iff]
  constructor
  · rintro ⟨i, ⟨b, claim⟩, hp, rfl, slot, rfl, -⟩
    exact ⟨slot, hp⟩
  · rintro ⟨slot, hp⟩
    exact ⟨slot.index, _, hp, rfl, slot, rfl, rfl⟩

/-- A live entity has the id or the name of a desired one. -/
def Present (live : List β) (a : α) : Prop := ∃ b ∈ live, Answers b a

lemma fits_or_iff_answers {b : β} : (∃ mark : Mark, mark.fits b a = true) ↔ Answers b a := by
  constructor
  · rintro ⟨_ | _, h⟩
    · exact .inl (by simpa [Mark.fits] using h)
    · exact .inr (by simpa [Mark.fits] using h)
  · rintro (h | h)
    · exact ⟨.id, by simpa [Mark.fits] using h⟩
    · exact ⟨.name, by simpa [Mark.fits] using h⟩

lemma claim?_slots_isSome : (claim? a (slots live)).isSome = true ↔ Present live a := by
  constructor
  · intro h
    obtain ⟨slot, hclaim⟩ := Option.isSome_iff_exists.mp h
    obtain ⟨hslot, hanswers⟩ := claim?_spec hclaim
    exact ⟨slot.entity, entity_mem hslot, hanswers⟩
  · rintro ⟨b, hb, hanswers⟩
    obtain ⟨slot, hslot, rfl⟩ := exists_slot hb
    obtain ⟨mark, hfits⟩ := fits_or_iff_answers.mpr hanswers
    by_contra hnone
    rw [claim?_eq_none_iff.mp (Option.not_isSome_iff_eq_none.mp hnone) mark slot hslot] at hfits
    cases hfits

end Greedy

section Checks

variable {K α β : Type} [Desired α] [Named β] {kind : Kind} {live : List β} {l : List α}
  {fault : Fault K}

/-- Up to the first entity that is present nothing has been claimed, so that it is found among all
live ones. -/
lemma exists_find?_isSome_iff {a : α} :
    (∃ claim, (matchUp (slots live) l).pairs.find? (·.2.isSome) = some (a, claim)) ↔
      First (Present live) l a := by
  induction l with
  | nil => simp [matchUp, not_first_nil]
  | cons b l ih =>
    rw [matchUp_cons]
    by_cases hb : Present live b
    · rw [first_cons_of hb, List.find?_cons_of_pos (by exact claim?_slots_isSome.mpr hb)]
      constructor
      · rintro ⟨claim, h⟩
        exact (Prod.mk.inj (Option.some.inj h)).1.symm
      · rintro rfl
        exact ⟨_, rfl⟩
    · have hnone : claim? b (slots live) = none :=
        Option.not_isSome_iff_eq_none.mp (claim?_slots_isSome.not.mpr hb)
      rw [first_cons_of_not hb, hnone, List.find?_cons_of_neg (by simp)]
      exact ih

lemma matchUp_absent (h : ∀ a ∈ l, ¬ Present live a) :
    (matchUp (slots live) l).pairs = l.map fun a => (a, none) := by
  induction l with
  | nil => rfl
  | cons b l ih =>
    obtain ⟨hb, hl⟩ := List.forall_mem_cons.mp h
    have hnone : claim? b (slots live) = none :=
      Option.not_isSome_iff_eq_none.mp (claim?_slots_isSome.not.mpr hb)
    rw [matchUp_cons, hnone, List.map_cons]
    exact congrArg _ (ih hl)

lemma check_create_eq_error :
    Mode.check .create kind (matchUp (slots live) l) = .error fault ↔
      ∃ a, First (Present live) l a ∧ fault = .alreadyExists kind (Identified.id a) := by
  simp only [← exists_find?_isSome_iff, Mode.check]
  split
  · next a claim h => simp [h, eq_comm]
  · next h => simp [h]

lemma exists_find?_isNone_iff (hids : (l.map Identified.id).Nodup) {a : α} :
    (∃ claim, (matchUp (slots live) l).pairs.find? (·.2.isNone) = some (a, claim)) ↔
      First (fun a => ¬ Finds live l a) l a := by
  have hfinds : ∀ pair ∈ (matchUp (slots live) l).pairs,
      pair.2.isNone = true ↔ ¬ Finds live l pair.1 := by
    rintro ⟨a, claim⟩ hp
    rw [finds_iff]
    cases claim with
    | none =>
      refine iff_of_true rfl ?_
      rintro ⟨slot, hslot⟩
      cases claim_eq hids hp hslot
    | some slot => exact iff_of_false (by simp) fun hnot => hnot ⟨slot, hp⟩
  have hfirst := exists_find?_iff_first (p := fun a => ¬ Finds live l a)
    (q := fun pair : α × Option (Slot β) => pair.2.isNone) (a := a) hfinds
  rwa [matchUp_pairs_fst] at hfirst

lemma check_patch_eq_error (hids : (l.map Identified.id).Nodup) :
    Mode.check .patch kind (matchUp (slots live) l) = .error fault ↔
      ∃ a, First (fun a => ¬ Finds live l a) l a ∧ fault = .notFound kind (Identified.id a) := by
  simp only [← exists_find?_isNone_iff hids, Mode.check]
  split
  · next a claim h => simp [h, eq_comm]
  · next h => simp [h]

omit [Desired α] in
lemma eq_ok_iff_of_error {check : Except (Fault K) Unit} {p : α → Prop} {make : α → Fault K}
    (h : ∀ fault, check = .error fault ↔ ∃ a, First p l a ∧ fault = make a) :
    check = .ok () ↔ ∀ a ∈ l, ¬ p a := by
  constructor
  · rintro hok a ha hp
    obtain ⟨first, hfirst⟩ := (exists_first_or_forall p l).resolve_right fun hall => hall a ha hp
    cases hok.symm.trans ((h _).mpr ⟨first, hfirst, rfl⟩)
  · intro hall
    cases hcheck : check with
    | ok => rfl
    | error fault =>
      obtain ⟨a, hfirst, -⟩ := (h fault).mp hcheck
      exact (hall a hfirst.mem hfirst.1).elim

lemma check_create_eq_ok : Mode.check (K := K) .create kind (matchUp (slots live) l) = .ok () ↔
    ∀ a ∈ l, ¬ Present live a :=
  eq_ok_iff_of_error fun _ => check_create_eq_error

lemma check_patch_eq_ok (hids : (l.map Identified.id).Nodup) :
    Mode.check (K := K) .patch kind (matchUp (slots live) l) = .ok () ↔
      ∀ a ∈ l, Finds live l a := by
  rw [eq_ok_iff_of_error fun _ => check_patch_eq_error hids]
  simp only [not_not]

omit [Named β] in
lemma check_code {mode : Mode} {m : Matching α β} (h : Mode.check mode kind m = .error fault) :
    mode = .create ∧ fault.code = "R015" ∨ mode = .patch ∧ fault.code = "R016" := by
  cases mode with
  | create =>
    simp only [Mode.check] at h
    split at h
    · cases h
      exact .inl ⟨rfl, rfl⟩
    · cases h
  | patch =>
    simp only [Mode.check] at h
    split at h
    · cases h
      exact .inr ⟨rfl, rfl⟩
    · cases h
  | merge => cases h
  | replace => cases h

end Checks

section Plans

variable {K : Type} [Scalar K] {mode : Mode} {deleteOrphans : Bool} {model : Model K} {live : Live K}
  {fault : Fault K}

lemma ofModel_error : ofModel mode deleteOrphans model live = .error fault ↔
    Mode.check mode .bone (boneMatching model live) = .error fault ∨
      Mode.check (K := K) mode .bone (boneMatching model live) = .ok () ∧
        Mode.check mode .cube (cubeMatching model live) = .error fault := by
  rw [ofModel, Attempts.then_error, Attempts.then_error]
  refine or_congr_right (and_congr_right fun _ => ?_)
  constructor
  · rintro (h | ⟨-, h⟩)
    · exact h
    · cases h
  · exact .inl

lemma exists_plan_iff : (∃ plan, ofModel mode deleteOrphans model live = .ok plan) ↔
    Mode.check (K := K) mode .bone (boneMatching model live) = .ok () ∧
      Mode.check (K := K) mode .cube (cubeMatching model live) = .ok () := by
  simp only [ofModel_ok, exists_and_left, exists_eq, and_true]

/-- A fault names the first entity that is refused, where bones come before cubes. -/
def Refuses (bad : Model.Bone K → Prop) (bad' : Model.Cube K → Prop) (model : Model K)
    (make : Kind → String → Fault K) (fault : Fault K) : Prop :=
  (∃ b, First bad model.bones.toList b ∧ fault = make .bone b.id) ∨
    (∀ b ∈ model.bones.toList, ¬ bad b) ∧
      ∃ c, First bad' model.cubes.toList c ∧ fault = make .cube c.id

/-- What each mode lets through, what a plan then does, and what is reported otherwise. -/
structure Gates (deleteOrphans : Bool) (model : Model K) (live : Live K) : Prop where
  create_ok : (∃ plan, ofModel .create deleteOrphans model live = .ok plan) ↔
    (∀ b ∈ model.bones.toList, ¬ Present live.bones b) ∧
      ∀ c ∈ model.cubes.toList, ¬ Present live.cubes c
  create_ops : ∀ plan, ofModel .create deleteOrphans model live = .ok plan → plan.ops.Perm
    (model.bones.toList.map (fun b => .createBone b.toLive) ++
      model.cubes.toList.map fun c => .createCube c.toLive)
  create_error : ∀ fault, ofModel .create deleteOrphans model live = .error fault ↔
    Refuses (Present live.bones) (Present live.cubes) model .alreadyExists fault
  /-- Choosing in turn has one outcome. -/
  chosen : (∃! choices, Greedy live.bones [] model.bones.toList choices) ∧
    ∃! choices, Greedy live.cubes [] model.cubes.toList choices
  patch_ok : (∃ plan, ofModel .patch deleteOrphans model live = .ok plan) ↔
    (∀ b ∈ model.bones.toList, Finds live.bones model.bones.toList b) ∧
      ∀ c ∈ model.cubes.toList, Finds live.cubes model.cubes.toList c
  patch_ops : ∀ plan, ofModel .patch deleteOrphans model live = .ok plan → ∀ op ∈ plan.ops,
    op.kind = .updateBone ∨ op.kind = .updateCube
  patch_error : ∀ fault, ofModel .patch deleteOrphans model live = .error fault ↔
    Refuses (fun b => ¬ Finds live.bones model.bones.toList b)
      (fun c => ¬ Finds live.cubes model.cubes.toList c) model .notFound fault
  merge_ok : ∃ plan, ofModel .merge deleteOrphans model live = .ok plan
  replace_ok : ∃ plan, ofModel .replace deleteOrphans model live = .ok plan
  codes : ∀ mode fault, ofModel mode deleteOrphans model live = .error fault →
    mode = .create ∧ fault.code = "R015" ∨ mode = .patch ∧ fault.code = "R016"

lemma opsFor_create (hbones : ∀ b ∈ model.bones.toList, ¬ Present live.bones b)
    (hcubes : ∀ c ∈ model.cubes.toList, ¬ Present live.cubes c) :
    (opsFor .create deleteOrphans model live).Perm
      (model.bones.toList.map (fun b => .createBone b.toLive) ++
        model.cubes.toList.map fun c => .createCube c.toLive) := by
  rw [← sequence_map_op]
  refine (sequence_perm.map Step.op).trans (.of_eq ?_)
  have hpairs : (boneMatching model live).pairs = _ := matchUp_absent hbones
  have hpairs' : (cubeMatching model live).pairs = _ := matchUp_absent hcubes
  rw [emitted, hpairs, hpairs', if_neg (by simp), List.append_nil, List.map_append, List.map_filterMap,
    List.map_filterMap, List.filterMap_map, List.filterMap_map, ← List.filterMap_eq_map,
    ← List.filterMap_eq_map]
  rfl

lemma claimed_of_finds {α β : Type} [Desired α] [Named β] {live : List β} {l : List α}
    (hids : (l.map Identified.id).Nodup) (h : ∀ a ∈ l, Finds live l a)
    {pair : α × Option (Slot β)} (hp : pair ∈ (matchUp (slots live) l).pairs) :
    ∃ slot, pair.2 = some slot := by
  obtain ⟨slot, hslot⟩ := finds_iff.mp (h pair.1 (mem_of_pair hp))
  exact ⟨slot, claim_eq hids hp hslot⟩

lemma opsFor_patch (hbones : ∀ b ∈ model.bones.toList, Finds live.bones model.bones.toList b)
    (hcubes : ∀ c ∈ model.cubes.toList, Finds live.cubes model.cubes.toList c) {op : Op K}
    (hop : op ∈ opsFor .patch deleteOrphans model live) :
    op.kind = .updateBone ∨ op.kind = .updateCube := by
  rw [← sequence_map_op, sequence, leftSteps, if_neg (by simp), List.append_nil] at hop
  obtain ⟨s, hs, rfl⟩ := List.mem_map.mp hop
  rcases mem_desiredSteps hs with ⟨⟨b, claim⟩, hp, hs⟩ | ⟨⟨c, claim⟩, hp, hs⟩
  · obtain ⟨slot, rfl⟩ := claimed_of_finds model.bones.nodup hbones hp
    exact .inl (boneOp?_claimed (boneStep?_eq_some.mp hs).1)
  · obtain ⟨slot, rfl⟩ := claimed_of_finds model.cubes.nodup hcubes hp
    exact .inr (cubeOp?_claimed (cubeStep?_eq_some.mp hs).1)

/-- `create` asks that nothing desired has the id or the name of anything live, and `patch` that
everything finds a live one when all choose in turn; the first entity of which this fails is reported,
bones before cubes. The other modes take everything. -/
theorem ofModel_gates (deleteOrphans : Bool) (model : Model K) (live : Live K) :
    Gates deleteOrphans model live where
  create_ok := by rw [exists_plan_iff, check_create_eq_ok, check_create_eq_ok]
  create_ops plan hplan := by
    obtain ⟨hbones, hcubes, rfl⟩ := ofModel_ok.mp hplan
    exact opsFor_create (check_create_eq_ok.mp hbones) (check_create_eq_ok.mp hcubes)
  create_error fault := by
    rw [ofModel_error, check_create_eq_error, check_create_eq_ok, check_create_eq_error]
    rfl
  chosen := ⟨⟨_, greedy_iff.mpr rfl, fun _ h => greedy_iff.mp h⟩,
    ⟨_, greedy_iff.mpr rfl, fun _ h => greedy_iff.mp h⟩⟩
  patch_ok := by
    rw [exists_plan_iff, check_patch_eq_ok model.bones.nodup, check_patch_eq_ok model.cubes.nodup]
  patch_ops plan hplan op hop := by
    obtain ⟨hbones, hcubes, rfl⟩ := ofModel_ok.mp hplan
    exact opsFor_patch ((check_patch_eq_ok model.bones.nodup).mp hbones)
      ((check_patch_eq_ok model.cubes.nodup).mp hcubes) hop
  patch_error fault := by
    rw [ofModel_error, check_patch_eq_error model.bones.nodup, check_patch_eq_ok model.bones.nodup,
      check_patch_eq_error model.cubes.nodup]
    simp only [Refuses, not_not]
    rfl
  merge_ok := exists_plan_iff.mpr ⟨rfl, rfl⟩
  replace_ok := exists_plan_iff.mpr ⟨rfl, rfl⟩
  codes mode fault hfault := by
    rcases ofModel_error.mp hfault with hbones | ⟨-, hcubes⟩
    · exact check_code hbones
    · exact check_code hcubes

end Plans

end Armature.Plan
