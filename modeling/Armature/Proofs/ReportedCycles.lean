import Armature.Message
import Armature.Proofs.TopDown

/-! What the check of the bones answers. A hierarchy with a cycle, and nothing else wrong with it, is
refused with a way up that meets one of its bones again. -/

namespace Armature.Model

open Relation

section Climbs

variable {K : Type} {bones : Bones K} {settled passed ids chain : List String} {id again : String}

/-- A way up that ends at a bone it has passed before. -/
structure ComesBack (bones : Bones K) (chain : List String) : Prop where
  parents : chain.IsChain (ParentOf bones)
  again : ∃ way last, chain = way ++ [last] ∧ last ∈ way ∧ way.Nodup

lemma Trail.isChain (h : Trail bones passed id) :
    (passed.reverse ++ [id]).IsChain (ParentOf bones) := by
  induction passed generalizing id with
  | nil => exact .singleton id
  | cons child passed ih =>
    rw [List.reverse_cons, List.isChain_append]
    refine ⟨ih h.2, .singleton id, ?_⟩
    simpa using h.1

lemma climb_trail (ht : Trail bones passed id) (hn : passed.Nodup)
    (h : (climb bones settled passed id).repeated = some again) :
    Trail bones (climb bones settled passed id).passed again ∧
      (climb bones settled passed id).passed.Nodup ∧
      again ∈ (climb bones settled passed id).passed := by
  fun_induction climb bones settled passed id with
  | case1 => cases h
  | case2 passed id _ hp =>
    obtain rfl := Option.some.inj h
    exact ⟨ht, hn, hp⟩
  | case3 => cases h
  | case4 => cases h
  | case5 passed id _ hp bone hb _ parent hparent ih =>
    exact ih ⟨(parentOf_iff hb).mpr hparent, ht⟩ (List.nodup_cons.mpr ⟨hp, hn⟩) h

lemma checkCycles_error {fault : Fault K} (h : checkCycles bones settled ids = .error fault) :
    ∃ chain, fault = .parentCycle chain ∧ ComesBack bones chain := by
  induction ids generalizing settled with
  | nil => cases h
  | cons id rest ih =>
    rw [checkCycles] at h
    split at h
    · next passed again hclimb =>
      have hrepeated : (climb bones settled [] id).repeated = some again := by rw [hclimb]
      have hstart : Trail bones [] id := trivial
      obtain ⟨htrail, hnodup, hmem⟩ := climb_trail hstart List.nodup_nil hrepeated
      rw [hclimb] at htrail hnodup hmem
      refine ⟨_, (Except.error.inj h).symm, htrail.isChain, passed.reverse, again, rfl, ?_, ?_⟩
      · exact List.mem_reverse.mpr hmem
      · exact List.nodup_reverse.mpr hnodup
    · exact ih h

/-- What is met for the second time is its own ancestor. -/
lemma ComesBack.cycle (h : ComesBack bones chain) :
    ∃ id ∈ chain, TransGen (ParentOf bones) id id := by
  obtain ⟨hparents, way, last, rfl, hlast, -⟩ := h
  obtain ⟨before, after, rfl⟩ := List.append_of_mem hlast
  rw [List.append_assoc] at hparents
  have hround : (last :: (after ++ [last])).IsChain (TransGen (ParentOf bones)) :=
    hparents.right_of_append.imp fun _ _ => .single
  refine ⟨last, by simp, ?_⟩
  exact List.rel_of_pairwise_cons (List.isChain_iff_pairwise.mp hround) (by simp)

end Climbs

section Checks

variable {K : Type} {limits : Limits} {bones : Bones K} {fault : Fault K}

/-- Everything that is asked of bones but that they make no cycle. -/
structure Attached (limits : Limits) (bones : Bones K) : Prop where
  count : bones.size ≤ limits.maxBones
  names : (bones.toList.map Bone.name).Nodup
  parents : ∀ b ∈ bones.toList, ∀ p, b.parent = some p → p ∈ bones.ids

lemma soundBones_iff : SoundBones limits bones ↔ Attached limits bones ∧ Acyclic bones :=
  ⟨fun h => ⟨⟨h.count, h.names, h.parents⟩, h.acyclic⟩,
    fun ⟨h, hacyclic⟩ => ⟨h.count, h.names, h.parents, hacyclic⟩⟩

lemma Attached.checkBones_eq (h : Attached limits bones) :
    checkBones limits bones = checkCycles bones [] bones.ids := by
  have hfrom : checkBonesFrom bones [] bones.toList = .ok () :=
    checkBonesFrom_ok.mpr ⟨⟨h.names, by simp⟩, h.parents⟩
  rw [checkBones, if_neg (Nat.not_lt.mpr h.count), hfrom]
  rfl

lemma checkName_error {α : Type} [Identified α] {kind : Kind} {name : α → String} {earlier : List α}
    {a : α} (h : checkName kind name earlier a = .error fault) : fault.code = "R004" := by
  unfold checkName at h
  split at h
  · cases h
    rfl
  · cases h

lemma checkBonesFrom_error {earlier rest : List (Bone K)}
    (h : checkBonesFrom bones earlier rest = .error fault) :
    fault.code = "R004" ∨ fault.code = "R006" := by
  induction rest generalizing earlier with
  | nil => cases h
  | cons b rest ih =>
    rw [checkBonesFrom, Attempts.then_error] at h
    rcases h with h | ⟨-, h⟩
    · exact .inl (checkName_error h)
    · split at h
      · split_ifs at h
        · exact ih h
        · cases h
          exact .inr rfl
      · exact ih h

/-- A cycle is reported when nothing that is checked before is wrong. -/
lemma checkBones_cycle (h : checkBones limits bones = .error fault) (hcode : fault.code = "R007") :
    Attached limits bones := by
  unfold checkBones at h
  split_ifs at h with hcount
  · cases h
    exact absurd hcode (by simp [Fault.code])
  rcases Attempts.then_error.mp h with h | ⟨hfrom, -⟩
  · rcases checkBonesFrom_error h with hother | hother
    · exact absurd (hother.symm.trans hcode) (by decide)
    · exact absurd (hother.symm.trans hcode) (by decide)
  · obtain ⟨hnames, hparents⟩ := checkBonesFrom_ok.mp hfrom
    exact ⟨Nat.not_lt.mp hcount, hnames.1, hparents⟩

end Checks

/-- Bones pass exactly if they are sound. `R007` comes up exactly if nothing but a cycle is wrong with
them, and shows a way up that meets one of its bones again. -/
theorem checkBones_exact (limits : Limits) (bones : Bones Float) :
    (checkBones limits bones = .ok () ↔ Attached limits bones ∧ Acyclic bones) ∧
    ((∃ fault, checkBones limits bones = .error fault ∧ fault.code = "R007") ↔
      Attached limits bones ∧ ¬ Acyclic bones) ∧
    ∀ fault, checkBones limits bones = .error fault → fault.code = "R007" →
      ∃ chain, fault.message = "bone hierarchy cycle: " ++ String.intercalate " -> " chain ∧
        ComesBack bones chain ∧ ∃ id ∈ chain, TransGen (ParentOf bones) id id := by
  have hok : checkBones limits bones = .ok () ↔ Attached limits bones ∧ Acyclic bones :=
    checkBones_ok.trans soundBones_iff
  refine ⟨hok, ⟨?_, ?_⟩, ?_⟩
  · rintro ⟨fault, hfault, hcode⟩
    have hattached := checkBones_cycle hfault hcode
    refine ⟨hattached, fun hacyclic => ?_⟩
    cases hfault.symm.trans (hok.mpr ⟨hattached, hacyclic⟩)
  · rintro ⟨hattached, hcyclic⟩
    cases hcheck : checkBones limits bones with
    | ok => exact (hcyclic (hok.mp hcheck).2).elim
    | error fault =>
      rw [hattached.checkBones_eq] at hcheck
      obtain ⟨chain, rfl, -⟩ := checkCycles_error hcheck
      exact ⟨_, rfl, rfl⟩
  · intro fault hfault hcode
    rw [(checkBones_cycle hfault hcode).checkBones_eq] at hfault
    obtain ⟨chain, rfl, hchain⟩ := checkCycles_error hfault
    exact ⟨chain, rfl, hchain, hchain.cycle⟩

/-- A tail on two bones that hang from each other. -/
def loopBones : Bones Float :=
  .ofList [.ofId "tail" (some "arm"), .ofId "arm" (some "hand"), .ofId "hand" (some "arm")]

theorem checkBones_exact_ring : ∃ fault, checkBones .standard loopBones = .error fault ∧
    fault.code = "R007" ∧ Attached .standard loopBones ∧ ¬ Acyclic loopBones ∧
    fault.message = "bone hierarchy cycle: tail -> arm -> hand -> arm" ∧
    ∃ chain, fault.message = "bone hierarchy cycle: " ++ String.intercalate " -> " chain ∧
      ComesBack loopBones chain ∧ ∃ id ∈ chain, TransGen (ParentOf loopBones) id id := by
  obtain ⟨-, hcycle, hchain⟩ := checkBones_exact .standard loopBones
  have hfault : (checkBones .standard loopBones).mapError (fun f => (f.code, f.message)) =
      .error ("R007", "bone hierarchy cycle: tail -> arm -> hand -> arm") := by
    decide +kernel
  cases hcheck : checkBones .standard loopBones with
  | ok =>
    rw [hcheck] at hfault
    cases hfault
  | error fault =>
    rw [hcheck] at hfault
    obtain ⟨hcode, hmessage⟩ := Prod.mk.inj (Except.error.inj hfault)
    obtain ⟨hattached, hcyclic⟩ := hcycle.mp ⟨fault, hcheck, hcode⟩
    exact ⟨fault, rfl, hcode, hattached, hcyclic, hmessage, hchain fault hcheck hcode⟩

end Armature.Model
