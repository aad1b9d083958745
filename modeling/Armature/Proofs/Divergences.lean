import Armature.Stability
import Mathlib.Tactic

/-! What a check of several runs reports. Two outputs part where the first octet differs, or where one
of them ends. The first run that strays from the reference is reported with the place at which the two
part and with what both have around it. -/

namespace Armature.Stability

variable {expected actual : List UInt8} {offset : ℕ}

section Parting

structure PartAt (expected actual : List UInt8) (offset : ℕ) : Prop where
  agree : ∀ i < offset, expected[i]? = actual[i]?
  disagree : expected[offset]? ≠ actual[offset]?

lemma PartAt.symm (h : PartAt expected actual offset) : PartAt actual expected offset :=
  ⟨fun i hi => (h.agree i hi).symm, h.disagree.symm⟩

lemma PartAt.ne (h : PartAt expected actual offset) : expected ≠ actual := by
  rintro rfl
  exact h.disagree rfl

lemma PartAt.cons (h : PartAt expected actual offset) (a : UInt8) :
    PartAt (a :: expected) (a :: actual) (offset + 1) where
  agree i hi := by
    cases i with
    | zero => rfl
    | succ i =>
      rw [List.getElem?_cons_succ, List.getElem?_cons_succ]
      exact h.agree i (by omega)
  disagree := by
    rw [List.getElem?_cons_succ, List.getElem?_cons_succ]
    exact h.disagree

lemma PartAt.le_length (h : PartAt expected actual offset) : offset ≤ expected.length := by
  by_contra hlt
  -- past its end, the one output would have said that the other ends there as well
  have hend := h.agree expected.length (by omega)
  rw [List.getElem?_eq_none le_rfl] at hend
  have hshort := List.getElem?_eq_none_iff.mp hend.symm
  apply h.disagree
  rw [List.getElem?_eq_none (by omega), List.getElem?_eq_none (by omega)]

lemma PartAt.of_prefix (h : PartAt expected actual offset) (hbegins : expected <+: actual) :
    offset = expected.length := by
  obtain ⟨rest, rfl⟩ := hbegins
  apply le_antisymm h.le_length
  by_contra hlt
  apply h.disagree
  rw [List.getElem?_append_left (by omega)]

lemma PartAt.eq_min (h : PartAt expected actual offset)
    (hbegins : expected <+: actual ∨ actual <+: expected) :
    offset = min expected.length actual.length := by
  rcases hbegins with hbegins | hbegins
  · rw [h.of_prefix hbegins, min_eq_left hbegins.length_le]
  · rw [h.symm.of_prefix hbegins, min_eq_right hbegins.length_le]

lemma differenceFrom_some {position : ℕ} (h : differenceFrom position expected actual = some offset) :
    ∃ i, offset = position + i ∧ PartAt expected actual i := by
  induction expected generalizing position actual with
  | nil =>
    cases actual with
    | nil => cases h
    | cons b bs =>
      obtain rfl := Option.some.inj h
      exact ⟨0, rfl, by simp, by simp⟩
  | cons a as ih =>
    cases actual with
    | nil =>
      obtain rfl := Option.some.inj h
      exact ⟨0, rfl, by simp, by simp⟩
    | cons b bs =>
      rw [differenceFrom] at h
      split_ifs at h with hab
      · obtain ⟨i, rfl, hi⟩ := ih h
        subst hab
        exact ⟨i + 1, by omega, hi.cons a⟩
      · obtain rfl := Option.some.inj h
        exact ⟨0, rfl, by simp, by simpa using hab⟩

lemma differenceFrom_none {position : ℕ} (h : differenceFrom position expected actual = none) :
    expected = actual := by
  induction expected generalizing position actual with
  | nil =>
    cases actual with
    | nil => rfl
    | cons b bs => cases h
  | cons a as ih =>
    cases actual with
    | nil => cases h
    | cons b bs =>
      rw [differenceFrom] at h
      split_ifs at h with hab
      rw [hab, ih h]

lemma firstDifference_some (h : firstDifference expected actual = some offset) :
    PartAt expected actual offset := by
  obtain ⟨i, rfl, hi⟩ := differenceFrom_some h
  rwa [Nat.zero_add]

lemma firstDifference_none (h : firstDifference expected actual = none) : expected = actual :=
  differenceFrom_none h

end Parting

section Windows

/-- The octets from one position up to another, if the output has such positions. -/
def slice? (output : List UInt8) (start stop : ℕ) : Option (List UInt8) :=
  if start ≤ stop ∧ stop ≤ output.length then some (output.extract start stop) else none

lemma slice?_window {output : List UInt8} (h : offset ≤ output.length) :
    slice? output (offset - 16) (min (offset + 16) output.length) = some (window output offset) := by
  have hrange : offset - 16 ≤ min (offset + 16) output.length ∧
      min (offset + 16) output.length ≤ output.length := by omega
  rw [slice?, if_pos hrange, window, margin, List.extract_eq_take_drop, List.drop_take]
  congr 1
  apply List.take_eq_take_iff.mpr
  rw [List.length_drop]
  omega

end Windows

section Runs

variable {output : ℕ → List UInt8} {reference : List UInt8} {count run runs : ℕ} {d : Divergence}

/-- The first run that strays from run 0, the place at which the two part, and an excerpt of each. -/
structure FirstStray (output : ℕ → List UInt8) (d : Divergence) : Prop where
  differs : output d.run ≠ output 0
  before : ∀ run < d.run, output run = output 0
  parts : PartAt (output 0) (output d.run) d.offset
  at_end : output 0 <+: output d.run ∨ output d.run <+: output 0 →
    d.offset = min (output 0).length (output d.run).length
  within : d.offset ≤ (output 0).length ∧ d.offset ≤ (output d.run).length
  expected : slice? (output 0) (d.offset - 16) (min (d.offset + 16) (output 0).length) =
    some d.expected
  actual : slice? (output d.run) (d.offset - 16) (min (d.offset + 16) (output d.run).length) =
    some d.actual

lemma firstDivergence_none (h : firstDivergence output reference count run = none) :
    ∀ other, run ≤ other → other < run + count → output other = reference := by
  induction count generalizing run with
  | zero =>
    intro other hle hlt
    omega
  | succ count ih =>
    rw [firstDivergence] at h
    split at h
    · cases h
    next hsame =>
    intro other hle hlt
    rcases Nat.eq_or_lt_of_le hle with rfl | hlater
    · exact (firstDifference_none hsame).symm
    · exact ih h other hlater (by omega)

lemma firstDivergence_some (h : firstDivergence output reference count run = some d) :
    (run ≤ d.run ∧ d.run < run + count) ∧
      (∀ other, run ≤ other → other < d.run → output other = reference) ∧
      PartAt reference (output d.run) d.offset ∧
      d.expected = window reference d.offset ∧ d.actual = window (output d.run) d.offset := by
  induction count generalizing run with
  | zero => cases h
  | succ count ih =>
    rw [firstDivergence] at h
    split at h
    · next offset hparts =>
      obtain rfl := Option.some.inj h
      refine ⟨⟨le_rfl, by simp⟩, ?_, firstDifference_some hparts, rfl, rfl⟩
      intro other hle hlt
      exact absurd hlt (Nat.not_lt.mpr hle)
    next hsame =>
    obtain ⟨⟨hle, hlt⟩, hbefore, hparts⟩ := ih h
    refine ⟨⟨by omega, by omega⟩, ?_, hparts⟩
    intro other hother hd
    rcases Nat.eq_or_lt_of_le hother with rfl | hlater
    · exact (firstDifference_none hsame).symm
    · exact hbefore other hlater hd

lemma firstStray_of_firstDivergence (h : firstDivergence output (output 0) count 1 = some d) :
    FirstStray output d := by
  obtain ⟨-, hbefore, hparts, hexpected, hactual⟩ := firstDivergence_some h
  refine {
    differs := hparts.ne.symm
    before := fun run hrun => ?_
    parts := hparts
    at_end := hparts.eq_min
    within := ⟨hparts.le_length, hparts.symm.le_length⟩
    expected := by rw [hexpected, slice?_window hparts.le_length]
    actual := by rw [hactual, slice?_window hparts.symm.le_length] }
  rcases Nat.eq_zero_or_pos run with rfl | hpos
  · rfl
  · exact hbefore run hpos hrun

def Alike (output : ℕ → List UInt8) (runs : ℕ) : Prop :=
  ∀ run < runs, ∀ other < runs, output run = output other

/-- Runs are found stable exactly if they are alike. If they are not, the first one that strays is
reported, and both excerpts are there to be shown. -/
theorem check_exact (output : ℕ → List UInt8) {runs : ℕ} (hruns : 2 ≤ runs) :
    ∃ report, check? output runs = some report ∧
      (report.isStable = true ∧ report.divergence = none ↔ Alike output runs) ∧
      (¬ Alike output runs → report.isStable = false ∧
        ∃ d, report.divergence = some d ∧ d.run < runs ∧ FirstStray output d) := by
  have hcheck : check? output runs = some ⟨runs, Blake3.hex ⟨(output 0).toArray⟩,
      firstDivergence output (output 0) (runs - 1) 1⟩ := if_neg (Nat.not_lt.mpr hruns)
  refine ⟨_, hcheck, ?_⟩
  cases hfound : firstDivergence output (output 0) (runs - 1) 1 with
  | none =>
    have hall : ∀ run < runs, output run = output 0 := by
      intro run hrun
      rcases Nat.eq_zero_or_pos run with rfl | hpos
      · rfl
      · exact firstDivergence_none hfound run hpos (by omega)
    have halike : Alike output runs := fun run hrun other hother =>
      (hall run hrun).trans (hall other hother).symm
    exact ⟨⟨fun _ => halike, fun _ => ⟨rfl, rfl⟩⟩, fun hnot => (hnot halike).elim⟩
  | some d =>
    obtain ⟨⟨-, hlt⟩, -⟩ := firstDivergence_some hfound
    have hrun : d.run < runs := by omega
    have hstray := firstStray_of_firstDivergence hfound
    have hdiffer : ¬ Alike output runs := fun halike =>
      hstray.differs (halike d.run hrun 0 (by omega))
    refine ⟨⟨fun h => ?_, fun halike => (hdiffer halike).elim⟩,
      fun _ => ⟨rfl, d, rfl, hrun, hstray⟩⟩
    cases h.2

/-- The third run stops early. -/
def truncatedRun : ℕ → List UInt8
  | 2 => [123, 125]
  | _ => [123, 125, 10]

theorem check_exact_truncated : ∃ report d, check? truncatedRun 4 = some report ∧
    report.isStable = false ∧ report.divergence = some d ∧ d.run = 2 ∧ d.offset = 2 ∧
    d.expected = [123, 125, 10] ∧ d.actual = [123, 125] := by
  obtain ⟨report, hreport, -, hstray⟩ := check_exact truncatedRun (by decide : 2 ≤ 4)
  have hdiffer : ¬ Alike truncatedRun 4 := fun halike =>
    absurd (halike 2 (by decide) 0 (by decide)) (by decide)
  obtain ⟨hunstable, d, hd, -, hfirst⟩ := hstray hdiffer
  have hrun : d.run = 2 := by
    by_contra hne
    rcases Nat.lt_or_gt_of_ne hne with hlt | hgt
    · have hdiffers := hfirst.differs
      interval_cases d.run <;> exact hdiffers rfl
    · exact absurd (hfirst.before 2 hgt) (by decide)
  have hoffset : d.offset = 2 := by
    rw [hfirst.at_end (by rw [hrun]; decide), hrun]
    rfl
  have hexpected := hfirst.expected
  have hactual := hfirst.actual
  rw [hoffset] at hexpected
  rw [hrun, hoffset] at hactual
  exact ⟨report, d, hreport, hunstable, hd, hrun, hoffset, (Option.some.inj hexpected).symm,
    (Option.some.inj hactual).symm⟩

end Runs

end Armature.Stability
