import Armature.Proofs.Renames
import Mathlib.Data.List.SplitBy

/-! The words of a text: the longest runs of slug characters of its lower case form. A colon ends a
word, so that the words of a place are those of its parts, and a slug gives its words back. -/

namespace Armature.Text

section Runs

variable {keep : Char → Bool} {l m cs run : List Char} {c sep : Char}

lemma runs_append (h : ∀ x ∈ l.getLast?, ∀ y ∈ m.head?, keep x ≠ keep y) :
    runs keep (l ++ m) = runs keep l ++ runs keep m := by
  rw [runs, List.splitBy_append fun x hx y hy => by simpa using h x hx y hy, List.filter_append]
  rfl

lemma runs_eq_nil_iff : runs keep cs = [] ↔ ∀ c ∈ cs, keep c = false := by
  simp only [runs, List.filter_eq_nil_iff, List.any_eq_true, not_exists, not_and, Bool.not_eq_true]
  constructor
  · intro h c hc
    rw [← List.flatten_splitBy (fun a b => keep a == keep b) cs] at hc
    obtain ⟨run, hrun, hc⟩ := List.mem_flatten.mp hc
    exact h run hrun c hc
  · intro h run hrun c hc
    rw [← List.flatten_splitBy (fun a b => keep a == keep b) cs] at h
    exact h c (List.mem_flatten_of_mem hrun hc)

lemma runs_cons_of_not (hc : keep c = false) : runs keep (c :: cs) = runs keep cs := by
  have hskip : ∀ x ∈ cs.takeWhile (!keep ·), keep x = false := fun x hx => by
    simpa using List.mem_takeWhile_imp hx
  have hborder : ∀ l : List Char, (∀ x ∈ l, keep x = false) →
      runs keep (l ++ cs.dropWhile (!keep ·)) = runs keep (cs.dropWhile (!keep ·)) := by
    intro l hl
    rw [runs_append, runs_eq_nil_iff.mpr hl, List.nil_append]
    intro x hx y hy
    have hkept := List.head?_dropWhile_not (!keep ·) cs
    rw [Option.mem_def.mp hy] at hkept
    simp_all [hl x (List.mem_of_mem_getLast? hx)]
  conv_lhs => rw [← List.takeWhile_append_dropWhile (p := (!keep ·)) (l := cs)]
  conv_rhs => rw [← List.takeWhile_append_dropWhile (p := (!keep ·)) (l := cs)]
  rw [← List.cons_append, hborder _ (List.forall_mem_cons.mpr ⟨hc, hskip⟩), hborder _ hskip]

lemma runs_append_cons (hsep : keep sep = false) :
    runs keep (l ++ sep :: m) = runs keep l ++ runs keep m := by
  induction l using List.reverseRecOn generalizing sep m with
  | nil => exact runs_cons_of_not hsep
  | append_singleton l c ih =>
    cases hc : keep c with
    | true =>
      rw [runs_append (by simp [hc, hsep]), runs_cons_of_not hsep]
    | false =>
      rw [List.append_assoc, List.singleton_append, ih hc, runs_cons_of_not hsep, ih hc]
      simp [runs]

lemma mem_runs (h : run ∈ runs keep cs) : run ≠ [] ∧ ∀ c ∈ run, keep c = true := by
  obtain ⟨hrun, hany⟩ := List.mem_filter.mp h
  refine ⟨List.ne_nil_of_mem_splitBy hrun, ?_⟩
  obtain ⟨c, hc, hkeep⟩ := List.any_eq_true.mp hany
  have hchain := List.isChain_of_mem_splitBy hrun
  cases run with
  | nil => cases hc
  | cons x l =>
    have hsame : ∀ y ∈ x :: l, keep y = keep x := by
      have hrest := hchain.cons_induction (fun y => keep y = keep x) l
        (fun y z hyz hy => (eq_of_beq hyz).symm.trans hy) rfl
      exact List.forall_mem_cons.mpr ⟨rfl, hrest⟩
    intro y hy
    rw [hsame y hy, ← hsame c hc, hkeep]

end Runs

/-- The lower case form of a character wherever it stands. -/
def lowered (c : Char) : List Char := if c = 'Σ' then ['σ'] else lowerChar c

/-- Where a sigma stands does not matter, as neither of its forms is kept. -/
lemma runs_lowerFrom (acc before cs : List Char) :
    runs isSlugChar (acc ++ lowerFrom before cs) = runs isSlugChar (acc ++ cs.flatMap lowered) := by
  induction cs generalizing acc before with
  | nil => rfl
  | cons c cs ih =>
    rw [lowerFrom, List.flatMap_cons, lowered]
    split_ifs with hsigma hends
    · rw [List.singleton_append, List.singleton_append, runs_append_cons (by decide),
        runs_append_cons (by decide)]
      exact congrArg _ (ih [] _)
    · rw [List.singleton_append, List.singleton_append, runs_append_cons (by decide),
        runs_append_cons (by decide)]
      exact congrArg _ (ih [] _)
    · rw [← List.append_assoc, ← List.append_assoc]
      exact ih _ _

def words (s : String) : List String := (runs isSlugChar (lowercase s).toList).map String.ofList

lemma words_eq (s : String) :
    words s = (runs isSlugChar (s.toList.flatMap lowered)).map String.ofList := by
  rw [words, lowercase, String.toList_ofList]
  exact congrArg _ (runs_lowerFrom [] [] s.toList)

lemma words_eq_nil_iff {s : String} :
    words s = [] ↔ ∀ c ∈ (lowercase s).toList, isSlugChar c = false := by
  rw [words, List.map_eq_nil_iff, runs_eq_nil_iff]

lemma words_colon (s t : String) : words (s ++ ":" ++ t) = words s ++ words t := by
  have hcolon : (":" : String).toList.flatMap lowered = [':'] := rfl
  rw [words_eq, words_eq, words_eq, ← List.map_append, String.toList_append, String.toList_append,
    List.flatMap_append, List.flatMap_append, hcolon, List.append_assoc, List.singleton_append,
    runs_append_cons (by decide)]

lemma toList_slug (s : String) :
    (slug s).toList = ['_'].intercalate (runs isSlugChar (lowercase s).toList) := by
  rw [slug, String.toList_intercalate, List.map_map]
  simp [Function.comp_def]

lemma splitOn_slug {s : String} (h : words s ≠ []) :
    (slug s).toList.splitOn '_' = runs isSlugChar (lowercase s).toList := by
  rw [toList_slug]
  refine List.splitOn_intercalate '_' (fun run hrun hmem => ?_) fun hnil => h ?_
  · exact absurd ((mem_runs hrun).2 '_' hmem) (by decide)
  · rw [words, hnil, List.map_nil]

lemma slug_eq_empty_iff {s : String} : slug s = "" ↔ words s = [] := by
  constructor
  · intro hslug
    by_contra hwords
    have hsplit := splitOn_slug hwords
    rw [hslug] at hsplit
    have hempty : [] ∈ runs isSlugChar (lowercase s).toList := hsplit ▸ List.mem_singleton_self []
    exact (mem_runs hempty).1 rfl
  · intro hwords
    have hruns : runs isSlugChar (lowercase s).toList = [] := List.map_eq_nil_iff.mp hwords
    rw [slug, hruns]
    rfl

lemma slug_eq_iff {s t : String} : slug s = slug t ↔ words s = words t := by
  constructor
  · intro hslug
    by_cases hs : words s = []
    · rw [hs, slug_eq_empty_iff.mp (hslug ▸ slug_eq_empty_iff.mpr hs)]
    · have ht : words t ≠ [] := fun ht =>
        hs (slug_eq_empty_iff.mp (hslug.trans (slug_eq_empty_iff.mpr ht)))
      rw [words, words, ← splitOn_slug hs, ← splitOn_slug ht, hslug]
  · intro hwords
    change String.intercalate "_" (words s) = String.intercalate "_" (words t)
    rw [hwords]

end Armature.Text
