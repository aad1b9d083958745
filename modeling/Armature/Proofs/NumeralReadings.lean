import Armature.Proofs.NumberTexts

/-! Numerals within a text: a numeral is not read on into what follows it, and the numeral of a whole
number is read back. -/

namespace Armature.Json

namespace Numeral

/-- The number of a text that is a numeral. -/
def read? (cs : List Char) : Option Number :=
  match scan? cs with
  | some (numeral, []) => numeral.number?
  | _ => none

/-- What can follow a number in a printed value. -/
def Follows (cs : List Char) : Prop := ∀ c ∈ cs.head?, c ∈ [',', ']', '\x7d', '\n']

variable {cs cs' rest : List Char} {digits : List ℕ} {numeral : Numeral}

lemma Follows.ne {c : Char} (h : Follows (c :: rest)) :
    c.isDigit = false ∧ c ≠ '.' ∧ c ≠ 'e' ∧ c ≠ 'E' := by
  have hc := h c rfl
  simp only [List.mem_cons, List.not_mem_nil, or_false] at hc
  rcases hc with rfl | rfl | rfl | rfl <;> decide

lemma spanDigits_append (hrest : Follows rest) (h : spanDigits cs = (digits, cs')) :
    spanDigits (cs ++ rest) = (digits, cs' ++ rest) := by
  have hspan : (cs ++ rest).takeWhile Char.isDigit = cs.takeWhile Char.isDigit ∧
      (cs ++ rest).dropWhile Char.isDigit = cs.dropWhile Char.isDigit ++ rest := by
    clear h
    induction cs with
    | nil =>
      cases rest with
      | nil => exact ⟨rfl, rfl⟩
      | cons c rest => simp [hrest.ne.1]
    | cons c cs ih => cases hc : c.isDigit <;> simp [hc, ih]
  obtain ⟨rfl, rfl⟩ := Prod.mk.inj h
  rw [spanDigits, hspan.1, hspan.2]

lemma scanWhole?_append (hrest : Follows rest) (h : scanWhole? cs = some (digits, cs')) :
    scanWhole? (cs ++ rest) = some (digits, cs' ++ rest) := by
  cases hspan : spanDigits cs with
  | mk whole after =>
    rw [scanWhole?, hspan] at h
    rw [scanWhole?, spanDigits_append hrest hspan]
    rcases whole with _ | ⟨_ | digit, _ | ⟨next, whole⟩⟩ <;> cases h <;> rfl

lemma scanFraction?_of_ne {c : Char} (hc : c ≠ '.') (cs : List Char) :
    scanFraction? (c :: cs) = some ([], c :: cs) := by
  simp [scanFraction?, hc]

lemma scanFraction?_append (hrest : Follows rest) (h : scanFraction? cs = some (digits, cs')) :
    scanFraction? (cs ++ rest) = some (digits, cs' ++ rest) := by
  cases cs with
  | nil =>
    cases h
    cases rest with
    | nil => rfl
    | cons c rest => exact scanFraction?_of_ne hrest.ne.2.1 rest
  | cons c cs =>
    by_cases hc : c = '.'
    · subst hc
      cases hspan : spanDigits cs with
      | mk fraction after =>
        rw [scanFraction?, hspan] at h
        rw [List.cons_append, scanFraction?, spanDigits_append hrest hspan]
        cases fraction <;> cases h
        rfl
    · rw [scanFraction?_of_ne hc] at h
      cases h
      exact scanFraction?_of_ne hc _

lemma scanPower?_append {negative : Bool} {power : Option ℤ} (hrest : Follows rest)
    (h : scanPower? negative cs = some (power, cs')) :
    scanPower? negative (cs ++ rest) = some (power, cs' ++ rest) := by
  cases hspan : spanDigits cs with
  | mk digits after =>
    rw [scanPower?, hspan] at h
    rw [scanPower?, spanDigits_append hrest hspan]
    cases digits with
    | nil => cases h
    | cons => cases h; rfl

/-- What follows the letter of an exponent. -/
def scanSigned? : List Char → Option (Option ℤ × List Char)
  | '+' :: cs => scanPower? false cs
  | '-' :: cs => scanPower? true cs
  | cs => scanPower? false cs

lemma scanExponent?_cons (c : Char) (cs : List Char) : scanExponent? (c :: cs) =
    if c = 'e' || c = 'E' then scanSigned? cs else some (none, c :: cs) := rfl

lemma scanSigned?_append {power : Option ℤ} (hrest : Follows rest)
    (h : scanSigned? cs = some (power, cs')) :
    scanSigned? (cs ++ rest) = some (power, cs' ++ rest) := by
  cases cs with
  | nil => cases h
  | cons sign cs =>
    by_cases hplus : sign = '+'
    · subst hplus
      exact scanPower?_append hrest h
    by_cases hminus : sign = '-'
    · subst hminus
      exact scanPower?_append hrest h
    have hsigned (cs : List Char) : scanSigned? (sign :: cs) = scanPower? false (sign :: cs) := by
      simp [scanSigned?, hplus, hminus]
    rw [hsigned] at h
    rw [List.cons_append, hsigned]
    exact scanPower?_append hrest h

lemma scanExponent?_append {power : Option ℤ} (hrest : Follows rest)
    (h : scanExponent? cs = some (power, cs')) :
    scanExponent? (cs ++ rest) = some (power, cs' ++ rest) := by
  cases cs with
  | nil =>
    cases h
    cases rest with
    | nil => rfl
    | cons c rest => simp [scanExponent?_cons, hrest.ne.2.2]
  | cons c cs =>
    rw [scanExponent?_cons] at h
    rw [List.cons_append, scanExponent?_cons]
    split_ifs at h ⊢
    · exact scanSigned?_append hrest h
    · cases h
      rfl

/-- What follows the sign of a numeral. -/
def scanUnsigned? (negative : Bool) (cs : List Char) : Option (Numeral × List Char) := do
  let (whole, cs) ← scanWhole? cs
  let (fraction, cs) ← scanFraction? cs
  let (exponent, cs) ← scanExponent? cs
  return (⟨negative, whole, fraction, exponent⟩, cs)

lemma scan?_of_ne {c : Char} (hc : c ≠ '-') (cs : List Char) :
    scan? (c :: cs) = scanUnsigned? false (c :: cs) := by
  simp [scan?, scanUnsigned?, hc]

lemma scanUnsigned?_eq_some {negative : Bool} : scanUnsigned? negative cs = some (numeral, cs') ↔
    ∃ whole cs₁ fraction cs₂ exponent, scanWhole? cs = some (whole, cs₁) ∧
      scanFraction? cs₁ = some (fraction, cs₂) ∧ scanExponent? cs₂ = some (exponent, cs') ∧
      ⟨negative, whole, fraction, exponent⟩ = numeral := by
  simp [scanUnsigned?, Option.bind_eq_some_iff]

lemma scanUnsigned?_append {negative : Bool} (hrest : Follows rest)
    (h : scanUnsigned? negative cs = some (numeral, cs')) :
    scanUnsigned? negative (cs ++ rest) = some (numeral, cs' ++ rest) := by
  obtain ⟨whole, cs₁, fraction, cs₂, exponent, hwhole, hfraction, hexponent, hnumeral⟩ :=
    scanUnsigned?_eq_some.mp h
  exact scanUnsigned?_eq_some.mpr ⟨whole, cs₁ ++ rest, fraction, cs₂ ++ rest, exponent,
    scanWhole?_append hrest hwhole, scanFraction?_append hrest hfraction,
    scanExponent?_append hrest hexponent, hnumeral⟩

/-- A numeral is not read on into what follows it. -/
lemma scan?_append (hrest : Follows rest) (h : scan? cs = some (numeral, cs')) :
    scan? (cs ++ rest) = some (numeral, cs' ++ rest) := by
  cases cs with
  | nil => cases h
  | cons c cs =>
    by_cases hc : c = '-'
    · subst hc
      exact scanUnsigned?_append hrest h
    · rw [scan?_of_ne hc] at h
      rw [List.cons_append, scan?_of_ne hc]
      exact scanUnsigned?_append hrest h

lemma read?_append {n : Number} (hrest : Follows rest) (h : read? cs = some n) :
    ∃ numeral, scan? (cs ++ rest) = some (numeral, rest) ∧ numeral.number? = some n := by
  rw [read?] at h
  split at h
  · next numeral hscan => exact ⟨numeral, scan?_append hrest hscan, h⟩
  · cases h

end Numeral

section Integers

open Decimal Numeral

lemma head_toDigits {n : ℕ} (hn : n ≠ 0) : (Nat.toDigits 10 n).head? ≠ some '0' := by
  induction n using Nat.strong_induction_on with
  | h n ih =>
    obtain hlt | hge := Nat.lt_or_ge n 10
    · simpa [Nat.toDigits_of_lt_base hlt] using hn
    · rw [Nat.toDigits_of_base_le (by decide) hge,
        List.head?_append_of_ne_nil _ Nat.toDigits_ne_nil]
      exact ih (n / 10) (by omega) (by omega)

lemma ofDigits_map (cs : List Char) :
    ofDigits (cs.map fun c => c.toNat - '0'.toNat) = Nat.ofDigitChars 10 cs 0 := by
  rw [ofDigits, List.foldl_map]
  rfl

lemma spanDigits_toDigits (n : ℕ) : spanDigits (Nat.toDigits 10 n) =
    ((Nat.toDigits 10 n).map fun c => c.toNat - '0'.toNat, []) := by
  have hdigits : ∀ c ∈ Nat.toDigits 10 n, c.isDigit = true := fun _ => isDigit_of_mem_toDigits
  rw [spanDigits, List.takeWhile_eq_self_iff.mpr hdigits, List.dropWhile_eq_nil_iff.mpr hdigits]

lemma toNat_ne_zero {c : Char} (hdigit : c.isDigit = true) (hc : c ≠ '0') :
    c.toNat - '0'.toNat ≠ 0 := by
  have hge : 48 ≤ c.toNat := (Char.isDigit_iff_toNat.mp hdigit).1
  have hne : c.toNat ≠ 48 := fun h => hc (Char.toNat_inj.mp h)
  change c.toNat - 48 ≠ 0
  omega

lemma scanWhole?_toDigits (n : ℕ) : scanWhole? (Nat.toDigits 10 n) =
    some ((Nat.toDigits 10 n).map fun c => c.toNat - '0'.toNat, []) := by
  rw [scanWhole?, spanDigits_toDigits]
  obtain rfl | hn := eq_or_ne n 0
  · rfl
  obtain ⟨c, cs, hcs⟩ := List.exists_cons_of_ne_nil (@Nat.toDigits_ne_nil n 10)
  have hhead := head_toDigits hn
  have hdigit : c.isDigit = true := isDigit_of_mem_toDigits (hcs ▸ List.mem_cons_self)
  rw [hcs] at hhead ⊢
  have hzero := toNat_ne_zero hdigit fun h => hhead (congrArg some h)
  rw [List.map_cons]
  generalize c.toNat - '0'.toNat = digit at *
  cases digit with
  | zero => exact absurd rfl hzero
  | succ digit => rfl

lemma scanUnsigned?_toDigits (negative : Bool) (n : ℕ) : scanUnsigned? negative (Nat.toDigits 10 n) =
    some (⟨negative, (Nat.toDigits 10 n).map fun c => c.toNat - '0'.toNat, [], none⟩, []) :=
  scanUnsigned?_eq_some.mpr ⟨_, _, _, _, _, scanWhole?_toDigits n, rfl, rfl, rfl⟩

lemma scan?_toString (n : ℤ) : scan? (toString n).toList =
    some (⟨decide (n < 0), (Nat.toDigits 10 n.natAbs).map fun c => c.toNat - '0'.toNat, [], none⟩,
      []) := by
  obtain hneg | hpos := lt_or_ge n 0
  · rw [toString_of_neg hneg, String.toList_append, toList_toString, decide_eq_true hneg]
    exact scanUnsigned?_toDigits true n.natAbs
  · obtain ⟨c, cs, hcs⟩ := List.exists_cons_of_ne_nil (@Nat.toDigits_ne_nil n.natAbs 10)
    have hdigit : c.isDigit = true := isDigit_of_mem_toDigits (hcs ▸ List.mem_cons_self)
    rw [toString_of_nonneg hpos, toList_toString, hcs,
      scan?_of_ne (bne_iff_ne.mp (ne_minus_of_isDigit c hdigit)), ← hcs,
      decide_eq_false hpos.not_gt]
    exact scanUnsigned?_toDigits false n.natAbs

lemma read?_integer {n : ℤ} (h : (Number.integer n).isProper = true) :
    read? (toString n).toList = some (.integer n) := by
  obtain ⟨hlow, hhigh⟩ := of_decide_eq_true h
  have hwhole :
      ofDigits ((Nat.toDigits 10 n.natAbs).map fun c => c.toNat - '0'.toNat) = n.natAbs := by
    rw [ofDigits_map, Nat.ofDigitChars_ten_toDigits]
  have hsmall : n.natAbs < UInt64.size := by omega
  simp only [read?, scan?_toString, number?, hwhole]
  obtain hneg | hpos := lt_or_ge n 0
  · have hhalf : ¬ (n.natAbs = 0 ∨ UInt64.size / 2 < n.natAbs) := by omega
    have hminus : -(n.natAbs : ℤ) = n := by omega
    simp only [hneg, hsmall, hhalf, hminus, decide_true, List.isEmpty_nil, Option.isNone_none,
      Bool.and_self, Bool.not_true, Bool.false_eq_true, if_true, if_false]
  · simp [hpos, hsmall]

end Integers

end Armature.Json
