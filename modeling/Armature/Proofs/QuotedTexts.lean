import Armature.Json.Outline
import Armature.Json.Printer
import Mathlib.Data.String.Basic
import Mathlib.Tactic

/-! A quoted string is read back, whatever follows its closing quote. -/

namespace Armature.Json

open Outline (scanString? scanHex? hexDigit?)

lemma hexDigit?_digitChar : ∀ d < 16, hexDigit? (Nat.digitChar d) = some d := by
  decide

lemma scanHex?_control {c : Char} (h : c.toNat < 0x20) (rest : List Char) :
    scanHex? ('0' :: '0' :: Nat.digitChar (c.toNat / 16) :: Nat.digitChar (c.toNat % 16) :: rest) =
      some (c.toNat, rest) := by
  have hzero : hexDigit? '0' = some 0 := rfl
  have hhigh := hexDigit?_digitChar (c.toNat / 16) (by omega)
  have hlow := hexDigit?_digitChar (c.toNat % 16) (by omega)
  have hvalue : ((0 * 16 + 0) * 16 + c.toNat / 16) * 16 + c.toNat % 16 = c.toNat := by omega
  simp only [scanHex?, hzero, hhigh, hlow, Option.pure_def, Option.bind_eq_bind, Option.bind_some,
    hvalue]

variable {fuel : ℕ} {read : List Char}

lemma scanString?_escape (c : Char) (rest : List Char) :
    scanString? (fuel + 1) (some read) (escape c ++ rest) =
      scanString? fuel (some (c :: read)) rest := by
  rw [escape]
  split_ifs with hquote hbackslash hn hr ht hb hf hcontrol
  all_goals try (subst c; simp [scanString?, Outline.escaped?])
  · have hleading : Outline.isLeading c.toNat = false := by
      simp [Outline.isLeading]
      omega
    have htrailing : Outline.isTrailing c.toNat = false := by
      simp [Outline.isTrailing]
      omega
    simp [scanString?, scanHex?_control hcontrol, hleading, htrailing]
  · simp [scanString?, hquote, hbackslash, hcontrol]

lemma scanString?_quoted {cs : List Char} (h : cs.length < fuel) (rest : List Char) :
    scanString? fuel (some read) (cs.flatMap escape ++ '"' :: rest) =
      some (some (String.ofList (read.reverse ++ cs)), rest) := by
  induction cs generalizing fuel read with
  | nil =>
    obtain ⟨fuel, rfl⟩ := Nat.exists_eq_add_one.mpr h
    simp [scanString?]
  | cons c cs ih =>
    rw [List.length_cons] at h
    obtain ⟨fuel, rfl⟩ := Nat.exists_eq_add_one.mpr (Nat.zero_lt_of_lt h)
    rw [List.flatMap_cons, List.append_assoc, scanString?_escape, ih (by omega)]
    simp

lemma toList_quote (s : String) (rest : List Char) :
    (quote s).toList ++ rest = '"' :: (s.toList.flatMap escape ++ '"' :: rest) := by
  simp [quote]

lemma length_quote (s : String) : s.toList.length + 2 ≤ (quote s).toList.length := by
  have hescape (c : Char) : 1 ≤ (escape c).length := by
    rw [escape]
    split_ifs <;> simp
  have hsum (cs : List Char) : cs.length ≤ (cs.flatMap escape).length := by
    induction cs with
    | nil => rfl
    | cons c cs ih =>
      have := hescape c
      rw [List.flatMap_cons, List.length_append, List.length_cons]
      omega
  have := hsum s.toList
  simp only [quote, String.toList_ofList, List.length_append, List.length_cons, List.length_nil]
  omega

lemma quote_append_inj {s t : String} {u v : List Char}
    (h : (quote s).toList ++ u = (quote t).toList ++ v) : s = t ∧ u = v := by
  rw [toList_quote, toList_quote, List.cons.injEq] at h
  have hs := @scanString?_quoted (s.toList.length + t.toList.length + 1) [] s.toList (by omega) u
  have ht := @scanString?_quoted (s.toList.length + t.toList.length + 1) [] t.toList (by omega) v
  rw [h.2, ht] at hs
  simpa [eq_comm] using hs

end Armature.Json
