import Armature.Proofs.NumeralReadings
import Armature.Proofs.QuotedTexts

/-! A printed value is read back, as far as its numbers are, whatever its strings hold. -/

namespace Armature

deriving instance DecidableEq for Number

/-- Whether a number is read back from its text. -/
def Number.Legible (n : Number) : Prop := Json.Numeral.read? (Json.numberText n).toList = some n

instance : DecidablePred Number.Legible := fun _ => inferInstanceAs (Decidable (_ = _))

namespace Json

section Measures

mutual

/-- The numbers of a value, as they come. -/
def numbers : Json → List Number
  | number n => [n]
  | array items => itemNumbers items
  | object members => memberNumbers members
  | _ => []

def itemNumbers : List Json → List Number
  | [] => []
  | item :: rest => numbers item ++ itemNumbers rest

def memberNumbers : List (String × Json) → List Number
  | [] => []
  | (_, value) :: rest => numbers value ++ memberNumbers rest

end

mutual

/-- How many brackets are open at once. -/
def height : Json → ℕ
  | array items => itemsHeight items + 1
  | object members => membersHeight members + 1
  | _ => 0

def itemsHeight : List Json → ℕ
  | [] => 0
  | item :: rest => max (height item) (itemsHeight rest)

def membersHeight : List (String × Json) → ℕ
  | [] => 0
  | (_, value) :: rest => max (height value) (membersHeight rest)

end

end Measures

section Beginnings

variable {n : Number} {c : Char} {cs rest : List Char}

lemma isNumeral_of_legible (h : n.Legible) : Decimal.IsNumeral (numberText n) := by
  cases n with
  | integer n => exact toString_isNumeral n
  | float x =>
    rw [Number.Legible, numberText] at h
    rw [numberText]
    split_ifs at h ⊢ with hx
    · exact Decimal.Layout.json.text_isNumeral hx
    · cases h

/-- Whether a character is passed over in front of a value. -/
def isBlank (c : Char) : Bool := c = ' ' || c = '\n' || c = '\t' || c = '\r'

lemma skipBlanks_of_not_blank (hc : isBlank c = false) (cs : List Char) :
    Outline.skipBlanks (c :: cs) = c :: cs := List.dropWhile_cons_of_neg (by simpa [isBlank] using hc)

lemma skipBlanks_append (h : ∀ c ∈ cs, isBlank c = true) (rest : List Char) :
    Outline.skipBlanks (cs ++ rest) = Outline.skipBlanks rest := List.dropWhile_append_of_pos h

lemma skipBlanks_lineBreak (depth : ℕ) (rest : List Char) :
    Outline.skipBlanks ((lineBreak depth).toList ++ rest) = Outline.skipBlanks rest := by
  refine skipBlanks_append (fun c hc => ?_) rest
  rw [lineBreak, String.toList_ofList, List.mem_cons, List.mem_replicate] at hc
  obtain rfl | ⟨-, rfl⟩ := hc <;> rfl

lemma not_blank_of_inNumeral (h : Decimal.inNumeral c = true) : isBlank c = false := by
  rw [← Bool.not_eq_true]
  intro hblank
  simp only [isBlank, Bool.or_eq_true, decide_eq_true_eq] at hblank
  obtain ((rfl | rfl) | rfl) | rfl := hblank <;> cases h

lemma exists_cons_of_legible (h : n.Legible) :
    ∃ c cs, (numberText n).toList = c :: cs ∧ Decimal.inNumeral c = true := by
  obtain ⟨hne, hall⟩ := isNumeral_of_legible h
  obtain ⟨c, cs, hcs⟩ := List.exists_cons_of_ne_nil hne
  rw [hcs, List.all_cons, Bool.and_eq_true] at hall
  exact ⟨c, cs, hcs, hall.1⟩

lemma bracket_eq (opening closing : String) (depth : ℕ) (texts : List String) :
    ∃ inner, bracket opening closing depth texts = opening ++ inner := by
  cases texts with
  | nil => exact ⟨closing, rfl⟩
  | cons text texts =>
    simp only [bracket, String.append_assoc]
    exact ⟨_, rfl⟩

/-- A printed value is not taken for blanks in front of it, nor for the end of a list. -/
lemma exists_cons_prettyAt (depth : ℕ) {v : Json} (h : ∀ n ∈ v.numbers, n.Legible) :
    ∃ c cs, (prettyAt depth v).toList = c :: cs ∧ isBlank c = false ∧ c ≠ ']' := by
  cases v with
  | null => exact ⟨'n', "ull".toList, by rw [prettyAt]; rfl, rfl, by decide⟩
  | bool b =>
    cases b
    · exact ⟨'f', "alse".toList, by rw [prettyAt]; rfl, rfl, by decide⟩
    · exact ⟨'t', "rue".toList, by rw [prettyAt]; rfl, rfl, by decide⟩
  | number n =>
    obtain ⟨c, cs, hcs, hc⟩ := exists_cons_of_legible (h n List.mem_cons_self)
    refine ⟨c, cs, hcs, not_blank_of_inNumeral hc, ?_⟩
    rintro rfl
    cases hc
  | text s =>
    have hquote := toList_quote s []
    rw [List.append_nil] at hquote
    exact ⟨'"', _, hquote, rfl, by decide⟩
  | array items =>
    obtain ⟨inner, hinner⟩ := bracket_eq "[" "]" depth (prettyItems (depth + 1) items)
    exact ⟨'[', inner.toList, by rw [prettyAt, hinner, String.toList_append]; rfl, rfl, by decide⟩
  | object members =>
    obtain ⟨inner, hinner⟩ := bracket_eq "\x7b" "\x7d" depth (prettyMembers (depth + 1) members)
    exact ⟨'\x7b', inner.toList, by rw [prettyAt, hinner, String.toList_append]; rfl, rfl, by decide⟩

lemma skipBlanks_prettyAt (depth : ℕ) {v : Json} (h : ∀ n ∈ v.numbers, n.Legible) (rest : List Char) :
    Outline.skipBlanks ((prettyAt depth v).toList ++ rest) = (prettyAt depth v).toList ++ rest := by
  obtain ⟨c, cs, hcs, hc, -⟩ := exists_cons_prettyAt depth h
  rw [hcs, List.cons_append, skipBlanks_of_not_blank hc]

end Beginnings

section Lists

/-- The items of a list, one a line. -/
def itemLines (depth : ℕ) (items : List Json) : List Char :=
  (String.intercalate ("," ++ lineBreak depth) (prettyItems depth items)).toList

def memberLines (depth : ℕ) (members : List (String × Json)) : List Char :=
  (String.intercalate ("," ++ lineBreak depth) (prettyMembers depth members)).toList

variable (depth : ℕ) (rest : List Char)

lemma itemLines_one (item : Json) : itemLines depth [item] = (prettyAt depth item).toList := by
  rw [itemLines, prettyItems, prettyItems, String.intercalate_singleton]

lemma itemLines_more (item next : Json) (items : List Json) :
    itemLines depth (item :: next :: items) = (prettyAt depth item).toList ++
      ',' :: ((lineBreak depth).toList ++ itemLines depth (next :: items)) := by
  rw [itemLines, itemLines, prettyItems, prettyItems, String.intercalate_cons_cons]
  simp

lemma memberLines_one (key : String) (value : Json) : memberLines depth [(key, value)] =
    (quote key).toList ++ ':' :: ' ' :: (prettyAt depth value).toList := by
  rw [memberLines, prettyMembers, prettyMembers, String.intercalate_singleton]
  simp

lemma memberLines_more (key : String) (value : Json) (next : String × Json)
    (members : List (String × Json)) : memberLines depth ((key, value) :: next :: members) =
    (quote key).toList ++ ':' :: ' ' :: ((prettyAt depth value).toList ++
      ',' :: ((lineBreak depth).toList ++ memberLines depth (next :: members))) := by
  rw [memberLines, memberLines, prettyMembers, prettyMembers, String.intercalate_cons_cons]
  simp

lemma prettyAt_array (item : Json) (items : List Json) :
    (prettyAt depth (array (item :: items))).toList ++ rest =
      '[' :: ((lineBreak (depth + 1)).toList ++ (itemLines (depth + 1) (item :: items) ++
        ((lineBreak depth).toList ++ ']' :: rest))) := by
  rw [prettyAt, prettyItems, bracket, itemLines, prettyItems] <;> simp

lemma prettyAt_object (member : String × Json) (members : List (String × Json)) :
    (prettyAt depth (object (member :: members))).toList ++ rest =
      '\x7b' :: ((lineBreak (depth + 1)).toList ++ (memberLines (depth + 1) (member :: members) ++
        ((lineBreak depth).toList ++ '\x7d' :: rest))) := by
  rw [prettyAt, prettyMembers, bracket, memberLines, prettyMembers] <;> simp

lemma follows_lineBreak : Numeral.Follows ((lineBreak depth).toList ++ rest) := by
  simp [Numeral.Follows, lineBreak]

lemma exists_cons_itemLines {item : Json} (h : ∀ n ∈ item.numbers, n.Legible) (items : List Json) :
    ∃ c cs, itemLines depth (item :: items) ++ rest = c :: cs ∧ isBlank c = false ∧ c ≠ ']' := by
  obtain ⟨c, cs, hcs, hc⟩ := exists_cons_prettyAt depth h
  cases items with
  | nil => exact ⟨c, cs ++ rest, by rw [itemLines_one, hcs, List.cons_append], hc⟩
  | cons next items =>
    rw [itemLines_more, hcs]
    exact ⟨c, _, rfl, hc⟩

lemma exists_cons_memberLines (member : String × Json) (members : List (String × Json)) :
    ∃ cs, memberLines depth (member :: members) ++ rest = '"' :: cs := by
  cases members with
  | nil =>
    rw [memberLines_one, List.append_assoc, toList_quote]
    exact ⟨_, rfl⟩
  | cons next members =>
    rw [memberLines_more, List.append_assoc, toList_quote]
    exact ⟨_, rfl⟩

end Lists

section Scanning

open Outline (scanValue scanItems scanMembers limit nesting)

variable {fuel depth : ℕ} {cs rest : List Char}

lemma limit_some {outline : Outline} (h : depth < nesting) :
    limit depth (outline, some rest) = (outline, some rest) := by
  rw [limit, if_pos h]

lemma scanValue_number {n : Number} (hn : n.Legible) (hrest : Numeral.Follows rest)
    (h : Outline.skipBlanks cs = (numberText n).toList ++ rest) :
    scanValue (fuel + 1) depth cs = (.number n, some rest) := by
  obtain ⟨c, text, htext, hc⟩ := exists_cons_of_legible hn
  obtain ⟨numeral, hscan, hnumber⟩ := Numeral.read?_append hrest hn
  rw [htext, List.cons_append] at h hscan
  rw [scanValue, h]
  split
  all_goals try next heq => exact absurd ((List.cons.inj heq).1 ▸ hc) (by decide)
  simp only [hscan, hnumber]

lemma scanValue_text {s : String} (hfuel : s.toList.length < fuel)
    (h : Outline.skipBlanks cs = (quote s).toList ++ rest) :
    scanValue (fuel + 1) depth cs = (.text s, some rest) := by
  rw [toList_quote] at h
  rw [scanValue, h]
  simp [scanString?_quoted hfuel]

lemma scanValue_array {c : Char} {inner text : List Char} (hcs : Outline.skipBlanks cs = '[' :: inner)
    (hinner : Outline.skipBlanks inner = c :: text) (hc : c ≠ ']') :
    scanValue (fuel + 1) depth cs = limit depth (scanItems fuel (depth + 1) [] (c :: text)) := by
  rw [scanValue, hcs]
  simp [hinner, hc]

lemma scanValue_object {inner text : List Char} (hcs : Outline.skipBlanks cs = '\x7b' :: inner)
    (hinner : Outline.skipBlanks inner = '"' :: text) :
    scanValue (fuel + 1) depth cs = limit depth (scanMembers fuel (depth + 1) [] ('"' :: text)) := by
  rw [scanValue, hcs]
  simp [hinner]

/-- A value is read back at any depth that it fits into, wherever its text stands, with twice the
length of the text as fuel. -/
def Scanned (v : Json) : Prop :=
  ∀ ⦃fuel depth : ℕ⦄ ⦃cs rest : List Char⦄, (∀ n ∈ v.numbers, n.Legible) →
    depth + v.height ≤ nesting → 2 * (prettyAt depth v).toList.length ≤ fuel → Numeral.Follows rest →
    Outline.skipBlanks cs = (prettyAt depth v).toList ++ rest →
    scanValue fuel depth cs = (.ofJson v, some rest)

def ItemsScanned (items : List Json) : Prop :=
  items ≠ [] → ∀ ⦃fuel depth : ℕ⦄ ⦃read : List Outline⦄ ⦃cs after rest : List Char⦄,
    (∀ n ∈ itemNumbers items, n.Legible) → depth + itemsHeight items ≤ nesting →
    2 * (itemLines depth items).length < fuel → Numeral.Follows after →
    Outline.skipBlanks cs = itemLines depth items ++ after →
    Outline.skipBlanks after = ']' :: rest →
    scanItems fuel depth read cs = (.array (read.reverse ++ Outline.ofItems items) true, some rest)

def MembersScanned (members : List (String × Json)) : Prop :=
  members ≠ [] → ∀ ⦃fuel depth : ℕ⦄ ⦃read : List (Option String × Outline)⦄
      ⦃cs after rest : List Char⦄,
    (∀ n ∈ memberNumbers members, n.Legible) → depth + membersHeight members ≤ nesting →
    2 * (memberLines depth members).length < fuel → Numeral.Follows after →
    Outline.skipBlanks cs = memberLines depth members ++ after →
    Outline.skipBlanks after = '\x7d' :: rest →
    scanMembers fuel depth read cs =
      (.object (read.reverse ++ Outline.ofMembers members) true, some rest)

lemma exists_fuel {v : Json} (h : ∀ n ∈ v.numbers, n.Legible)
    (hfuel : 2 * (prettyAt depth v).toList.length ≤ fuel) : ∃ n, fuel = n + 1 := by
  obtain ⟨c, cs, hcs, -⟩ := exists_cons_prettyAt depth h
  rw [hcs, List.length_cons] at hfuel
  exact Nat.exists_eq_add_one.mpr (by omega)

lemma scanned_null : Scanned null := by
  intro fuel depth cs rest hnumbers _ hfuel _ hcs
  obtain ⟨fuel, rfl⟩ := exists_fuel hnumbers hfuel
  rw [prettyAt] at hcs
  rw [scanValue, hcs]
  rfl

lemma scanned_bool (b : Bool) : Scanned (bool b) := by
  intro fuel depth cs rest hnumbers _ hfuel _ hcs
  obtain ⟨fuel, rfl⟩ := exists_fuel hnumbers hfuel
  rw [prettyAt] at hcs
  rw [scanValue, hcs]
  cases b <;> rfl

lemma scanned_number (n : Number) : Scanned (number n) := by
  intro fuel depth cs rest hnumbers _ hfuel hrest hcs
  obtain ⟨fuel, rfl⟩ := exists_fuel hnumbers hfuel
  rw [prettyAt] at hcs
  exact scanValue_number (hnumbers n List.mem_cons_self) hrest hcs

lemma scanned_text (s : String) : Scanned (text s) := by
  intro fuel depth cs rest hnumbers _ hfuel _ hcs
  obtain ⟨fuel, rfl⟩ := exists_fuel hnumbers hfuel
  rw [prettyAt] at hcs hfuel
  have hlength := length_quote s
  exact scanValue_text (by omega) hcs

lemma scanned_array {items : List Json} (h : ItemsScanned items) : Scanned (array items) := by
  intro fuel depth cs rest hnumbers hheight hfuel _ hcs
  obtain ⟨fuel, rfl⟩ := exists_fuel hnumbers hfuel
  rw [height] at hheight
  have hdepth : depth < nesting := by omega
  cases items with
  | nil =>
    rw [prettyAt, prettyItems, bracket] at hcs
    rw [scanValue, hcs]
    exact limit_some hdepth
  | cons item items =>
    -- the line breaks and brackets around the items leave them enough fuel
    have hlength := congrArg List.length (prettyAt_array depth [] item items)
    obtain ⟨c, text, hlines, hblank, hc⟩ := exists_cons_itemLines (depth + 1)
      ((lineBreak depth).toList ++ ']' :: rest)
      (fun n hn => hnumbers n (List.mem_append_left _ hn)) items
    simp only [List.length_append, List.length_cons, List.length_nil] at hlength
    rw [prettyAt_array, hlines] at hcs
    have hinner : Outline.skipBlanks ((lineBreak (depth + 1)).toList ++ c :: text) = c :: text := by
      rw [skipBlanks_lineBreak, skipBlanks_of_not_blank hblank]
    rw [scanValue_array hcs hinner hc, h (by simp) hnumbers (by omega) (by omega)
      (follows_lineBreak depth _) (by rw [skipBlanks_of_not_blank hblank, hlines])
      (by rw [skipBlanks_lineBreak, skipBlanks_of_not_blank rfl]), limit_some hdepth]
    rfl

lemma itemsScanned_cons {item : Json} {items : List Json} (h : Scanned item)
    (hitems : ItemsScanned items) : ItemsScanned (item :: items) := by
  intro _ fuel depth read cs after rest hnumbers hheight hfuel hafter hcs hend
  obtain ⟨fuel, rfl⟩ := Nat.exists_eq_add_one.mpr (Nat.zero_lt_of_lt hfuel)
  rw [itemsHeight] at hheight
  rw [itemNumbers, List.forall_mem_append] at hnumbers
  cases items with
  | nil =>
    rw [itemLines_one] at hcs hfuel
    rw [scanItems, h hnumbers.1 (by omega) (by omega) hafter hcs]
    simp [hend, Outline.ofItems]
  | cons next items =>
    have hlength := congrArg List.length (itemLines_more depth item next items)
    simp only [List.length_append, List.length_cons] at hlength
    rw [itemLines_more, List.append_assoc] at hcs
    obtain ⟨c, text, hlines, hblank, -⟩ := exists_cons_itemLines depth after
      (List.forall_mem_append.mp hnumbers.2).1 items
    have hnext :
        Outline.skipBlanks ((lineBreak depth).toList ++ itemLines depth (next :: items) ++ after) =
          itemLines depth (next :: items) ++ after := by
      rw [List.append_assoc, skipBlanks_lineBreak, hlines, skipBlanks_of_not_blank hblank]
    rw [scanItems, h hnumbers.1 (by omega) (by omega) (by simp [Numeral.Follows]) hcs]
    simp only [List.cons_append, skipBlanks_of_not_blank (show isBlank ',' = false from rfl)]
    rw [hitems (by simp) hnumbers.2 (by omega) (by omega) hafter hnext hend]
    simp [Outline.ofItems]

lemma scanned_object {members : List (String × Json)} (h : MembersScanned members) :
    Scanned (object members) := by
  intro fuel depth cs rest hnumbers hheight hfuel _ hcs
  obtain ⟨fuel, rfl⟩ := exists_fuel hnumbers hfuel
  rw [height] at hheight
  have hdepth : depth < nesting := by omega
  cases members with
  | nil =>
    rw [prettyAt, prettyMembers, bracket] at hcs
    rw [scanValue, hcs]
    exact limit_some hdepth
  | cons member members =>
    have hlength := congrArg List.length (prettyAt_object depth [] member members)
    obtain ⟨text, hlines⟩ := exists_cons_memberLines (depth + 1)
      ((lineBreak depth).toList ++ '\x7d' :: rest) member members
    simp only [List.length_append, List.length_cons, List.length_nil] at hlength
    rw [prettyAt_object, hlines] at hcs
    have hinner :
        Outline.skipBlanks ((lineBreak (depth + 1)).toList ++ '"' :: text) = '"' :: text := by
      rw [skipBlanks_lineBreak, skipBlanks_of_not_blank rfl]
    rw [scanValue_object hcs hinner, h (by simp) hnumbers (by omega) (by omega)
      (follows_lineBreak depth _) (by rw [skipBlanks_of_not_blank rfl, hlines])
      (by rw [skipBlanks_lineBreak, skipBlanks_of_not_blank rfl]), limit_some hdepth]
    rfl

section Members

variable {key : String} {value : Outline} {read : List (Option String × Outline)}
  {after tail : List Char}

lemma scanMembers_last (hfuel : key.toList.length < fuel)
    (hcs : Outline.skipBlanks cs = (quote key).toList ++ ':' :: ' ' :: rest)
    (hvalue : scanValue fuel depth (' ' :: rest) = (value, some after))
    (hafter : Outline.skipBlanks after = '\x7d' :: tail) :
    scanMembers (fuel + 1) depth read cs =
      (.object (read.reverse ++ [(some key, value)]) true, some tail) := by
  rw [toList_quote] at hcs
  rw [scanMembers, hcs]
  simp [scanString?_quoted hfuel, skipBlanks_of_not_blank (show isBlank ':' = false from rfl), hvalue,
    hafter]

lemma scanMembers_next (hfuel : key.toList.length < fuel)
    (hcs : Outline.skipBlanks cs = (quote key).toList ++ ':' :: ' ' :: rest)
    (hvalue : scanValue fuel depth (' ' :: rest) = (value, some after))
    (hafter : Outline.skipBlanks after = ',' :: tail) :
    scanMembers (fuel + 1) depth read cs =
      scanMembers fuel depth ((some key, value) :: read) tail := by
  rw [toList_quote] at hcs
  rw [scanMembers, hcs]
  simp [scanString?_quoted hfuel, skipBlanks_of_not_blank (show isBlank ':' = false from rfl), hvalue,
    hafter]

end Members

lemma membersScanned_cons {key : String} {value : Json} {members : List (String × Json)}
    (h : Scanned value) (hmembers : MembersScanned members) :
    MembersScanned ((key, value) :: members) := by
  intro _ fuel depth read cs after rest hnumbers hheight hfuel hafter hcs hend
  obtain ⟨fuel, rfl⟩ := Nat.exists_eq_add_one.mpr (Nat.zero_lt_of_lt hfuel)
  have hkey := length_quote key
  rw [membersHeight] at hheight
  rw [memberNumbers, List.forall_mem_append] at hnumbers
  have hskip (rest : List Char) :
      Outline.skipBlanks (' ' :: ((prettyAt depth value).toList ++ rest)) =
        (prettyAt depth value).toList ++ rest := skipBlanks_prettyAt depth hnumbers.1 rest
  -- the last member stands before the closing brace, any other before a comma
  cases members with
  | nil =>
    rw [memberLines_one] at hcs hfuel
    simp only [List.append_assoc, List.cons_append] at hcs
    simp only [List.length_append, List.length_cons] at hfuel
    rw [scanMembers_last (by omega) hcs
      (h hnumbers.1 (by omega) (by omega) hafter (hskip after)) hend]
    rfl
  | cons next members =>
    have hlength := congrArg List.length (memberLines_more depth key value next members)
    simp only [List.length_append, List.length_cons] at hlength
    rw [memberLines_more] at hcs
    simp only [List.append_assoc, List.cons_append] at hcs
    obtain ⟨text, hlines⟩ := exists_cons_memberLines depth after next members
    have hnext :
        Outline.skipBlanks
            ((lineBreak depth).toList ++ (memberLines depth (next :: members) ++ after)) =
          memberLines depth (next :: members) ++ after := by
      rw [skipBlanks_lineBreak, hlines, skipBlanks_of_not_blank rfl]
    rw [scanMembers_next (by omega) hcs
      (h hnumbers.1 (by omega) (by omega) (by simp [Numeral.Follows]) (hskip _))
      (skipBlanks_of_not_blank rfl _),
      hmembers (by simp) hnumbers.2 (by omega) (by omega) hafter hnext hend]
    simp [Outline.ofMembers]

mutual

lemma scanned : (v : Json) → Scanned v
  | null => scanned_null
  | bool b => scanned_bool b
  | number n => scanned_number n
  | text s => scanned_text s
  | array items => scanned_array (itemsScanned items)
  | object members => scanned_object (membersScanned members)

lemma itemsScanned : (items : List Json) → ItemsScanned items
  | [] => fun hne => absurd rfl hne
  | item :: items => itemsScanned_cons (scanned item) (itemsScanned items)

lemma membersScanned : (members : List (String × Json)) → MembersScanned members
  | [] => fun hne => absurd rfl hne
  | (_, value) :: members => membersScanned_cons (scanned value) (membersScanned members)

end

/-- A printed value is read back if its numbers are and if not too many of its brackets are open at
once. -/
theorem ofText_pretty {v : Json} (hnumbers : ∀ n ∈ v.numbers, n.Legible)
    (hheight : v.height ≤ nesting) :
    Reading.ofText v.pretty = ⟨.ofJson v, true⟩ := by
  have hscanned := @scanned v (2 * v.pretty.toList.length + 2) 0 v.pretty.toList [] hnumbers
    (by omega) (Nat.le_add_right _ _) (by simp [Numeral.Follows])
    (by rw [← skipBlanks_prettyAt 0 hnumbers []]; simp [pretty])
  rw [Reading.ofText]
  simp only [hscanned]
  rfl

end Scanning

end Json

end Armature
