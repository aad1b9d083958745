import Armature.Plan.Json
import Armature.Proofs.MemberOrders
import Armature.Proofs.NumberTexts
import Armature.Proofs.QuotedTexts
import Armature.Proofs.Reorderings

/-! A text without spaces is the text of one value only, whichever way its numbers are written: where a
value ends can be seen from the next character. -/

namespace Armature.Json

section Spelling

variable (quoted : String → String) (numeral : Number → String)

mutual

/-- The text of a value, its members in the order in which they come. -/
def spelled : Json → List Char
  | null => "null".toList
  | bool b => (if b then "true" else "false").toList
  | number n => (numeral n).toList
  | text s => (quoted s).toList
  | array items => '[' :: ((spelledItems items).tail ++ [']'])
  | object members => '\x7b' :: ((spelledMembers members).tail ++ ['\x7d'])

/-- Each of the items with a comma before it. -/
def spelledItems : List Json → List Char
  | [] => []
  | item :: rest => ',' :: (spelled item ++ spelledItems rest)

def spelledMembers : List (String × Json) → List Char
  | [] => []
  | (key, value) :: rest =>
    ',' :: ((quoted key).toList ++ ':' :: (spelled value ++ spelledMembers rest))

end

variable {quoted numeral}

lemma spelledMembers_eq_flatMap (members : List (String × Json)) :
    spelledMembers quoted numeral members = members.flatMap fun member =>
      ',' :: ((quoted member.1).toList ++ ':' :: spelled quoted numeral member.2) := by
  induction members with
  | nil => rfl
  | cons member rest ih => simp [spelledMembers, ih]

end Spelling

section Arranging

variable (before : String → String → Bool)

/-- The members in an order of their keys. -/
def arrangedBy {α : Type} (members : List (String × α)) : List (String × α) :=
  members.mergeSort fun a b => before a.1 b.1

mutual

/-- A value with its members in an order of their keys, at every level. -/
def arranged : Json → Json
  | array items => array (arrangedItems items)
  | object members => object (arrangedBy before (arrangedMembers members))
  | other => other

def arrangedItems : List Json → List Json
  | [] => []
  | item :: rest => arranged item :: arrangedItems rest

def arrangedMembers : List (String × Json) → List (String × Json)
  | [] => []
  | (key, value) :: rest => (key, arranged value) :: arrangedMembers rest

end

variable {before}

lemma arrangedBy_perm {α : Type} (members : List (String × α)) :
    (arrangedBy before members).Perm members := List.mergeSort_perm ..

lemma arrangedBy_map {α β : Type} (f : α → β) (members : List (String × α)) :
    (arrangedBy before members).map (fun member => (member.1, f member.2)) =
      arrangedBy before (members.map fun member => (member.1, f member.2)) :=
  List.map_mergeSort fun _ _ _ _ => rfl

lemma arrangedMembers_eq_map (members : List (String × Json)) : arrangedMembers before members =
    members.map fun member => (member.1, arranged before member.2) := by
  induction members with
  | nil => rfl
  | cons member rest ih => rw [arrangedMembers, ih, List.map_cons]

lemma arrangedBy_arrangedMembers (members : List (String × Json)) :
    arrangedBy before (arrangedMembers before members) =
      (arrangedBy before members).map fun member => (member.1, arranged before member.2) := by
  rw [arrangedMembers_eq_map, ← arrangedBy_map]

mutual

lemma reordered_arranged : (v : Json) → Reordered v (arranged before v)
  | null | bool _ | number _ | text _ => Alike.refl (fun _ => rfl) _
  | array items => reordered_arrangedItems items
  | object members =>
    ⟨arrangedMembers before members, arrangedBy_perm _, reordered_arrangedMembers members⟩

lemma reordered_arrangedItems : (items : List Json) →
    AlikeItems Eq items (arrangedItems before items)
  | [] => trivial
  | item :: rest => ⟨reordered_arranged item, reordered_arrangedItems rest⟩

lemma reordered_arrangedMembers : (members : List (String × Json)) →
    AlikeMembers Eq members (arrangedMembers before members)
  | [] => trivial
  | (_, value) :: rest => ⟨rfl, reordered_arranged value, reordered_arrangedMembers rest⟩

end

end Arranging

section Reading

variable {related : Number → Number → Prop}

mutual

/-- Equality up to a relation on numbers, the members in order. -/
def Aligned (related : Number → Number → Prop) : Json → Json → Prop
  | null, null => True
  | bool a, bool b => a = b
  | number m, number n => related m n
  | text s, text t => s = t
  | array as, array bs => AlignedItems related as bs
  | object as, object bs => AlignedMembers related as bs
  | _, _ => False

def AlignedItems (related : Number → Number → Prop) : List Json → List Json → Prop
  | [], [] => True
  | a :: as, b :: bs => Aligned related a b ∧ AlignedItems related as bs
  | _, _ => False

def AlignedMembers (related : Number → Number → Prop) :
    List (String × Json) → List (String × Json) → Prop
  | [], [] => True
  | (k, a) :: as, (l, b) :: bs => k = l ∧ Aligned related a b ∧ AlignedMembers related as bs
  | _, _ => False

end

/-- What can follow a value. -/
def Ends (cs : List Char) : Prop := ∀ c ∈ cs.head?, Decimal.inNumeral c = false

def kindOf (c : Char) : ℕ :=
  if c = 'n' then 0
  else if c = 't' ∨ c = 'f' then 1
  else if Decimal.inNumeral c then 2
  else if c = '"' then 3
  else if c = '[' then 4
  else if c = '\x7b' then 5
  else 6

def kind : Json → ℕ
  | null => 0
  | bool _ => 1
  | number _ => 2
  | text _ => 3
  | array _ => 4
  | object _ => 5

/-- Proper numbers are written as numerals. -/
def Numeric (numeral : Number → String) : Prop :=
  ∀ n, n.isProper = true → Decimal.IsNumeral (numeral n)

section Beginnings

variable {f g : Number → String} {s t : List Char}

lemma kindOf_numeral {c : Char} (h : Decimal.inNumeral c = true) : kindOf c = 2 := by
  have hn : c ≠ 'n' := by rintro rfl; revert h; decide
  have ht : c ≠ 't' := by rintro rfl; revert h; decide
  have hf : c ≠ 'f' := by rintro rfl; revert h; decide
  simp [kindOf, hn, ht, hf, h]

lemma spelled_head (hf : Numeric f) {v : Json} (hv : v.isProper = true) :
    ∃ c cs, spelled quote f v = c :: cs ∧ kindOf c = v.kind := by
  cases v with
  | null => exact ⟨'n', "ull".toList, rfl, rfl⟩
  | bool b =>
    cases b
    · exact ⟨'f', "alse".toList, rfl, rfl⟩
    · exact ⟨'t', "rue".toList, rfl, rfl⟩
  | number n =>
    obtain ⟨hne, hall⟩ := hf n hv
    obtain ⟨c, cs, hcs⟩ := List.exists_cons_of_ne_nil hne
    rw [hcs, List.all_cons, Bool.and_eq_true] at hall
    exact ⟨c, cs, hcs, kindOf_numeral hall.1⟩
  | text s =>
    have hquote := toList_quote s []
    rw [List.append_nil] at hquote
    exact ⟨'"', _, hquote, rfl⟩
  | array items => exact ⟨'[', _, rfl, rfl⟩
  | object members => exact ⟨'\x7b', _, rfl, rfl⟩

lemma kind_eq (hf : Numeric f) (hg : Numeric g) {v w : Json} (hv : v.isProper = true)
    (hw : w.isProper = true) (h : spelled quote f v ++ s = spelled quote g w ++ t) : v.kind = w.kind := by
  obtain ⟨c, cs, hcs, hc⟩ := spelled_head hf hv
  obtain ⟨d, ds, hds, hd⟩ := spelled_head hg hw
  rw [hcs, hds, List.cons_append, List.cons_append, List.cons.injEq] at h
  rw [← hc, ← hd, h.1]

lemma numeral_append_inj {u v : String} (hu : Decimal.IsNumeral u) (hv : Decimal.IsNumeral v)
    (hs : Ends s) (ht : Ends t) (h : u.toList ++ s = v.toList ++ t) : u = v ∧ s = t := by
  have hspan (u : String) (s : List Char) (hu : Decimal.IsNumeral u) (hs : Ends s) :
      (u.toList ++ s).takeWhile Decimal.inNumeral = u.toList := by
    rw [List.takeWhile_append_of_pos (List.all_eq_true.mp hu.all)]
    cases s with
    | nil => simp
    | cons c s => simp [hs c rfl]
  have htexts : u.toList = v.toList := by rw [← hspan u s hu hs, h, hspan v t hv ht]
  rw [htexts] at h
  exact ⟨String.toList_inj.mp htexts, List.append_cancel_left h⟩

/-- A list behind its opening bracket: the first item has no comma before it. -/
lemma tail_append_inj {u v : List Char} {close : Char}
    (hu : ∀ us, u.tail ++ close :: s = close :: us → u = [])
    (hv : ∀ vs, v.tail ++ close :: t = close :: vs → v = [])
    (hu' : ∀ c ∈ u.head?, c = ',') (hv' : ∀ c ∈ v.head?, c = ',')
    (h : u.tail ++ close :: s = v.tail ++ close :: t) : u ++ close :: s = v ++ close :: t := by
  cases u with
  | nil =>
    obtain rfl : v = [] := hv s h.symm
    exact h
  | cons c u =>
    cases v with
    | nil => cases hu t h
    | cons d v =>
      rw [hu' c rfl, hv' d rfl]
      exact congrArg (',' :: ·) h

lemma kind_lt (v : Json) : v.kind < 6 := by
  cases v <;> simp [kind]

lemma head_spelledItems (items : List Json) : ∀ c ∈ (spelledItems quote f items).head?, c = ',' := by
  cases items <;> simp [spelledItems]

lemma head_spelledMembers (members : List (String × Json)) :
    ∀ c ∈ (spelledMembers quote f members).head?, c = ',' := by
  cases members <;> simp [spelledMembers]

lemma spelledItems_eq_nil (hf : Numeric f) {items : List Json} (hitems : areProper items = true)
    (h : (spelledItems quote f items).tail ++ ']' :: s = ']' :: t) : spelledItems quote f items = [] := by
  cases items with
  | nil => rfl
  | cons item rest =>
    rw [areProper, Bool.and_eq_true] at hitems
    obtain ⟨c, cs, hcs, hc⟩ := spelled_head hf hitems.1
    rw [spelledItems, List.tail_cons, hcs] at h
    obtain rfl : c = ']' := (List.cons.inj h).1
    exact absurd hc (item.kind_lt.ne' : (6 : ℕ) ≠ _)

lemma spelledMembers_eq_nil {members : List (String × Json)}
    (h : (spelledMembers quote f members).tail ++ '\x7d' :: s = '\x7d' :: t) :
    spelledMembers quote f members = [] := by
  cases members with
  | nil => rfl
  | cons member rest =>
    rw [spelledMembers, List.tail_cons, List.append_assoc, toList_quote] at h
    cases h

lemma ends_nil : Ends [] := by simp [Ends]

lemma ends_items (items : List Json) : Ends (spelledItems quote f items ++ ']' :: s) := by
  cases items <;> simp [Ends, spelledItems, Decimal.inNumeral]

lemma ends_members (members : List (String × Json)) :
    Ends (spelledMembers quote f members ++ '\x7d' :: s) := by
  cases members <;> simp [Ends, spelledMembers, Decimal.inNumeral]

end Beginnings

section Unique

/-- Two ways to write numbers, and what numbers with one text have in common. -/
structure Numerals (f g : Number → String) (related : Number → Number → Prop) : Prop where
  left : Numeric f
  right : Numeric g
  related_of_eq : ∀ m n, m.isProper = true → n.isProper = true → f m = g n → related m n

variable {f g : Number → String}

mutual

lemma spelled_unique (h : Numerals f g related) : (a b : Json) → {u v : List Char} →
    a.isProper = true → b.isProper = true → Ends u → Ends v →
    spelled quote f a ++ u = spelled quote g b ++ v → Aligned related a b ∧ u = v
  | null, b, _, _, ha, hb, _, _, htexts => by
    -- the kind of a value is told by the first character of its text
    have hkind := kind_eq h.left h.right ha hb htexts
    cases b with
    | null => exact ⟨trivial, List.append_cancel_left htexts⟩
    | _ => cases hkind
  | bool a, b, _, _, ha, hb, _, _, htexts => by
    have hkind := kind_eq h.left h.right ha hb htexts
    cases b with
    | bool b =>
      cases a <;> cases b
      · exact ⟨rfl, List.append_cancel_left htexts⟩
      · cases htexts
      · cases htexts
      · exact ⟨rfl, List.append_cancel_left htexts⟩
    | _ => cases hkind
  | number m, b, _, _, ha, hb, hu, hv, htexts => by
    have hkind := kind_eq h.left h.right ha hb htexts
    cases b with
    | number n =>
      obtain ⟨hnumerals, hrest⟩ := numeral_append_inj (h.left m ha) (h.right n hb) hu hv htexts
      exact ⟨h.related_of_eq m n ha hb hnumerals, hrest⟩
    | _ => cases hkind
  | text s, b, _, _, ha, hb, _, _, htexts => by
    have hkind := kind_eq h.left h.right ha hb htexts
    cases b with
    | text t => exact quote_append_inj htexts
    | _ => cases hkind
  | array as, b, _, _, ha, hb, _, _, htexts => by
    have hkind := kind_eq h.left h.right ha hb htexts
    cases b with
    | array bs =>
      simp only [spelled, List.cons_append, List.append_assoc, List.nil_append,
        List.cons.injEq] at htexts
      exact spelledItems_unique h as bs ha hb <| tail_append_inj
        (fun _ => spelledItems_eq_nil h.left ha) (fun _ => spelledItems_eq_nil h.right hb)
        (head_spelledItems as) (head_spelledItems bs) htexts.2
    | _ => cases hkind
  | object as, b, _, _, ha, hb, _, _, htexts => by
    have hkind := kind_eq h.left h.right ha hb htexts
    cases b with
    | object bs =>
      simp only [spelled, List.cons_append, List.append_assoc, List.nil_append,
        List.cons.injEq] at htexts
      exact spelledMembers_unique h as bs (proper_object.mp ha).2 (proper_object.mp hb).2 <|
        tail_append_inj (fun _ => spelledMembers_eq_nil) (fun _ => spelledMembers_eq_nil)
          (head_spelledMembers as) (head_spelledMembers bs) htexts.2
    | _ => cases hkind

lemma spelledItems_unique (h : Numerals f g related) : (as bs : List Json) → {u v : List Char} →
    areProper as = true → areProper bs = true →
    spelledItems quote f as ++ ']' :: u = spelledItems quote g bs ++ ']' :: v →
    AlignedItems related as bs ∧ u = v
  | [], [], _, _, _, _, htexts => ⟨trivial, (List.cons.inj htexts).2⟩
  | a :: as, b :: bs, u, v, ha, hb, htexts => by
    rw [areProper, Bool.and_eq_true] at ha hb
    simp only [spelledItems, List.cons_append, List.append_assoc, List.cons.injEq] at htexts
    obtain ⟨hfirst, hrest⟩ :=
      spelled_unique h a b ha.1 hb.1 (ends_items as) (ends_items bs) htexts.2
    obtain ⟨hitems, huv⟩ := spelledItems_unique h as bs ha.2 hb.2 hrest
    exact ⟨⟨hfirst, hitems⟩, huv⟩

lemma spelledMembers_unique (h : Numerals f g related) : (as bs : List (String × Json)) →
    {u v : List Char} → membersProper as = true → membersProper bs = true →
    spelledMembers quote f as ++ '\x7d' :: u = spelledMembers quote g bs ++ '\x7d' :: v →
    AlignedMembers related as bs ∧ u = v
  | [], [], _, _, _, _, htexts => ⟨trivial, (List.cons.inj htexts).2⟩
  | (k, a) :: as, (l, b) :: bs, u, v, ha, hb, htexts => by
    rw [membersProper, Bool.and_eq_true] at ha hb
    simp only [spelledMembers, List.cons_append, List.append_assoc, List.cons.injEq] at htexts
    obtain ⟨hkey, hvalues⟩ := quote_append_inj htexts.2
    obtain ⟨hfirst, hrest⟩ := spelled_unique h a b ha.1 hb.1 (ends_members as) (ends_members bs)
      (List.cons.inj hvalues).2
    obtain ⟨hmembers, huv⟩ := spelledMembers_unique h as bs ha.2 hb.2 hrest
    exact ⟨⟨hkey, hfirst, hmembers⟩, huv⟩

end

end Unique

end Reading

section Canonical

lemma toList_intercalate (texts : List String) :
    (String.intercalate "," texts).toList = (texts.flatMap fun s => ',' :: s.toList).tail := by
  have hrest (text : String) (texts : List String) :
      List.intercalate [','] ((text :: texts).map String.toList) =
        text.toList ++ texts.flatMap fun s => ',' :: s.toList := by
    induction texts generalizing text with
    | nil => simp [List.intercalate]
    | cons next texts ih =>
      have h := ih next
      simp only [List.intercalate, List.map_cons, List.intersperse_cons_cons, List.flatten_cons] at h ⊢
      rw [h]
      simp
  rw [String.toList_intercalate]
  cases texts with
  | nil => rfl
  | cons text texts => exact hrest text texts

/-- The order of characters. -/
def byCharacters (a b : String) : Bool := !decide (b < a)

mutual

lemma toList_canonical : (v : Json) →
    (canonical v).toList = spelled quote canonicalNumber (arranged byCharacters v)
  | null | text _ | number _ => by simp only [canonical, arranged, spelled]
  | bool b => by cases b <;> rfl
  | array items => by
    have hitems := toList_canonicalItems items
    simp only [canonical, arranged, spelled, String.toList_append, toList_intercalate, hitems]
    rfl
  | object members => by
    have hsorted : sortMembers (canonicalMembers members) =
        (arrangedBy byCharacters members).map fun member => (member.1, member.2.canonical) := by
      rw [canonicalMembers_eq_map]
      exact (@arrangedBy_map byCharacters _ _ canonical members).symm
    have hwritten : (((arrangedBy byCharacters members).map fun member =>
          (member.1, member.2.canonical)).map fun (key, value) => quote key ++ ":" ++ value).flatMap
            (fun s => ',' :: s.toList) =
        spelledMembers quote canonicalNumber
          (arrangedBy byCharacters (arrangedMembers byCharacters members)) := by
      rw [arrangedBy_arrangedMembers, spelledMembers_eq_flatMap, List.flatMap_map, List.flatMap_map,
        List.flatMap_map]
      refine List.flatMap_congr fun member hmember => ?_
      rw [String.toList_append, String.toList_append,
        toList_canonicalMembers members member ((arrangedBy_perm members).mem_iff.mp hmember)]
      simp
    simp only [canonical, arranged, spelled, String.toList_append, toList_intercalate, hsorted, hwritten]
    rfl

lemma toList_canonicalItems : (items : List Json) →
    ((canonicalItems items).flatMap fun s => ',' :: s.toList) =
      spelledItems quote canonicalNumber (arrangedItems byCharacters items)
  | [] => rfl
  | item :: rest => by
    rw [canonicalItems, List.flatMap_cons, toList_canonical item, toList_canonicalItems rest]
    rfl

lemma toList_canonicalMembers : (members : List (String × Json)) → ∀ member ∈ members,
    (canonical member.2).toList = spelled quote canonicalNumber (arranged byCharacters member.2)
  | [] => by simp
  | (_, value) :: rest =>
    List.forall_mem_cons.mpr ⟨toList_canonical value, toList_canonicalMembers rest⟩

end

lemma canonical_eq (v : Json) :
    canonical v = String.ofList (spelled quote canonicalNumber (arranged byCharacters v)) := by
  rw [← toList_canonical, String.ofList_toList]

mutual

lemma Aligned.alike {related : Number → Number → Prop} :
    (v w : Json) → Aligned related v w → Alike related v w
  | null, null, h | bool _, bool _, h | number _, number _, h | text _, text _, h => h
  | array as, array bs, h => AlignedItems.alike as bs h
  | object as, object bs, h => ⟨bs, .refl _, AlignedMembers.alike as bs h⟩

lemma AlignedItems.alike {related : Number → Number → Prop} :
    (as bs : List Json) → AlignedItems related as bs → AlikeItems related as bs
  | [], [], _ => trivial
  | a :: as, b :: bs, ⟨hab, hrest⟩ => ⟨Aligned.alike a b hab, AlignedItems.alike as bs hrest⟩

lemma AlignedMembers.alike {related : Number → Number → Prop} :
    (as bs : List (String × Json)) → AlignedMembers related as bs → AlikeMembers related as bs
  | [], [], _ => trivial
  | (_, a) :: as, (_, b) :: bs, ⟨hkey, hab, hrest⟩ =>
    ⟨hkey, Aligned.alike a b hab, AlignedMembers.alike as bs hrest⟩

end

/-- Equality up to the order of members and up to the form of numbers. -/
abbrev Equivalent : Json → Json → Prop := Alike fun m n => (m.toFloat == n.toFloat) = true

lemma equivalent_of_canonical {v w : Json} (hv : v.isProper = true) (hw : w.isProper = true)
    (h : v.canonical = w.canonical) : Equivalent v w := by
  have hnumerals : Numerals canonicalNumber canonicalNumber
      fun m n => (m.toFloat == n.toFloat) = true :=
    ⟨fun _ => canonicalNumber_isNumeral, fun _ => canonicalNumber_isNumeral,
      fun _ _ => beq_of_canonicalNumber⟩
  have hv' := @reordered_arranged byCharacters v
  have hw' := @reordered_arranged byCharacters w
  have htexts : spelled quote canonicalNumber (arranged byCharacters v) ++ [] =
      spelled quote canonicalNumber (arranged byCharacters w) ++ [] := by
    rw [← toList_canonical, ← toList_canonical, h]
  obtain ⟨haligned, -⟩ := spelled_unique hnumerals _ _ (proper_of_reordered _ _ hv hv')
    (proper_of_reordered _ _ hw hw') ends_nil ends_nil htexts
  have hleft := Alike.trans (fun _ _ _ hlm hmn => hlm ▸ hmn) _ _ _ hv' haligned.alike
  exact Alike.trans (fun _ _ _ hlm hmn => hmn ▸ hlm) _ _ _ hleft
    (Alike.symm (fun _ _ => Eq.symm) _ _ hw')

end Canonical

end Armature.Json
