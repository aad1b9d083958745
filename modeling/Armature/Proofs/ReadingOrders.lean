import Armature.Proofs.Readers

/-! Reading in any order: a value that is read is read as the same thing with the members of its
objects in another order. -/

namespace Armature.Json

variable {α σ : Type}

/-- What is read of a value is read of it in any order of its members. -/
def Orderless (reader : Reader α) : Prop :=
  ∀ ⦃v w : Json⦄, v.isProper = true → Reordered v w →
    ∀ ⦃a : α⦄, reader (.ofJson v) = .ok a → reader (.ofJson w) = .ok a

lemma Restores.in_any_order {reader : Reader α} {write : α → Json} {a : α}
    (h : Restores reader write a) (ho : Orderless reader) {w : Json} (hw : Reordered (write a) w) :
    reader (.ofJson w) = .ok a := ho h.proper hw h.read

section Basics

/-- Only arrays and objects come in several orders. -/
lemma reordered_cases {v w : Json} (h : Reordered v w) :
    w = v ∨ (∃ as bs, v = array as ∧ w = array bs ∧ AlikeItems Eq as bs) ∨
      ∃ as bs, v = object as ∧ w = object bs ∧ Reordered (object as) (object bs) := by
  cases v <;> cases w <;> simp_all [Reordered, Alike]

lemma ofJson_eq_null {v w : Json} (h : Reordered v w) :
    Outline.ofJson w = .null ↔ Outline.ofJson v = .null := by
  rcases reordered_cases h with rfl | ⟨as, bs, rfl, rfl, -⟩ | ⟨as, bs, rfl, rfl, -⟩ <;>
    simp [Outline.ofJson]

lemma orderless_of_scalar {reader : Reader α} (harray : ∀ items a, reader (.array items true) ≠ .ok a)
    (hobject : ∀ members a, reader (.object members true) ≠ .ok a) : Orderless reader := by
  intro v w _ h a hv
  rcases reordered_cases h with rfl | ⟨as, bs, rfl, -⟩ | ⟨as, bs, rfl, -⟩
  · exact hv
  · exact (harray _ _ hv).elim
  · exact (hobject _ _ hv).elim

@[simp]
lemma text_orderless : Orderless Reader.text :=
  orderless_of_scalar (fun _ _ h => nomatch h) fun _ _ h => nomatch h

@[simp]
lemma bool_orderless : Orderless Reader.bool :=
  orderless_of_scalar (fun _ _ h => nomatch h) fun _ _ h => nomatch h

@[simp]
lemma float_orderless : Orderless Reader.float :=
  orderless_of_scalar (fun _ _ h => nomatch h) fun _ _ h => nomatch h

@[simp]
lemma count_orderless (limit : ℕ) : Orderless (Reader.count limit) :=
  orderless_of_scalar (fun _ _ h => nomatch h) fun _ _ h => nomatch h

@[simp]
lemma optional_orderless {reader : Reader α} (h : Orderless reader) :
    Orderless (Reader.optional reader) := by
  intro v w hv hvw a ha
  rcases optional_ok.mp ha with ⟨hnull, rfl⟩ | ⟨hne, b, hb, rfl⟩
  · exact optional_ok.mpr (.inl ⟨(ofJson_eq_null hvw).mpr hnull, rfl⟩)
  · exact optional_ok.mpr (.inr ⟨(ofJson_eq_null hvw).not.mpr hne, b, h hv hvw hb, rfl⟩)

lemma refuse_ne_ok {o : Outline} {a : α} : Reader.refuse o ≠ .ok a := by
  cases o <;> exact fun h => nomatch h

@[simp]
lemma map_orderless {β : Type} {f : α → β} {reader : Reader α} (h : Orderless reader) :
    Orderless fun o => f <$> reader o := by
  intro v w hv hvw b hb
  obtain ⟨a, ha, rfl⟩ := map_ok_iff.mp hb
  exact map_ok_iff.mpr ⟨a, h hv hvw ha, rfl⟩

lemma choice_ok {ofName? : String → Option α} {o : Outline} {a : α}
    (h : Reader.choice ofName? o = .ok a) :
    (∃ s, o = .text s) ∨ ∃ key, o = .object [(some key, .null)] true := by
  match o, h with
  | .text s, _ => exact .inl ⟨s, rfl⟩
  | .object ((some key, value) :: rest) closed, h =>
    cases hname : ofName? key with
    | none => simp [Reader.choice, hname] at h
    | some choice =>
      cases value with
      | null =>
        simp only [Reader.choice, hname] at h
        split_ifs at h with hrest hclosed
        obtain rfl : rest = [] := by simpa using hrest
        exact .inr ⟨key, by rw [hclosed]⟩
      | _ =>
        simp only [Reader.choice, hname] at h
        exact (refuse_ne_ok h).elim

lemma reordered_singleton {key : String} {value w : Json} (h : Reordered (object [(key, value)]) w) :
    ∃ value', w = object [(key, value')] ∧ Reordered value value' := by
  cases w <;> try exact h.elim
  obtain ⟨cs, hperm, hcs⟩ := h
  match cs, hcs with
  | [(_, value')], ⟨rfl, hvalue, _⟩ => exact ⟨value', by rw [List.perm_singleton.mp hperm], hvalue⟩

@[simp]
lemma choice_orderless (ofName? : String → Option α) : Orderless (Reader.choice ofName?) := by
  intro v w _ hvw a ha
  suffices hw : w = v by rwa [hw]
  rcases choice_ok ha with ⟨s, hs⟩ | ⟨key, hkey⟩
  · rcases reordered_cases hvw with rfl | ⟨as, bs, rfl, -⟩ | ⟨as, bs, rfl, -⟩
    · rfl
    · simp [Outline.ofJson] at hs
    · simp [Outline.ofJson] at hs
  · obtain rfl : v = object [(key, null)] := by
      match v, hkey with
      | object [(_, null)], hkey => simpa [Outline.ofJson, Outline.ofMembers] using hkey
    obtain ⟨value, rfl, hvalue⟩ := reordered_singleton hvw
    cases value <;> simp_all [Reordered, Alike]

lemma items_reordered {reader : Reader α} (h : Orderless reader) {as bs : List Json} {values : List α}
    (hproper : areProper as = true) (hitems : AlikeItems Eq as bs)
    (ha : Reader.items reader true (Outline.ofItems as) = .ok values) :
    Reader.items reader true (Outline.ofItems bs) = .ok values := by
  induction as generalizing bs values with
  | nil =>
    cases bs with
    | nil => exact ha
    | cons => cases hitems
  | cons a as ih =>
    cases bs with
    | nil => cases hitems
    | cons b bs =>
      rw [areProper, Bool.and_eq_true] at hproper
      simp only [Outline.ofItems, Reader.items, Attempts.bind_ok] at ha ⊢
      obtain ⟨value, hvalue, rest, hrest, hvalues⟩ := ha
      exact ⟨value, h hproper.1 hitems.1 hvalue, rest, ih hproper.2 hitems.2 hrest, hvalues⟩

@[simp]
lemma list_orderless {reader : Reader α} (h : Orderless reader) : Orderless (Reader.list reader) := by
  intro v w hv hvw a ha
  rcases reordered_cases hvw with rfl | ⟨as, bs, rfl, rfl, hitems⟩ | ⟨as, bs, rfl, -⟩
  · exact ha
  · exact items_reordered h hv hitems ha
  · cases ha

end Basics

section Records

variable {fields : List (FieldReader σ)} {unknown : Unknown} {closed : Bool}

/-- Two fields that can be read in either order. -/
def Commuting (f g : FieldReader σ) : Prop :=
  ∀ o o' s t, (f.read o s >>= g.read o') = .ok t ↔ (g.read o' s >>= f.read o) = .ok t

/-- A record whose fields can be read in any order, and each of them in any order. -/
structure Settable (fields : List (FieldReader σ)) : Prop where
  commuting : fields.Pairwise Commuting
  orderless : ∀ f ∈ fields, ∀ s, Orderless fun o => f.read o s

@[simp]
lemma commuting_of_set {β : Type} {key key' : String} {required required' : Bool} {reader : Reader α}
    {reader' : Reader β} {set : σ → α → σ} {set' : σ → β → σ}
    (h : ∀ s a b, set' (set s a) b = set (set' s b) a) :
    Commuting ⟨key, required, fun o s => set s <$> reader o⟩
      ⟨key', required', fun o s => set' s <$> reader' o⟩ := by
  intro o o' s t
  dsimp only
  cases reader o with
  | error e => cases reader' o' <;> simp [Attempts.bind_ok]
  | ok a =>
    cases reader' o' with
    | error e => simp [Attempts.bind_ok]
    | ok b => simp [Attempts.bind_ok, h]

lemma positions_reordered (hfields : ∀ f ∈ fields, ∀ s, Orderless fun o => f.read o s)
    {as bs : List Json} {s t : σ} (hproper : areProper as = true) (h : AlikeItems Eq as bs)
    (ha : Reader.positions true fields s (Outline.ofItems as) = .ok t) :
    Reader.positions true fields s (Outline.ofItems bs) = .ok t := by
  induction fields generalizing as bs s with
  | nil =>
    match as, bs, h with
    | [], [], _ => exact ha
    | _ :: _, _ :: _, _ => cases ha
  | cons field fields ih =>
    obtain ⟨hfield, hrest⟩ := List.forall_mem_cons.mp hfields
    match as, bs, h with
    | [], [], _ => exact ha
    | a :: as, b :: bs, ⟨hitem, hitems⟩ =>
      rw [areProper, Bool.and_eq_true] at hproper
      simp only [Outline.ofItems, Reader.positions, Attempts.bind_ok] at ha ⊢
      obtain ⟨next, hnext, ht⟩ := ha
      exact ⟨next, hfield s hproper.1 hitem hnext, ih hrest hproper.2 hitems ht⟩

lemma takeIn_reordered (hfields : ∀ f ∈ fields, ∀ s, Orderless fun o => f.read o s) {v w : Json}
    (hproper : v.isProper = true) (h : Reordered v w) {seen : List String} {s : σ} {key : String}
    {taken : List String × σ} (hv : takeIn fields unknown seen s key (.ofJson v) = .ok taken) :
    takeIn fields unknown seen s key (.ofJson w) = .ok taken := by
  rcases takeIn_ok.mp hv with ⟨hfind, hignore, -, htaken⟩ | ⟨field, hfind, hseen, t, ht, htaken⟩
  · exact takeIn_ok.mpr (.inl ⟨hfind, hignore, Outline.isComplete_ofJson w, htaken⟩)
  · have hw := hfields field (List.mem_of_find?_eq_some hfind) s hproper h ht
    exact takeIn_ok.mpr (.inr ⟨field, hfind, hseen, t, hw, htaken⟩)

lemma members_reordered (hfields : ∀ f ∈ fields, ∀ s, Orderless fun o => f.read o s)
    {as bs : List (String × Json)} {seen : List String} {s t : σ}
    (hproper : membersProper as = true) (h : AlikeMembers Eq as bs)
    (ha : Reader.members fields unknown true seen s (Outline.ofMembers as) = .ok t) :
    Reader.members fields unknown true seen s (Outline.ofMembers bs) = .ok t := by
  induction as generalizing bs seen s with
  | nil =>
    cases bs with
    | nil => exact ha
    | cons => cases h
  | cons a as ih =>
    match bs, h with
    | b :: bs, ⟨hkey, hvalue, hmembers⟩ =>
      rw [membersProper, Bool.and_eq_true] at hproper
      rw [Outline.ofMembers, members_cons, Attempts.bind_ok] at ha ⊢
      obtain ⟨taken, htaken, ht⟩ := ha
      exact ⟨taken, hkey ▸ takeIn_reordered hfields hproper.1 hvalue htaken,
        ih hproper.2 hmembers ht⟩

lemma members_seen {seen seen' : List String} {s : σ} {os : List (Option String × Outline)}
    (h : ∀ key, key ∈ seen ↔ key ∈ seen') :
    Reader.members fields unknown closed seen s os =
      Reader.members fields unknown closed seen' s os := by
  induction os generalizing seen seen' s with
  | nil => simp [Reader.members, h]
  | cons o os ih =>
    obtain ⟨_ | key, value⟩ := o
    · simp only [Reader.members]
    · have hcons (k : String) : k ∈ key :: seen ↔ k ∈ key :: seen' := by simp [h]
      cases hfind : fields.find? (·.key == key) with
      | none => cases unknown <;> simp only [Reader.members, hfind, ih h]
      | some field => simp only [Reader.members, hfind, List.contains_eq_mem, h key, ih hcons]

lemma Settable.commute (hs : Settable fields) {f g : FieldReader σ} (hf : f ∈ fields)
    (hg : g ∈ fields) (hne : f ≠ g) : Commuting f g := by
  have hsymm : Std.Symm (Commuting (σ := σ)) := ⟨fun f g h o o' s t => (h o' o s t).symm⟩
  exact hs.commuting.forall hf hg hne

lemma takeIn_swap (hs : Settable fields) {seen : List String} {s : σ} {k l : String} {a b : Outline}
    {first second : List String × σ} (hfirst : takeIn fields unknown seen s k a = .ok first)
    (hsecond : takeIn fields unknown first.1 first.2 l b = .ok second) :
    ∃ first' second', takeIn fields unknown seen s l b = .ok first' ∧
      takeIn fields unknown first'.1 first'.2 k a = .ok second' ∧ second'.2 = second.2 ∧
      ∀ key, key ∈ second'.1 ↔ key ∈ second.1 := by
  rcases takeIn_ok.mp hfirst with ⟨hk, hu, ha, rfl⟩ | ⟨f, hf, hkseen, t, ht, rfl⟩ <;>
    rcases takeIn_ok.mp hsecond with ⟨hl, hu', hb, rfl⟩ | ⟨g, hg, hlseen, t', ht', rfl⟩
  · exact ⟨_, _, takeIn_ok.mpr (.inl ⟨hl, hu', hb, rfl⟩), hfirst, rfl, fun _ => .rfl⟩
  · exact ⟨_, _, takeIn_ok.mpr (.inr ⟨g, hg, hlseen, t', ht', rfl⟩),
      takeIn_ok.mpr (.inl ⟨hk, hu, ha, rfl⟩), rfl, fun _ => .rfl⟩
  · exact ⟨_, _, takeIn_ok.mpr (.inl ⟨hl, hu', hb, rfl⟩), hfirst, rfl, fun _ => .rfl⟩
  · dsimp only at hlseen ht'
    rw [List.mem_cons, not_or] at hlseen
    have hne : f ≠ g := fun hfg => hlseen.1 (by
      have hf' := List.find?_some hf
      have hg' := List.find?_some hg
      rw [beq_iff_eq] at hf' hg'
      rw [← hf', ← hg', hfg])
    have hcommute := hs.commute (List.mem_of_find?_eq_some hf) (List.mem_of_find?_eq_some hg) hne
    obtain ⟨u, hu, hu'⟩ :=
      Attempts.bind_ok.mp ((hcommute a b s t').mp (Attempts.bind_ok.mpr ⟨t, ht, ht'⟩))
    refine ⟨_, _, takeIn_ok.mpr (.inr ⟨g, hg, hlseen.2, u, hu, rfl⟩),
      takeIn_ok.mpr (.inr ⟨f, hf, ?_, t', hu', rfl⟩), rfl, ?_⟩
    · simpa [Ne.symm hlseen.1] using hkseen
    · simp [or_left_comm]

lemma members_perm (hs : Settable fields) {os os' : List (Option String × Outline)}
    (h : os.Perm os') {seen : List String} {s t : σ}
    (ht : Reader.members fields unknown closed seen s os = .ok t) :
    Reader.members fields unknown closed seen s os' = .ok t := by
  induction h generalizing seen s with
  | nil => exact ht
  | cons o h ih =>
    obtain ⟨_ | key, value⟩ := o
    · simp only [Reader.members] at ht
      cases ht
    · rw [members_cons, Attempts.bind_ok] at ht ⊢
      obtain ⟨taken, htaken, ht⟩ := ht
      exact ⟨taken, htaken, ih ht⟩
  | swap o o' os =>
    obtain ⟨_ | k, a⟩ := o'
    · simp only [Reader.members] at ht
      cases ht
    obtain ⟨_ | l, b⟩ := o
    · rw [members_cons, Attempts.bind_ok] at ht
      obtain ⟨taken, htaken, ht⟩ := ht
      simp only [Reader.members] at ht
      cases ht
    · simp only [members_cons, Attempts.bind_ok] at ht ⊢
      obtain ⟨first, hfirst, second, hsecond, ht⟩ := ht
      obtain ⟨first', second', hfirst', hsecond', hrecord, hseen⟩ := takeIn_swap hs hfirst hsecond
      exact ⟨first', hfirst', second', hsecond', by rw [members_seen hseen, hrecord, ht]⟩
  | trans _ _ ih ih' => exact ih' (ih ht)

theorem record_orderless (hs : Settable fields) (unknown : Unknown) (blank : σ) :
    Orderless (Reader.record fields unknown blank) := by
  intro v w hv hvw t ht
  rcases reordered_cases hvw with rfl | ⟨as, bs, rfl, rfl, hitems⟩ | ⟨as, bs, rfl, rfl, cs, hperm, hcs⟩
  · exact ht
  · exact positions_reordered hs.orderless hv hitems ht
  · obtain ⟨-, hmembers⟩ := proper_object.mp hv
    have hread := members_reordered hs.orderless hmembers hcs ht
    refine members_perm hs ?_ hread
    rw [ofMembers_eq_map, ofMembers_eq_map]
    exact (hperm.map _).symm

end Records

end Armature.Json
