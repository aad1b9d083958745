import Armature.Json.Reader
import Armature.Proofs.Attempts
import Armature.Proofs.MemberOrders
import Armature.Proofs.Rosters

/-! Readers: what is written of a value is read back, and what is read does not depend on the order
of the members. -/

namespace Armature.Json

variable {α σ : Type}

lemma raw_ofJson (v : Json) : Reader.raw (.ofJson v) = .ok v.sorted := by
  rw [Reader.raw, Outline.value?_ofJson]
  rfl

section Restoring

/-- What is written of a value is read back as the value, also where a null would stand for none. -/
structure Restores (reader : Reader α) (write : α → Json) (a : α) : Prop where
  proper : (write a).isProper = true
  optional : Reader.optional reader (.ofJson (write a)) = .ok (some a)

lemma map_ok_iff {ε β : Type} {x : Except ε α} {f : α → β} {b : β} :
    (f <$> x) = .ok b ↔ ∃ a, x = .ok a ∧ f a = b := Attempts.map_ok

lemma optional_of_ne_null {reader : Reader α} {o : Outline} (h : o ≠ .null) :
    Reader.optional reader o = some <$> reader o := by
  cases o with
  | null => exact (h rfl).elim
  | _ => rfl

lemma optional_ok {reader : Reader α} {o : Outline} {value : Option α} :
    Reader.optional reader o = .ok value ↔
      o = .null ∧ value = none ∨ o ≠ .null ∧ ∃ a, reader o = .ok a ∧ value = some a := by
  by_cases h : o = .null
  · subst h
    simp [Reader.optional, eq_comm]
  · rw [optional_of_ne_null h, map_ok_iff]
    simp [h, eq_comm]

lemma Restores.read {reader : Reader α} {write : α → Json} {a : α} (h : Restores reader write a) :
    reader (.ofJson (write a)) = .ok a := by
  rcases optional_ok.mp h.optional with ⟨-, h⟩ | ⟨-, b, hb, h⟩
  · cases h
  · exact Option.some.inj h ▸ hb

lemma restores_of_ne_null {reader : Reader α} {write : α → Json} {a : α}
    (hproper : (write a).isProper = true) (hne : Outline.ofJson (write a) ≠ .null)
    (h : reader (.ofJson (write a)) = .ok a) : Restores reader write a :=
  ⟨hproper, optional_ok.mpr (.inr ⟨hne, a, h, rfl⟩)⟩

lemma Restores.map {β : Type} {reader : Reader α} {write : α → Json} {write' : β → Json} {a : α}
    (h : Restores reader write a) {f : α → β} (hwrite : write' (f a) = write a) :
    Restores (fun o => f <$> reader o) write' (f a) := by
  rcases optional_ok.mp h.optional with ⟨-, h⟩ | ⟨hne, -⟩
  · cases h
  · exact restores_of_ne_null (hwrite ▸ h.proper) (hwrite ▸ hne)
      (map_ok_iff.mpr ⟨a, hwrite ▸ h.read, rfl⟩)

lemma text_restores (s : String) : Restores Reader.text .text s := ⟨rfl, rfl⟩

lemma bool_restores (b : Bool) : Restores Reader.bool .bool b := ⟨rfl, rfl⟩

lemma float_restores {x : Float} (h : x.isFinite = true) : Restores Reader.float ofFloat x := by
  have hx : ofFloat x = .number (.float x) := if_pos h
  exact ⟨by rw [hx]; exact h, by rw [hx]; rfl⟩

lemma count_restores {limit n : ℕ} (hlimit : limit < UInt64.size) (h : n ≤ limit) :
    Restores (Reader.count limit) ofNat n := by
  have hn : (0 : ℤ) ≤ n ∧ (n : ℤ) ≤ limit := by omega
  refine restores_of_ne_null ?_ (by simp [ofNat, Outline.ofJson]) ?_
  · rw [ofNat, isProper, Number.isProper, decide_eq_true_eq]
    omega
  · simp [ofNat, Outline.ofJson, Reader.count, hn]

lemma choice_restores {ofName? : String → Option α} {name : α → String} {a : α}
    (h : ofName? (name a) = some a) :
    Restores (Reader.choice ofName?) (fun a => .text (name a)) a := by
  refine restores_of_ne_null rfl (by simp [Outline.ofJson]) ?_
  simp [Outline.ofJson, Reader.choice, h]

lemma items_restored {reader : Reader α} {write : α → Json} {as : List α}
    (h : ∀ a ∈ as, Restores reader write a) :
    Reader.items reader true (Outline.ofItems (as.map write)) = .ok as := by
  induction as with
  | nil => rfl
  | cons a as ih =>
    obtain ⟨ha, has⟩ := List.forall_mem_cons.mp h
    rw [List.map_cons, Outline.ofItems, Reader.items, ha.read, ih has]
    rfl

lemma list_restores {reader : Reader α} {write : α → Json} {as : List α}
    (h : ∀ a ∈ as, Restores reader write a) :
    Restores (Reader.list reader) (fun as => .array (as.map write)) as := by
  refine restores_of_ne_null (areProper_iff.mpr ?_) (by simp [Outline.ofJson]) ?_
  · simpa using fun a ha => (h a ha).proper
  · rw [Outline.ofJson, Reader.list, items_restored h]

/-- The members that bring a record from one state to another, field by field. -/
inductive Writes : List (FieldReader σ) → List (Option (String × Json)) → σ → σ → Prop
  | done (s : σ) : Writes [] [] s s
  | given (field) {fields value members s next t} (hproper : value.isProper = true)
      (h : field.read (.ofJson value) s = .ok next) (rest : Writes fields members next t) :
      Writes (field :: fields) (some (field.key, value) :: members) s t
  | absent {field fields members s t} (h : field.required = false)
      (rest : Writes fields members s t) : Writes (field :: fields) (none :: members) s t

namespace Writes

variable {key : String} {reader : Reader α} {write : α → Json} {fields : List (FieldReader σ)}
  {others : List (Option (String × Json))} {s t : σ}

lemma mandatory {set : σ → α → σ} {a : α} (h : Restores reader write a)
    (rest : Writes fields others (set s a) t) :
    Writes (.mandatory key reader set :: fields) (member key (write a) :: others) s t :=
  given (.mandatory key reader set) h.proper (map_ok_iff.mpr ⟨a, h.read, rfl⟩) rest

lemma defaulted {set : σ → α → σ} {a : α} (h : Restores reader write a)
    (rest : Writes fields others (set s a) t) :
    Writes (.defaulted key reader set :: fields) (member key (write a) :: others) s t :=
  given (.defaulted key reader set) h.proper (map_ok_iff.mpr ⟨a, h.read, rfl⟩) rest

/-- A field that is left out without a value; the record has none there to begin with. -/
lemma unset {set : σ → Option α → σ} {value : Option α} (hnone : set s none = s)
    (h : ∀ a ∈ value, Restores reader write a) (rest : Writes fields others (set s value) t) :
    Writes (.unset key reader set :: fields) (member? key write value :: others) s t := by
  cases value with
  | none => exact absent rfl (hnone ▸ rest)
  | some a =>
    obtain ⟨hproper, hread⟩ := h a rfl
    exact given (.unset key reader set) hproper (map_ok_iff.mpr ⟨some a, hread, rfl⟩) rest

lemma keys_sublist (h : Writes fields others s t) :
    ((others.filterMap id).map Prod.fst).Sublist (fields.map FieldReader.key) := by
  induction h with
  | done s => exact .slnil
  | given field _ _ _ ih => exact ih.cons_cons field.key
  | absent _ _ ih => exact ih.cons _

lemma proper (h : Writes fields others s t) : membersProper (others.filterMap id) = true := by
  induction h with
  | done s => rfl
  | given _ hproper _ _ ih => exact Bool.and_eq_true_iff.mpr ⟨hproper, ih⟩
  | absent _ _ ih => exact ih

end Writes

lemma ofMembers_eq_map (members : List (String × Json)) :
    Outline.ofMembers members = members.map fun member => (some member.1, .ofJson member.2) := by
  induction members with
  | nil => rfl
  | cons member rest ih => rw [Outline.ofMembers, ih, List.map_cons]

/-- What one member does to the keys seen so far and to the record. -/
def takeIn (fields : List (FieldReader σ)) (unknown : Unknown) (seen : List String) (s : σ)
    (key : String) (value : Outline) : Except ReadError (List String × σ) :=
  match fields.find? (·.key == key), unknown with
  | none, .refuse => .error .mismatch
  | none, .ignore => if value.isComplete then .ok (seen, s) else .error .malformed
  | some field, _ =>
    if seen.contains key then .error .mismatch
    else do
      let s ← field.read value s
      return (key :: seen, s)

lemma bind_ok_left {ε β : Type} {a : α} {f : α → Except ε β} : (Except.ok a >>= f) = f a := rfl

lemma members_cons {fields : List (FieldReader σ)} {unknown : Unknown} {closed : Bool}
    {seen : List String} {s : σ} {key : String} {value : Outline}
    {rest : List (Option String × Outline)} :
    Reader.members fields unknown closed seen s ((some key, value) :: rest) =
      takeIn fields unknown seen s key value >>= fun taken =>
        Reader.members fields unknown closed taken.1 taken.2 rest := by
  cases hfield : fields.find? (·.key == key) with
  | none =>
    cases unknown with
    | refuse => simp only [Reader.members, takeIn, hfield]; rfl
    | ignore => simp only [Reader.members, takeIn, hfield]; split_ifs <;> rfl
  | some field =>
    simp only [Reader.members, takeIn, hfield]
    split_ifs
    · rfl
    · cases field.read value s <;> rfl

lemma takeIn_ok {fields : List (FieldReader σ)} {unknown : Unknown} {seen : List String} {s : σ}
    {key : String} {value : Outline} {taken : List String × σ} :
    takeIn fields unknown seen s key value = .ok taken ↔
      (fields.find? (·.key == key) = none ∧ unknown = .ignore ∧ value.isComplete = true ∧
        taken = (seen, s)) ∨
      ∃ field, fields.find? (·.key == key) = some field ∧ key ∉ seen ∧
        ∃ t, field.read value s = .ok t ∧ taken = (key :: seen, t) := by
  cases hfind : fields.find? (·.key == key) with
  | none =>
    cases unknown with
    | refuse => simp [takeIn, hfind]
    | ignore =>
      simp only [takeIn, hfind]
      split_ifs with hcomplete <;> simp [hcomplete, Eq.comm (a := taken)]
  | some field =>
    simp only [takeIn, hfind, List.contains_eq_mem, decide_eq_true_eq]
    split_ifs with hseen
    · simp [hseen]
    · rw [Attempts.bind_ok]
      simp [hseen, pure, Except.pure, Eq.comm (a := taken)]

lemma takeIn_known {fields : List (FieldReader σ)} {unknown : Unknown} {seen : List String} {s : σ}
    {value : Outline} {field : FieldReader σ} (hkeys : (fields.map FieldReader.key).Nodup)
    (hfield : field ∈ fields) (hseen : field.key ∉ seen) :
    takeIn fields unknown seen s field.key value =
      (field.read value s).map fun t => (field.key :: seen, t) := by
  have hfind : fields.find? (·.key == field.key) = some field := find?_key hkeys hfield
  have hnew : seen.contains field.key = false := by simpa using hseen
  simp only [takeIn, hfind, hnew]
  cases field.read value s <;> rfl

/-- The fields before those that are still to come have been passed; all that are required have been
seen. -/
lemma members_of_writes (fields : List (FieldReader σ)) {rest : List (FieldReader σ)}
    {others : List (Option (String × Json))} {unknown : Unknown} {seen : List String} {s t : σ}
    (hkeys : ((fields ++ rest).map FieldReader.key).Nodup)
    (hrequired : ∀ field ∈ fields, field.required = true → field.key ∈ seen)
    (hseen : ∀ key ∈ seen, key ∈ fields.map FieldReader.key) (h : Writes rest others s t) :
    Reader.members (fields ++ rest) unknown true seen s (Outline.ofMembers (others.filterMap id)) =
      .ok t := by
  induction h generalizing fields seen with
  | done s =>
    simpa [Outline.ofMembers, Reader.members, or_iff_not_imp_left] using hrequired
  | @given field rest value members s next t _ hread _ ih =>
    have hnew : field.key ∉ seen := fun hmem => by
      rw [List.map_append, List.map_cons, List.nodup_append] at hkeys
      exact hkeys.2.2 _ (hseen _ hmem) _ List.mem_cons_self rfl
    rw [List.filterMap_cons, id, Outline.ofMembers, members_cons,
      takeIn_known hkeys (by simp) hnew, hread, Except.map, bind_ok_left]
    rw [← List.singleton_append, ← List.append_assoc] at hkeys ⊢
    refine ih _ hkeys (fun other hother hreq => ?_) fun key hkey => ?_
    · rcases List.mem_append.mp hother with hother | hother
      · exact List.mem_cons_of_mem _ (hrequired other hother hreq)
      · exact List.mem_singleton.mp hother ▸ List.mem_cons_self
    · rw [List.map_append, List.mem_append]
      rcases List.mem_cons.mp hkey with rfl | hkey
      · exact .inr List.mem_cons_self
      · exact .inl (hseen key hkey)
  | @absent field rest members s t hfield _ ih =>
    rw [List.filterMap_cons, id]
    rw [← List.singleton_append, ← List.append_assoc] at hkeys ⊢
    refine ih _ hkeys (fun other hother hreq => ?_) fun key hkey => ?_
    · rcases List.mem_append.mp hother with hother | hother
      · exact hrequired other hother hreq
      · rw [List.mem_singleton.mp hother, hfield] at hreq
        cases hreq
    · rw [List.map_append]
      exact List.mem_append_left _ (hseen key hkey)

lemma record_restores {fields : List (FieldReader σ)} {others : List (Option (String × Json))}
    {unknown : Unknown} {write : σ → Json} {blank t : σ}
    (hkeys : (fields.map FieldReader.key).Nodup) (hwrite : write t = record others)
    (h : Writes fields others blank t) : Restores (Reader.record fields unknown blank) write t := by
  have hproper : (record others).isProper = true :=
    proper_object.mpr ⟨hkeys.sublist h.keys_sublist, h.proper⟩
  rw [← hwrite] at hproper
  refine restores_of_ne_null hproper (by simp [hwrite, record, Outline.ofJson]) ?_
  rw [hwrite]
  exact members_of_writes [] hkeys (by simp) (by simp) h

end Restoring

section Yielding

/-- Whatever is read of a value has a property. -/
def Yields (reader : Reader α) (P : α → Prop) : Prop :=
  ∀ ⦃v : Json⦄, v.isProper = true → ∀ ⦃a : α⦄, reader (.ofJson v) = .ok a → P a

/-- A field that a property of the record survives. -/
def FieldReader.Keeps (field : FieldReader σ) (Q : σ → Prop) : Prop :=
  ∀ s, Q s → Yields (fun o => field.read o s) Q

variable {reader : Reader α} {P : α → Prop} {fields : List (FieldReader σ)} {unknown : Unknown}
  {Q : σ → Prop}

lemma yields_true : Yields reader fun _ => True := fun _ _ _ _ => trivial

lemma count_yields (limit : ℕ) : Yields (Reader.count limit) (· ≤ limit) := by
  intro v _ n hn
  match v, hn with
  | .number (.integer m), hn =>
    simp only [Outline.ofJson, Reader.count] at hn
    split_ifs at hn with hm
    cases hn
    omega

lemma optional_yields (h : Yields reader P) :
    Yields (Reader.optional reader) fun value => ∀ a ∈ value, P a := by
  intro v hv value hvalue
  rcases optional_ok.mp hvalue with ⟨-, rfl⟩ | ⟨-, a, ha, rfl⟩
  · exact fun _ h => nomatch h
  · rintro _ ⟨⟩
    exact h hv ha

lemma items_yield (h : Yields reader P) {items : List Json} (hproper : areProper items = true)
    {values : List α} (hread : Reader.items reader true (Outline.ofItems items) = .ok values) :
    ∀ a ∈ values, P a := by
  induction items generalizing values with
  | nil =>
    cases hread
    exact fun _ h => nomatch h
  | cons item rest ih =>
    rw [areProper, Bool.and_eq_true] at hproper
    simp only [Outline.ofItems, Reader.items, Attempts.bind_ok] at hread
    obtain ⟨a, ha, as, has, hvalues⟩ := hread
    cases hvalues
    exact List.forall_mem_cons.mpr ⟨h hproper.1 ha, ih hproper.2 has⟩

lemma list_yields (h : Yields reader P) : Yields (Reader.list reader) fun as => ∀ a ∈ as, P a := by
  intro v hv as has
  match v, has with
  | .array items, has => exact items_yield h hv has

section Fields

variable {key : String} {set : σ → α → σ}

lemma defaulted_keeps (h : Yields reader P) (hset : ∀ s a, Q s → P a → Q (set s a)) :
    (FieldReader.defaulted key reader set).Keeps Q := by
  intro s hs v hv t ht
  obtain ⟨a, ha, rfl⟩ := map_ok_iff.mp ht
  exact hset s a hs (h hv ha)

lemma mandatory_keeps (h : Yields reader P) (hset : ∀ s a, Q s → P a → Q (set s a)) :
    (FieldReader.mandatory key reader set).Keeps Q := @defaulted_keeps _ _ _ _ _ key set h hset

lemma unset_keeps {set : σ → Option α → σ} (h : Yields reader P)
    (hset : ∀ s value, Q s → (∀ a ∈ value, P a) → Q (set s value)) :
    (FieldReader.unset key reader set).Keeps Q := defaulted_keeps (optional_yields h) hset

end Fields

lemma positions_yield (h : ∀ f ∈ fields, f.Keeps Q) {items : List Json}
    (hproper : areProper items = true) {s t : σ} (hs : Q s)
    (ht : Reader.positions true fields s (Outline.ofItems items) = .ok t) : Q t := by
  induction fields generalizing items s with
  | nil =>
    cases items with
    | nil => cases ht; exact hs
    | cons => cases ht
  | cons field fields ih =>
    obtain ⟨hfield, hrest⟩ := List.forall_mem_cons.mp h
    cases items with
    | nil =>
      simp only [Outline.ofItems, Reader.positions] at ht
      split_ifs at ht
      exact ih hrest (rfl : areProper [] = true) hs ht
    | cons item items =>
      rw [areProper, Bool.and_eq_true] at hproper
      simp only [Outline.ofItems, Reader.positions, Attempts.bind_ok] at ht
      obtain ⟨next, hnext, ht⟩ := ht
      exact ih hrest hproper.2 (hfield s hs hproper.1 hnext) ht

lemma takeIn_yields (h : ∀ f ∈ fields, f.Keeps Q) {seen : List String}
    {s : σ} {key : String} {value : Json} {taken : List String × σ} (hproper : value.isProper = true)
    (hs : Q s) (ht : takeIn fields unknown seen s key (.ofJson value) = .ok taken) : Q taken.2 := by
  rcases takeIn_ok.mp ht with ⟨-, -, -, rfl⟩ | ⟨field, hfind, -, t, hread, rfl⟩
  · exact hs
  · exact h field (List.mem_of_find?_eq_some hfind) s hs hproper hread

lemma members_yield (h : ∀ f ∈ fields, f.Keeps Q)
    {members : List (String × Json)} (hproper : membersProper members = true) {seen : List String}
    {s t : σ} (hs : Q s)
    (ht : Reader.members fields unknown true seen s (Outline.ofMembers members) = .ok t) : Q t := by
  induction members generalizing seen s with
  | nil =>
    simp only [Outline.ofMembers, Reader.members] at ht
    split_ifs at ht
    cases ht
    exact hs
  | cons member members ih =>
    rw [membersProper, Bool.and_eq_true] at hproper
    rw [Outline.ofMembers, members_cons, Attempts.bind_ok] at ht
    obtain ⟨taken, htaken, ht⟩ := ht
    exact ih hproper.2 (takeIn_yields h hproper.1 hs htaken) ht

lemma record_yields {blank : σ} (h : ∀ f ∈ fields, f.Keeps Q)
    (hblank : Q blank) : Yields (Reader.record fields unknown blank) Q := by
  intro v hv t ht
  match v, ht with
  | .array items, ht => exact positions_yield h hv hblank ht
  | .object members, ht => exact members_yield h (proper_object.mp hv).2 hblank ht

end Yielding

end Armature.Json
