import Mathlib.Data.List.Forall2

/-!
# Reading lists item by item

A list whose items are read one after the other until one of them cannot be read.  Success is a
pointwise relation between the items and their readings, and failure names the first item that
cannot be read.  Items of a class at the start of a list are taken as one run (`span_append`).
-/

namespace PrintSpec

variable {ε α β : Type}

lemma map_eq_self_iff {f : α → α} {as : List α} : as.map f = as ↔ ∀ a ∈ as, f a = a := by
  conv_lhs =>
    rhs
    rw [← List.map_id as]
  exact List.map_inj_left

lemma map_eq_ok_iff {f : α → β} {x : Except ε α} {b : β} :
    x.map f = .ok b ↔ ∃ a, x = .ok a ∧ f a = b := by
  cases x with
  | error e => simp [Except.map]
  | ok a => simp [Except.map]

lemma bind_eq_ok_iff {f : α → Except ε β} {x : Except ε α} {b : β} :
    x >>= f = .ok b ↔ ∃ a, x = .ok a ∧ f a = .ok b := by
  cases x with
  | error e => simp [bind, Except.bind]
  | ok a => simp [bind, Except.bind]

lemma mapM_cons_ok {f : α → Except ε β} {a : α} {b : β} (h : f a = .ok b) (as : List α) :
    (a :: as).mapM f = (as.mapM f).map (b :: ·) := by
  rw [List.mapM_cons, h]
  cases as.mapM f <;> rfl

lemma mapM_cons_error {f : α → Except ε β} {a : α} {e : ε} (h : f a = .error e) (as : List α) :
    (a :: as).mapM f = .error e := by
  rw [List.mapM_cons, h]
  rfl

/-- A list is read as another exactly when every item is read as the one at its place. -/
lemma mapM_eq_ok_iff {f : α → Except ε β} {as : List α} {bs : List β} :
    as.mapM f = .ok bs ↔ List.Forall₂ (fun a b => f a = .ok b) as bs := by
  induction as generalizing bs with
  | nil =>
    rw [List.mapM_nil, List.forall₂_nil_left_iff]
    constructor
    · rintro ⟨⟩
      rfl
    · rintro rfl
      rfl
  | cons a as ih =>
    rw [List.forall₂_cons_left_iff]
    cases ha : f a with
    | error e => simp [mapM_cons_error ha]
    | ok b =>
      rw [mapM_cons_ok ha, map_eq_ok_iff]
      constructor
      · rintro ⟨bs', hbs', rfl⟩
        exact ⟨b, bs', rfl, ih.mp hbs', rfl⟩
      · rintro ⟨b', bs', hb', hbs', rfl⟩
        cases hb'
        exact ⟨bs', ih.mpr hbs', rfl⟩

lemma mapM_cons_eq_ok_iff {f : α → Except ε β} {a : α} {as : List α} {bs : List β} :
    (a :: as).mapM f = .ok bs ↔ ∃ b bs', f a = .ok b ∧ as.mapM f = .ok bs' ∧ bs = b :: bs' := by
  simp only [mapM_eq_ok_iff, List.forall₂_cons_left_iff]

/-- A list can be read exactly when each of its items can. -/
lemma exists_mapM_eq_ok_iff {f : α → Except ε β} {as : List α} :
    (∃ bs, as.mapM f = .ok bs) ↔ ∀ a ∈ as, ∃ b, f a = .ok b := by
  induction as with
  | nil =>
    rw [List.mapM_nil]
    exact ⟨fun _ a ha => absurd ha (by simp), fun _ => ⟨[], rfl⟩⟩
  | cons a as ih =>
    cases ha : f a with
    | error e => simp [mapM_cons_error ha, ha]
    | ok b => simp [mapM_cons_ok ha, map_eq_ok_iff, ha, ← ih]

/-- Where the readable items are known and so is what they are read as, a list is read exactly when
all its items are readable. -/
lemma mapM_eq_ok_iff_map {f : α → Except ε β} {P : α → Prop} {g : α → β} {as : List α}
    (h : ∀ a ∈ as, ∀ b, f a = .ok b ↔ P a ∧ b = g a) {bs : List β} :
    as.mapM f = .ok bs ↔ (∀ a ∈ as, P a) ∧ bs = as.map g := by
  rw [mapM_eq_ok_iff]
  induction as generalizing bs with
  | nil => simp
  | cons a as ih =>
    rw [List.forall₂_cons_left_iff, List.forall_mem_cons, List.map_cons]
    have htail := @ih fun a' ha' => h a' (List.mem_cons_of_mem a ha')
    constructor
    · rintro ⟨b, bs', hb, hbs', rfl⟩
      obtain ⟨ha, rfl⟩ := (h a List.mem_cons_self b).mp hb
      obtain ⟨has, rfl⟩ := htail.mp hbs'
      exact ⟨⟨ha, has⟩, rfl⟩
    · rintro ⟨⟨ha, has⟩, rfl⟩
      exact ⟨g a, as.map g, (h a List.mem_cons_self _).mpr ⟨ha, rfl⟩, htail.mpr ⟨has, rfl⟩, rfl⟩

/-- Reading a list fails exactly when some item cannot be read and all items before it can. -/
lemma mapM_eq_error_iff {f : α → Except ε β} {as : List α} {e : ε} :
    as.mapM f = .error e ↔ ∃ before a after, as = before ++ a :: after ∧
      (∀ x ∈ before, ∃ y, f x = .ok y) ∧ f a = .error e := by
  induction as with
  | nil =>
    rw [List.mapM_nil]
    constructor
    · rintro ⟨⟩
    · rintro ⟨before, a, after, h, -⟩
      simp at h
  | cons a as ih =>
    cases ha : f a with
    | error e' =>
      rw [mapM_cons_error ha]
      constructor
      · rintro ⟨⟩
        exact ⟨[], a, as, rfl, by simp, ha⟩
      · rintro ⟨_ | ⟨x, before⟩, a', after, h, hbefore, ha'⟩
        · obtain ⟨rfl, rfl⟩ := by simpa using h
          rw [ha] at ha'
          cases ha'
          rfl
        · obtain ⟨rfl, rfl⟩ := by simpa using h
          obtain ⟨y, hy⟩ := hbefore a List.mem_cons_self
          rw [ha] at hy
          cases hy
    | ok b =>
      have hmap : (a :: as).mapM f = .error e ↔ as.mapM f = .error e := by
        rw [mapM_cons_ok ha]
        cases as.mapM f <;> simp [Except.map]
      rw [hmap, ih]
      constructor
      · rintro ⟨before, a', after, rfl, hbefore, ha'⟩
        refine ⟨a :: before, a', after, rfl, ?_, ha'⟩
        intro x hx
        rcases List.mem_cons.mp hx with rfl | hx
        · exact ⟨b, ha⟩
        · exact hbefore x hx
      · rintro ⟨_ | ⟨x, before⟩, a', after, h, hbefore, ha'⟩
        · obtain ⟨rfl, rfl⟩ := by simpa using h
          rw [ha] at ha'
          cases ha'
        · obtain ⟨rfl, rfl⟩ := by simpa using h
          exact ⟨before, a', after, rfl, fun x hx => hbefore x (List.mem_cons_of_mem _ hx), ha'⟩

/-- Where the items are read in other words, with other words for their failures, so is the list. -/
lemma mapM_eq_map_mapError {γ δ : Type} {f : α → Except ε β} {g : α → Except δ γ} {j : β → γ}
    {k : ε → δ} {as : List α} (h : ∀ a ∈ as, g a = ((f a).map j).mapError k) :
    as.mapM g = ((as.mapM f).map (List.map j)).mapError k := by
  induction as with
  | nil => rfl
  | cons a as ih =>
    rw [List.forall_mem_cons] at h
    rw [List.mapM_cons, List.mapM_cons, h.1, ih h.2]
    cases f a with
    | error e => rfl
    | ok b => cases as.mapM f <;> rfl

/-- Every reading in a list that was read comes from one of its items. -/
lemma exists_mem_of_mapM_eq_ok {f : α → Except ε β} {as : List α} {bs : List β}
    (h : as.mapM f = .ok bs) {b : β} (hb : b ∈ bs) : ∃ a ∈ as, f a = .ok b := by
  rw [mapM_eq_ok_iff] at h
  induction h with
  | nil => simp at hb
  | @cons a b' as bs hab htail ih =>
    rcases List.mem_cons.mp hb with rfl | hb
    · exact ⟨a, List.mem_cons_self, hab⟩
    · obtain ⟨a', ha', h'⟩ := ih hb
      exact ⟨a', List.mem_cons_of_mem _ ha', h'⟩

/-- A run of items of a class ends where items begin that do not go on with the class. -/
lemma span_append {p : α → Bool} {run rest : List α} (hrun : ∀ a ∈ run, p a)
    (hrest : ∀ a ∈ rest.head?, p a = false) :
    (run ++ rest).takeWhile p = run ∧ (run ++ rest).dropWhile p = rest := by
  have hstop : rest.takeWhile p = [] ∧ rest.dropWhile p = rest := by
    cases rest with
    | nil => simp
    | cons a rest => simp [hrest a rfl]
  rw [List.takeWhile_append_of_pos hrun, List.dropWhile_append_of_pos hrun, hstop.1, hstop.2]
  simp

end PrintSpec
