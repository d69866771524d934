import Mathlib.Data.List.Forall2
import Mathlib.Data.List.Nodup
import ValidatedStore.Fields

/-!
# Laws of named fields

Looking a name up after a field was written or dropped, the names that are left and their order, and
what fields with distinct names keep under both. Fields written one after another into nothing have
distinct names, and give back a list whose names were distinct before.
-/

namespace ValidatedStore

/-- What the second of two related lists has is related to something in the first. -/
theorem exists_of_mem_right {α β : Type} {R : α → β → Prop} {as : List α} {bs : List β} {b : β}
    (h : List.Forall₂ R as bs) (hm : b ∈ bs) : ∃ a ∈ as, R a b := by
  induction h with
  | nil => cases hm
  | @cons first paired _ _ hR _ ih =>
    rcases List.mem_cons.mp hm with rfl | hm
    · exact ⟨first, List.mem_cons_self, hR⟩
    · obtain ⟨a, ha, hRa⟩ := ih hm
      exact ⟨a, List.mem_cons_of_mem _ ha, hRa⟩

/-- What the first of two related lists has is related to something in the second. -/
theorem exists_of_mem_left {α β : Type} {R : α → β → Prop} {as : List α} {bs : List β} {a : α}
    (h : List.Forall₂ R as bs) (hm : a ∈ as) : ∃ b ∈ bs, R a b :=
  exists_of_mem_right (R := flip R) h.flip hm

/-- A list can be paired with another one if each of its elements can. -/
theorem exists_forall₂ {α β : Type} {R : α → β → Prop} {as : List α} (h : ∀ a ∈ as, ∃ b, R a b) :
    ∃ bs, List.Forall₂ R as bs := by
  induction as with
  | nil => exact ⟨[], .nil⟩
  | cons a rest ih =>
    obtain ⟨b, hb⟩ := h a List.mem_cons_self
    obtain ⟨bs, hbs⟩ := ih fun other hm => h other (List.mem_cons_of_mem _ hm)
    exact ⟨b :: bs, .cons hb hbs⟩

namespace Fields

variable {α : Type} {key name : String} {value : α} {fields : Fields α}

@[simp] theorem names_nil : names ([] : Fields α) = [] := rfl

@[simp] theorem names_cons (entry : String × α) :
    names (entry :: fields) = entry.1 :: names fields := rfl

/-- Looking up in fields after one was written. -/
theorem find?_insert (key name : String) (value : α) (fields : Fields α) :
    find? name (insert key value fields) =
      if key = name then some value else find? name fields := by
  induction fields with
  | nil => rfl
  | cons entry rest ih =>
    obtain ⟨first, old⟩ := entry
    by_cases hf : first = key
    · subst hf
      by_cases hn : first = name <;> simp [insert, find?, hn]
    · by_cases hn : first = name
      · subst hn
        have hk : ¬key = first := fun h => hf h.symm
        simp [insert, find?, hf, hk]
      · simp [insert, find?, hf, hn, ih]

@[simp] theorem find?_insert_self : find? key (insert key value fields) = some value := by
  rw [find?_insert, if_pos rfl]

theorem find?_insert_of_ne (h : key ≠ name) :
    find? name (insert key value fields) = find? name fields := by
  rw [find?_insert, if_neg h]

/-- A name has an entry exactly when it is among the names. -/
theorem mem_names_iff : name ∈ names fields ↔ (find? name fields).isSome = true := by
  induction fields with
  | nil => simp [find?]
  | cons entry rest ih =>
    obtain ⟨first, old⟩ := entry
    by_cases hf : first = name
    · simp [find?, hf]
    · have hn : ¬name = first := fun h => hf h.symm
      simpa [find?, hf, hn] using ih

theorem find?_eq_none_iff : find? name fields = none ↔ name ∉ names fields := by
  rw [mem_names_iff, Option.not_isSome_iff_eq_none]

theorem mem_names_of_mem {entry : String × α} (h : entry ∈ fields) : entry.1 ∈ names fields :=
  List.mem_map_of_mem h

/-- What is found stands among the fields under its name. -/
theorem mem_of_find? (h : find? name fields = some value) : (name, value) ∈ fields := by
  induction fields with
  | nil => simp [find?] at h
  | cons entry rest ih =>
    obtain ⟨first, old⟩ := entry
    by_cases hf : first = name
    · simp only [find?, if_pos hf, Option.some.injEq] at h
      rw [hf, h]
      exact List.mem_cons_self
    · simp only [find?, if_neg hf] at h
      exact List.mem_cons_of_mem _ (ih h)

/-- Among distinct names every entry is the one that is found. -/
theorem find?_of_mem (hd : Distinct fields) (hm : (name, value) ∈ fields) :
    find? name fields = some value := by
  induction fields with
  | nil => cases hm
  | cons entry rest ih =>
    obtain ⟨first, old⟩ := entry
    obtain ⟨hfresh, hrest⟩ := List.nodup_cons.mp hd
    rcases List.mem_cons.mp hm with heq | hm
    · obtain ⟨rfl, rfl⟩ := Prod.mk.inj heq
      simp [find?]
    · have hf : first ≠ name := by
        intro he
        have hmem : name ∈ names rest := mem_names_of_mem hm
        exact hfresh (he ▸ hmem)
      simpa [find?, hf] using ih hrest hm

/-- Writing what is there already changes nothing. -/
theorem insert_of_find? (h : find? key fields = some value) : insert key value fields = fields := by
  induction fields with
  | nil => cases h
  | cons entry rest ih =>
    obtain ⟨first, old⟩ := entry
    by_cases hf : first = key
    · simp only [find?, if_pos hf, Option.some.injEq] at h
      rw [insert, if_pos hf, h]
    · simp only [find?, if_neg hf] at h
      rw [insert, if_neg hf, ih h]

/-- Writing a name that is there keeps the names, and a new name comes last. -/
theorem names_insert :
    names (insert key value fields) =
      if key ∈ names fields then names fields else names fields ++ [key] := by
  induction fields with
  | nil => simp [insert]
  | cons entry rest ih =>
    obtain ⟨first, old⟩ := entry
    by_cases hf : first = key
    · simp [insert, hf]
    · have hk : ¬key = first := fun h => hf h.symm
      by_cases hm : key ∈ names rest <;> simp [insert, hf, hk, ih, hm]

theorem mem_names_insert :
    name ∈ names (insert key value fields) ↔ name = key ∨ name ∈ names fields := by
  rw [names_insert]
  split
  next hk => exact ⟨.inr, fun h => h.elim (fun he => he ▸ hk) id⟩
  next => simp [or_comm]

/-- An entry after a write is the written one or was there before. -/
theorem mem_insert {entry : String × α} (h : entry ∈ insert key value fields) :
    entry = (key, value) ∨ entry ∈ fields := by
  induction fields with
  | nil => exact .inl (by simpa [insert] using h)
  | cons head rest ih =>
    obtain ⟨first, old⟩ := head
    by_cases hf : first = key
    · subst hf
      simp only [insert, if_true, List.mem_cons] at h
      exact h.imp id (List.mem_cons_of_mem _)
    · simp only [insert, if_neg hf, List.mem_cons] at h
      rcases h with he | hm
      · exact .inr (he ▸ List.mem_cons_self)
      · exact (ih hm).imp id (List.mem_cons_of_mem _)

/-- Dropping a name drops its first occurrence among the names. -/
theorem names_erase : names (erase key fields) = (names fields).erase key := by
  induction fields with
  | nil => rfl
  | cons entry rest ih =>
    obtain ⟨first, old⟩ := entry
    by_cases hf : first = key
    · simp [erase, hf]
    · simp [erase, hf, ih]

theorem find?_erase_of_ne (h : key ≠ name) : find? name (erase key fields) = find? name fields := by
  induction fields with
  | nil => rfl
  | cons entry rest ih =>
    obtain ⟨first, old⟩ := entry
    by_cases hf : first = key
    · have hn : ¬first = name := fun he => h (hf.symm.trans he)
      simp [erase, find?, hf, hf ▸ hn]
    · rw [erase, if_neg hf]
      by_cases hn : first = name <;> simp [find?, hn, ih]

theorem mem_erase {entry : String × α} (h : entry ∈ erase key fields) : entry ∈ fields := by
  induction fields with
  | nil => exact h
  | cons head rest ih =>
    obtain ⟨first, old⟩ := head
    by_cases hf : first = key
    · simp only [erase, if_pos hf] at h
      exact List.mem_cons_of_mem _ h
    · simp only [erase, if_neg hf, List.mem_cons] at h
      exact List.mem_cons.mpr (h.imp id ih)

/-- Writing a name twice is writing it once, with what was written last. -/
theorem insert_insert (old new : α) :
    insert key new (insert key old fields) = insert key new fields := by
  induction fields with
  | nil => simp [insert]
  | cons entry rest ih =>
    obtain ⟨first, value⟩ := entry
    by_cases hf : first = key <;> simp [insert, hf, ih]

/-- Writes of two names can be exchanged if one of the names is there, so that at most one comes
last. -/
theorem insert_comm {other : String} (hne : key ≠ other) (hk : key ∈ names fields) (old new : α) :
    insert other new (insert key old fields) = insert key old (insert other new fields) := by
  induction fields with
  | nil => cases hk
  | cons entry rest ih =>
    obtain ⟨first, value⟩ := entry
    by_cases hf : first = key
    · subst hf
      simp [insert, hne]
    · have hrest : key ∈ names rest := (List.mem_cons.mp hk).resolve_left fun he => hf he.symm
      by_cases ho : first = other
      · subst ho
        simp [insert, hf]
      · simp [insert, hf, ho, ih hrest]

/-- Dropping a name that is not there changes nothing. -/
theorem erase_of_not_mem (h : key ∉ names fields) : erase key fields = fields := by
  induction fields with
  | nil => rfl
  | cons entry rest ih =>
    obtain ⟨first, value⟩ := entry
    simp only [names_cons, List.mem_cons, not_or] at h
    have hf : ¬first = key := fun he => h.1 he.symm
    rw [erase, if_neg hf, ih h.2]

/-- Dropping a name that was new gives back what there was. -/
theorem erase_insert_of_not_mem (h : key ∉ names fields) :
    erase key (insert key value fields) = fields := by
  induction fields with
  | nil => simp [insert, erase]
  | cons entry rest ih =>
    obtain ⟨first, old⟩ := entry
    simp only [names_cons, List.mem_cons, not_or] at h
    have hf : ¬first = key := fun he => h.1 he.symm
    rw [insert, if_neg hf, erase, if_neg hf, ih h.2]

/-- A name that was written and dropped leaves the names that were there. -/
theorem mem_names_of_erase_insert (h : name ∈ names (erase key (insert key value fields))) :
    name ∈ names fields := by
  rw [names_erase, names_insert] at h
  split at h
  next => exact List.mem_of_mem_erase h
  next hk => rwa [List.erase_append_right _ hk, List.erase_cons_head, List.append_nil] at h

/-- After a drop among distinct names the name is gone. -/
theorem find?_erase_self (hd : Distinct fields) : find? key (erase key fields) = none := by
  rw [find?_eq_none_iff, names_erase]
  exact hd.not_mem_erase

theorem Distinct.insert (hd : Distinct fields) : Distinct (fields.insert key value) := by
  unfold Distinct
  rw [names_insert]
  split
  next => exact hd
  next hk => exact hd.append (List.nodup_singleton key) (List.disjoint_singleton.mpr hk)

theorem Distinct.erase (hd : Distinct fields) : Distinct (fields.erase key) := by
  unfold Distinct
  rw [names_erase]
  exact List.Nodup.erase key hd

/-- Writing entries one after another keeps names distinct. -/
theorem Distinct.insertAll (hd : Distinct fields) (entries : List (String × α)) :
    Distinct (fields.insertAll entries) := by
  induction entries generalizing fields with
  | nil => exact hd
  | cons entry rest ih => exact ih hd.insert

theorem distinct_insertAll_nil (entries : List (String × α)) :
    Distinct (insertAll ([] : Fields α) entries) := by
  have hnil : Distinct ([] : Fields α) := List.nodup_nil
  exact hnil.insertAll entries

theorem mem_insertAll {entry : String × α} {entries : List (String × α)}
    (h : entry ∈ insertAll fields entries) : entry ∈ fields ∨ entry ∈ entries := by
  induction entries generalizing fields with
  | nil => exact .inl h
  | cons head rest ih =>
    rcases ih h with hm | hm
    · rcases mem_insert hm with he | hm
      · exact .inr (he ▸ List.mem_cons_self)
      · exact .inl hm
    · exact .inr (List.mem_cons_of_mem _ hm)

/-- A new name is written behind all others. -/
theorem insert_of_not_mem (h : key ∉ names fields) :
    insert key value fields = fields ++ [(key, value)] := by
  induction fields with
  | nil => rfl
  | cons entry rest ih =>
    obtain ⟨first, old⟩ := entry
    simp only [names_cons, List.mem_cons, not_or] at h
    have hf : ¬first = key := fun he => h.1 he.symm
    simp only [insert, if_neg hf, List.cons_append]
    rw [ih h.2]

/-- Entries with names that are new and distinct are appended as they stand. -/
theorem insertAll_eq_append {entries : List (String × α)} (h : Distinct (fields ++ entries)) :
    insertAll fields entries = fields ++ entries := by
  induction entries generalizing fields with
  | nil => simp [insertAll]
  | cons entry rest ih =>
    obtain ⟨first, value⟩ := entry
    have hnew : first ∉ names fields := by
      simp only [Distinct, names, List.map_append, List.map_cons] at h
      intro hm
      exact (List.disjoint_of_nodup_append h) hm List.mem_cons_self
    have hsplit : fields ++ (first, value) :: rest = fields ++ [(first, value)] ++ rest := by simp
    have hstep : insertAll fields ((first, value) :: rest) =
        insertAll (insert first value fields) rest := rfl
    rw [hstep, insert_of_not_mem hnew, ih (hsplit ▸ h), hsplit]

/-- Reading distinct entries into nothing gives them back. -/
theorem insertAll_nil_of_distinct {entries : List (String × α)} (h : Distinct entries) :
    insertAll [] entries = entries := by
  rw [insertAll_eq_append (by simpa using h), List.nil_append]

/-- A write changes what stands at one position. -/
theorem exists_position_insert (key : String) (value : α) (fields : Fields α) :
    ∃ position : Nat, ((insert key value fields).map Prod.snd)[position]? = some value ∧
      ∀ other ≠ position,
        ((insert key value fields).map Prod.snd)[other]? = (fields.map Prod.snd)[other]? := by
  induction fields with
  | nil =>
    refine ⟨0, rfl, fun other hne => ?_⟩
    obtain ⟨other, rfl⟩ := Nat.exists_eq_succ_of_ne_zero hne
    rfl
  | cons entry rest ih =>
    obtain ⟨first, old⟩ := entry
    by_cases hf : first = key
    · rw [insert, if_pos hf]
      refine ⟨0, rfl, fun other hne => ?_⟩
      obtain ⟨other, rfl⟩ := Nat.exists_eq_succ_of_ne_zero hne
      rfl
    · obtain ⟨position, hhere, hbeside⟩ := ih
      rw [insert, if_neg hf]
      refine ⟨position + 1, hhere, fun other hne => ?_⟩
      cases other with
      | zero => rfl
      | succ other => exact hbeside other fun he => hne (congrArg Nat.succ he)

/-- Write the entry of a name, or drop it. -/
def assign (name : String) : Option α → Fields α → Fields α
  | some value, fields => insert name value fields
  | none, fields => erase name fields

theorem find?_assign_self (hd : Distinct fields) (value? : Option α) :
    find? key (assign key value? fields) = value? := by
  cases value? with
  | some value => exact find?_insert_self
  | none => exact find?_erase_self hd

theorem find?_assign_of_ne (h : key ≠ name) (value? : Option α) :
    find? name (assign key value? fields) = find? name fields := by
  cases value? with
  | some value => exact find?_insert_of_ne h
  | none => exact find?_erase_of_ne h

theorem Distinct.assign (hd : Distinct fields) (value? : Option α) :
    Distinct (fields.assign key value?) := by
  cases value? with
  | some value => exact hd.insert
  | none => exact hd.erase

/-- How names are changed where only some of them are touched: the others are all kept, what stays
keeps its order, and new ones come last. -/
structure KeepsOrder (touched : String → Prop) (old new : List String) : Prop where
  /-- No other name comes or goes. -/
  untouched : ∀ name, ¬touched name → (name ∈ new ↔ name ∈ old)
  /-- New names stand behind those that stay. -/
  order : ∃ kept added, new = kept ++ added ∧ kept.Sublist old ∧
    ∀ name ∈ added, name ∉ old ∧ touched name

namespace KeepsOrder

variable {touched others : String → Prop} {old middle new : List String}

theorem refl (touched : String → Prop) (names : List String) : KeepsOrder touched names names where
  untouched _ _ := Iff.rfl
  order := ⟨names, [], by simp, List.Sublist.refl names, by simp⟩

/-- Changes that touch different names, one after the other. -/
theorem trans (h₁ : KeepsOrder touched old middle) (h₂ : KeepsOrder others middle new)
    (hapart : ∀ name, touched name → ¬others name) :
    KeepsOrder (fun name => touched name ∨ others name) old new where
  untouched name hn := by
    obtain ⟨ht, ho⟩ := not_or.mp hn
    rw [h₂.untouched name ho, h₁.untouched name ht]
  order := by
    obtain ⟨kept, added, rfl, hkept, hadded⟩ := h₁.order
    obtain ⟨kept', added', rfl, hkept', hadded'⟩ := h₂.order
    obtain ⟨first, second, rfl, hfirst, hsecond⟩ := List.sublist_append_iff.mp hkept'
    refine ⟨first, second ++ added', by simp, hfirst.trans hkept, fun name hm => ?_⟩
    rcases List.mem_append.mp hm with hm | hm
    · exact ⟨(hadded name (hsecond.subset hm)).1, .inl (hadded name (hsecond.subset hm)).2⟩
    · obtain ⟨hnew, ho⟩ := hadded' name hm
      have ht : ¬touched name := fun ht => hapart name ht ho
      exact ⟨fun hold => hnew ((h₁.untouched name ht).mpr hold), .inr ho⟩

end KeepsOrder

/-- Writing or dropping an entry touches its name. -/
theorem keepsOrder_assign (key : String) (value? : Option α) (fields : Fields α) :
    KeepsOrder (· = key) (names fields) (names (assign key value? fields)) where
  untouched name hn := by
    rw [mem_names_iff, mem_names_iff, find?_assign_of_ne (fun h => hn h.symm)]
  order := by
    cases value? with
    | some value =>
      rw [assign, names_insert]
      split
      next => exact (KeepsOrder.refl _ _).order
      next hk => exact ⟨names fields, [key], rfl, List.Sublist.refl _, by simp [hk]⟩
    | none =>
      rw [assign, names_erase]
      exact ⟨_, [], (List.append_nil _).symm, List.erase_sublist, by simp⟩

/-- Two lists of fields have the same names in the same order, with related entries. -/
def Paired {β : Type} (R : α → β → Prop) : Fields α → Fields β → Prop :=
  List.Forall₂ fun field other => field.1 = other.1 ∧ R field.2 other.2

namespace Paired

variable {β : Type} {R : α → β → Prop} {others : Fields β}

theorem names_eq (h : Paired R fields others) : names fields = names others := by
  induction h with
  | nil => rfl
  | cons hentry _ ih => rw [names_cons, names_cons, hentry.1, ih]

/-- Under every name both have related entries, or neither has one. -/
theorem rel_find? (h : Paired R fields others) (name : String) :
    Option.Rel R (find? name fields) (find? name others) := by
  induction h with
  | nil => exact .none
  | @cons field other _ _ hentry _ ih =>
    obtain ⟨first, value⟩ := field
    obtain ⟨second, paired⟩ := other
    obtain ⟨rfl, hR⟩ : first = second ∧ R value paired := hentry
    by_cases hn : first = name
    · simpa only [find?, if_pos hn] using .some hR
    · simpa only [find?, if_neg hn] using ih

theorem exists_find?_left {paired : β} (h : Paired R fields others)
    (hf : find? name others = some paired) :
    ∃ value, find? name fields = some value ∧ R value paired := by
  have hrel := h.rel_find? name
  rw [hf] at hrel
  cases hvalue : find? name fields with
  | none => rw [hvalue] at hrel; cases hrel
  | some value =>
    rw [hvalue] at hrel
    cases hrel with
    | some hR => exact ⟨value, rfl, hR⟩

theorem exists_find?_right (h : Paired R fields others) (hf : find? name fields = some value) :
    ∃ paired, find? name others = some paired ∧ R value paired := by
  have hrel := h.rel_find? name
  rw [hf] at hrel
  cases hpaired : find? name others with
  | none => rw [hpaired] at hrel; cases hrel
  | some paired =>
    rw [hpaired] at hrel
    cases hrel with
    | some hR => exact ⟨paired, rfl, hR⟩

/-- What is paired with fields of distinct names has distinct names too, so that it is not changed
by being written entry by entry. -/
theorem insertAll_nil (h : Paired R fields others) (hd : Distinct fields) :
    insertAll [] others = others := by
  refine insertAll_nil_of_distinct ?_
  rw [Distinct, ← h.names_eq]
  exact hd

end Paired

end Fields

end ValidatedStore
