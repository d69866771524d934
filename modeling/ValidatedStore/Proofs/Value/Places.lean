import ValidatedStore.Proofs.Value.Locating
import ValidatedStore.Proofs.Value.Restoring

/-!
# What a restoration touches

A restoration at a place inside an object writes or drops one entry there. The place then has the
replacement, or nothing; what stands at a path that neither leads to the place nor goes on from it
is the same as before; and every object that does not stand at the place or below it keeps the order
of its keys. Restorations at several places of which none lies on the way to another do not disturb
one another, so that all of this holds for a whole list of them.
-/

namespace ValidatedStore

namespace Value

variable {value container inner new restored : Value} {replacement found : Option Value}
  {entries : List (String × Value)} {key other : String} {path rest : KeyPath}

/-- One value is another one after a restoration inside an object. -/
inductive Restores (replacement : Option Value) : Value → KeyPath → Value → Prop
  /-- The object has the place as an entry. -/
  | here {entries : List (String × Value)} {key : String} (hd : Fields.Distinct entries) :
      Restores replacement (.object entries) [key]
        (.object (Fields.assign key replacement entries))
  /-- The object stands below the first key. -/
  | inside {container inner restored : Value} {key next : String} {rest : KeyPath}
      (hc : container.child key = .ok (some inner))
      (hr : Restores replacement inner (next :: rest) restored) :
      Restores replacement container (key :: next :: rest) (container.putChild key restored)

/-- A path is an entry, or the place of a missing one, of an object in a value. -/
def StandsInObject (value : Value) (path : KeyPath) : Prop :=
  ∃ parent key entries, path = parent ++ [key] ∧
    value.find parent = .ok (some (.object entries)) ∧ Fields.Distinct entries

theorem StandsInObject.cons (hc : container.child key = .ok (some inner))
    (h : inner.StandsInObject path) : container.StandsInObject (key :: path) := by
  obtain ⟨parent, last, entries, rfl, hf, hd⟩ := h
  exact ⟨key :: parent, last, entries, rfl, by rw [find_cons hc, hf]; rfl, hd⟩

/-- A place inside an object can be restored. -/
theorem exists_restore (h : value.StandsInObject path) (replacement : Option Value) :
    ∃ restored, value.restore path replacement = .ok restored ∧
      Restores replacement value path restored := by
  obtain ⟨parent, key, entries, rfl, hf, hd⟩ := h
  induction parent generalizing value with
  | nil =>
    obtain rfl : value = .object entries := by simpa [find] using hf
    exact ⟨_, restore_object_singleton replacement, .here hd⟩
  | cons first rest ih =>
    obtain ⟨inner, hc, hinner⟩ := exists_child_of_find hf
    obtain ⟨restored, hr, hrestores⟩ := ih hinner
    have hne : rest ++ [key] ≠ [] := by simp
    obtain ⟨next, tail, htail⟩ := List.exists_cons_of_ne_nil hne
    rw [htail] at hr hrestores
    rw [List.cons_append, htail]
    exact ⟨_, by rw [restore_cons hc, hr], .inside hc hrestores⟩

/-- Under another key than the restored one an object leads to what it led to. -/
theorem child_assign_of_ne (hne : key ≠ other) :
    (Value.object (Fields.assign key replacement entries)).child other =
      (Value.object entries).child other := by
  rw [child, child, Fields.find?_assign_of_ne hne]

namespace Restores

/-- The object of a restored entry is at a place of the value, and is overwritten there. -/
theorem exists_place (h : Restores replacement value path restored) :
    ∃ parent key entries place, path = parent ++ [key] ∧ Place.Lawful value parent place ∧
      place.content = .object entries ∧ Fields.Distinct entries ∧
      restored = place.put (.object (Fields.assign key replacement entries)) := by
  induction h with
  | @here entries key hd => exact ⟨[], key, entries, ⟨_, id⟩, rfl, .root _, rfl, hd, rfl⟩
  | @inside container inner restored first next rest hc _ ih =>
    obtain ⟨parent, key, entries, place, hpath, hl, hcontent, hd, rfl⟩ := ih
    exact ⟨first :: parent, key, entries, place.inside container first, by rw [hpath]; rfl,
      hl.inside hc, hcontent, hd, rfl⟩

/-- The place has the replacement. -/
theorem find_self (h : Restores replacement value path restored) :
    restored.find path = .ok replacement := by
  obtain ⟨parent, key, entries, place, rfl, hl, _, hd, rfl⟩ := h.exists_place
  rw [find_append_singleton (hl.find_put _), Fields.find?_assign_self hd]

/-- Places apart from it are left alone. -/
theorem find_of_apart (h : Restores replacement value path restored) {other : KeyPath}
    (ha : path.Apart other) : restored.find other = value.find other := by
  obtain ⟨parent, key, entries, place, rfl, hl, hcontent, _, rfl⟩ := h.exists_place
  exact hl.find_of_apart (fun _ hne => hcontent ▸ child_assign_of_ne hne) ha

/-- Objects that are not at the place or below it keep the order of their keys, and no key but that
of the place is touched. -/
theorem find_object (h : Restores replacement value path restored) {other : KeyPath}
    (ha : path.isAncestorOf other = false) (hf : value.find other = .ok (some (.object entries))) :
    ∃ kept, restored.find other = .ok (some (.object kept)) ∧
      (Fields.Distinct entries → Fields.Distinct kept) ∧
      Fields.KeepsOrder (fun key => other ++ [key] = path) (Fields.names entries)
        (Fields.names kept) := by
  obtain ⟨parent, key, before, place, rfl, hl, hcontent, _, rfl⟩ := h.exists_place
  obtain rfl | hother := eq_or_ne other parent
  · obtain rfl := Value.object.inj (hcontent.symm.trans (hl.content_eq hf))
    refine ⟨_, hl.find_put _, fun hd => hd.assign replacement, ?_⟩
    have htouched : (fun name => other ++ [name] = other ++ [key]) = (· = key) := by simp
    rw [htouched]
    exact Fields.keepsOrder_assign key replacement before
  · have hchild : ∀ next inner, key ≠ next → place.content.child next = .ok (some inner) →
        (Value.object (Fields.assign key replacement before)).child next = .ok (some inner) := by
      intro next inner hne hc
      rwa [child_assign_of_ne hne, ← hcontent]
    obtain ⟨kept, hk, hnames⟩ := hl.find_object hchild ha hother hf
    refine ⟨kept, hk, fun hd => ?_, hnames ▸ .refl _ _⟩
    unfold Fields.Distinct
    rwa [hnames]

end Restores

/-- What a list of restorations, each with what a function has for its place, makes of a value. -/
structure RestoredAt (at? : KeyPath → Option Value) (paths : List KeyPath)
    (value restored : Value) : Prop where
  /-- Every place has what the function has for it. -/
  at_places : ∀ path ∈ paths, restored.find path = .ok (at? path)
  /-- Everything apart from the places is the same. -/
  elsewhere : ∀ path, (∀ place ∈ paths, place.Apart path) → restored.find path = value.find path
  /-- Objects that are not at a place or below one keep the order of their keys, and no keys but
  those of the places are touched. -/
  objects : ∀ path entries, (∀ place ∈ paths, place.isAncestorOf path = false) →
    value.find path = .ok (some (.object entries)) →
    ∃ kept, restored.find path = .ok (some (.object kept)) ∧
      (Fields.Distinct entries → Fields.Distinct kept) ∧
      Fields.KeepsOrder (fun key => path ++ [key] ∈ paths) (Fields.names entries)
        (Fields.names kept)

variable {at? : KeyPath → Option Value} {paths : List KeyPath}

theorem RestoredAt.nil (value : Value) : RestoredAt at? [] value value where
  at_places := nofun
  elsewhere _ _ := rfl
  objects _ entries _ hf := ⟨entries, hf, id, .refl _ _⟩

/-- Restorations at places apart from a first one leave what that one made. -/
theorem RestoredAt.cons {middle : Value} (h : Restores (at? path) value path middle)
    (hrest : RestoredAt at? paths middle restored) (ha : ∀ place ∈ paths, path.Apart place) :
    RestoredAt at? (path :: paths) value restored where
  at_places place hm := by
    rcases List.mem_cons.mp hm with rfl | hm
    · rw [hrest.elsewhere place fun other hm => (ha other hm).symm, h.find_self]
    · exact hrest.at_places place hm
  elsewhere other hother := by
    rw [hrest.elsewhere other fun place hm => hother place (List.mem_cons_of_mem _ hm),
      h.find_of_apart (hother path List.mem_cons_self)]
  objects other entries hother hf := by
    obtain ⟨between, hb, hbd, hbo⟩ := h.find_object (hother path List.mem_cons_self) hf
    obtain ⟨kept, hk, hkd, hko⟩ := hrest.objects other between
      (fun place hm => hother place (List.mem_cons_of_mem _ hm)) hb
    have hdifferent : ∀ key, other ++ [key] = path → other ++ [key] ∉ paths := by
      intro key he hm
      exact (KeyPath.apart_iff.mp (ha _ (he ▸ hm))).1 (List.prefix_refl path)
    refine ⟨kept, hk, fun hd => hkd (hbd hd), ?_⟩
    simp only [List.mem_cons]
    exact hbo.trans hko hdifferent

/-- A place that is apart from a restored one still stands in an object. -/
theorem StandsInObject.after {place : KeyPath} (hs : value.StandsInObject place)
    (h : Restores replacement value path restored) (ha : path.Apart place) :
    restored.StandsInObject place := by
  obtain ⟨parent, key, entries, rfl, hf, hd⟩ := hs
  have hparent : path.isAncestorOf parent = false := by
    rw [Bool.eq_false_iff]
    intro hp
    have hlonger := (KeyPath.isAncestorOf_iff.mp hp).trans (List.prefix_append parent [key])
    exact (KeyPath.apart_iff.mp ha).1 hlonger
  obtain ⟨kept, hk, hkd, _⟩ := h.find_object hparent hf
  exact ⟨parent, key, kept, rfl, hk, hkd hd⟩

/-- Places inside objects that are apart from one another can all be restored. -/
theorem exists_restoreAll_of_apart (hp : paths.Pairwise KeyPath.Apart)
    (hs : ∀ path ∈ paths, value.StandsInObject path) :
    ∃ restored, value.restoreAll at? paths = .ok restored ∧
      RestoredAt at? paths value restored := by
  induction paths generalizing value with
  | nil => exact ⟨value, rfl, .nil value⟩
  | cons path rest ih =>
    obtain ⟨hapart, hrest⟩ := List.pairwise_cons.mp hp
    obtain ⟨middle, hm, hrestores⟩ := exists_restore (hs path List.mem_cons_self) (at? path)
    obtain ⟨restored, hr, hrestored⟩ := ih hrest fun place hplace =>
      (hs place (List.mem_cons_of_mem _ hplace)).after hrestores (hapart place hplace)
    exact ⟨restored, by rw [restoreAll, hm]; exact hr, hrestored.cons hrestores hapart⟩

end Value

end ValidatedStore
