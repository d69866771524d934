import ValidatedStore.Proofs.Value.Walking
import ValidatedStore.Proofs.Value.WellFormed

/-!
# A removal takes one place away

A removal returns what a reader finds at the path. An object loses the key, and the others stay in
order; an array keeps its length, and only a slot that the key denotes is emptied. Where there is
nothing to remove, nothing is changed, and what stands apart from the place is the same as before in
any case. So a key that an object lacks can be written and removed again without a trace.
-/

namespace ValidatedStore

namespace Value

variable {root container changed : Value} {old : Option Value} {key : String} {parent : KeyPath}
  {place : Place}

/-- A container after what is under a key was removed. -/
inductive Removed (key : String) : Value → Option Value → Value → Prop
  /-- An object loses the entry. -/
  | entry (entries : List (String × Value)) :
      Removed key (.object entries) (Fields.find? key entries) (.object (Fields.erase key entries))
  /-- An array gets null in the slot; if it has none at the index, it stays as it is. -/
  | slot {i : Nat} (items : List Value) (hi : arrayIndex? key = some i) :
      Removed key (.array items) items[i]? (.array (items.set i .null))
  /-- The key is no index. -/
  | noIndex (items : List Value) (hi : arrayIndex? key = none) :
      Removed key (.array items) none (.array items)

theorem removed_of_removeChild (h : removeChild container key = .ok (changed, old)) :
    Removed key container old changed := by
  cases container with
  | object entries =>
    cases h
    exact .entry entries
  | array items =>
    rw [removeChild] at h
    split at h
    next hi =>
      cases h
      exact .noIndex items hi
    next i hi =>
      cases h
      exact .slot items hi
  | null => cases h
  | bool _ => cases h
  | number _ => cases h
  | string _ => cases h

namespace Removed

/-- Only objects and arrays lose something. -/
theorem kind (h : Removed key container old changed) :
    container.kind = .object ∨ container.kind = .array := by
  cases h with
  | entry => exact .inl rfl
  | slot => exact .inr rfl
  | noIndex => exact .inr rfl

/-- Every other key leads to what it led to. -/
theorem child_of_ne {next : String} (h : Removed key container old changed) (hne : key ≠ next) :
    changed.child next = container.child next := by
  cases h with
  | entry entries => rw [child, child, Fields.find?_erase_of_ne hne]
  | @slot i items hi =>
    cases hj : arrayIndex? next with
    | none => simp only [child, hj, Option.bind_none]
    | some j =>
      have hother : i ≠ j := fun he => hne (arrayIndex?_inj hi (he ▸ hj))
      simp only [child, hj, Option.bind_some, List.getElem?_set_ne hother]
  | noIndex => rfl

/-- If there was nothing under the key, the container is the same as before. -/
theorem eq_of_none (h : Removed key container none changed) : changed = container := by
  generalize ho : (none : Option Value) = old at h
  cases h with
  | entry entries => rw [Fields.erase_of_not_mem (Fields.find?_eq_none_iff.mp ho.symm)]
  | slot items hi => rw [List.set_eq_of_length_le (List.getElem?_eq_none_iff.mp ho.symm)]
  | noIndex => rfl

end Removed

/-- What a value is after what stands under a key of the container at a path was removed. -/
structure RemovedAt (root : Value) (parent : KeyPath) (key : String) (after : Value) : Prop where
  /-- The container is there, and has keys. -/
  container : ∃ container, root.lookUp parent = .ok (some container) ∧
    (container.kind = .object ∨ container.kind = .array)
  /-- If there was nothing at the place, nothing is changed. -/
  nothing : root.lookUp (parent ++ [key]) = .ok none → after = root
  /-- In an object, there is nothing at the place any more. -/
  gone : ∀ entries, root.lookUp parent = .ok (some (.object entries)) →
    after.lookUp (parent ++ [key]) = .ok none
  /-- An array keeps its length, and only a slot that the key denotes becomes null. -/
  slots : ∀ items, root.lookUp parent = .ok (some (.array items)) →
    ∃ slots, after.lookUp parent = .ok (some (.array slots)) ∧ slots.length = items.length ∧
      ∀ i < items.length, slots[i]? = if arrayIndex? key = some i then some .null else items[i]?
  /-- Nothing apart from the place makes a difference, missing values and reports included. -/
  apart : ∀ other, KeyPath.Apart (parent ++ [key]) other → after.lookUp other = root.lookUp other
  /-- Objects that are not at the place or below it keep their keys in order; only the container
  loses the key. -/
  names : ∀ other entries, KeyPath.isAncestorOf (parent ++ [key]) other = false →
    root.lookUp other = .ok (some (.object entries)) →
    ∃ kept, after.lookUp other = .ok (some (.object kept)) ∧
      Fields.names kept =
        if other = parent then (Fields.names entries).filter (· != key) else Fields.names entries

/-- A removal that is carried out is one from the container that a walk finds. -/
theorem exists_removed_of_delete {after : Value}
    (h : root.delete (parent ++ [key]) = .ok (after, old)) :
    ∃ place changed, root.locate parent = .ok (some place) ∧
      Removed key place.content old changed ∧ place.put changed = after := by
  rw [delete, edit_append_singleton] at h
  split at h
  next => cases h
  next => cases h
  next place hp =>
    split at h
    next => cases h
    next changed result hr =>
      obtain ⟨rfl, rfl⟩ := Prod.mk.inj (Except.ok.inj h)
      exact ⟨place, changed, hp, removed_of_removeChild hr, rfl⟩

/-- A removal from the container at a lawful place is one at a key of it. -/
theorem removedAt_of_removed (hw : root.WellFormed) (hl : place.Lawful root parent)
    (hf : root.find (parent ++ [key]) = .ok old) (hr : Removed key place.content old changed) :
    RemovedAt root parent key (place.put changed) where
  container := ⟨place.content, lookUp_eq_ok_iff.mpr hl.find_self, hr.kind⟩
  nothing hnone := by
    obtain rfl : old = none := Except.ok.inj (hf.symm.trans (lookUp_eq_ok_iff.mp hnone))
    rw [hr.eq_of_none, hl.put_content]
  gone entries hparent := by
    have hobject := lookUp_eq_ok_iff.mp hparent
    have hc : place.content = .object entries := hl.content_eq hobject
    have hd : Fields.Distinct entries := (wellFormed_object.mp (hw.find hobject)).1
    rw [hc] at hr
    cases hr with
    | entry =>
      rw [lookUp_eq_ok_iff, find_append_singleton (hl.find_put _), Fields.find?_erase_self hd]
  slots items hparent := by
    have hc : place.content = .array items := hl.content_eq (lookUp_eq_ok_iff.mp hparent)
    rw [hc] at hr
    cases hr with
    | slot _ hi =>
      refine ⟨_, lookUp_eq_ok_iff.mpr (hl.find_put _), List.length_set, fun j hj => ?_⟩
      simp only [hi, Option.some.injEq, List.getElem?_set]
      split
      next he => rw [if_pos (he ▸ hj)]
      next => rfl
    | noIndex _ hi =>
      exact ⟨items, lookUp_eq_ok_iff.mpr (hl.find_put _), rfl, fun j _ => by simp [hi]⟩
  apart other ha := by
    rw [lookUp_eq_find, lookUp_eq_find, hl.find_of_apart (fun _ => hr.child_of_ne) ha]
  names other entries ha hf := by
    have hobject := lookUp_eq_ok_iff.mp hf
    simp only [lookUp_eq_ok_iff]
    obtain rfl | hother := eq_or_ne other parent
    · have hc : place.content = .object entries := hl.content_eq hobject
      have hd : Fields.Distinct entries := (wellFormed_object.mp (hw.find hobject)).1
      rw [hc] at hr
      cases hr with
      | entry =>
        refine ⟨_, hl.find_put _, ?_⟩
        rw [if_pos rfl, Fields.names_erase, List.Nodup.erase_eq_filter hd]
    · obtain ⟨kept, hk, hnames⟩ :=
        hl.find_object (fun _ _ hne hc => (hr.child_of_ne hne).trans hc) ha hother hobject
      exact ⟨kept, hk, by rw [hnames, if_neg hother]⟩

/-- What was written under a key that an object lacks can be removed again. -/
theorem remove_put {entries : List (String × Value)} (hl : (parent ++ [key]).length < Word.count)
    (hf : root.find parent = .ok (some (.object entries))) (hk : key ∉ Fields.names entries)
    (new : Value) :
    ∃ written, root.put (parent ++ [key]) new = some (written, .ok ()) ∧
      written.remove (parent ++ [key]) = some (root, .ok (some new)) := by
  obtain ⟨place, hp, hc⟩ := exists_place_of_find hf
  have hwrite : edit (writeChild new) root (parent ++ [key]) =
      .ok (place.put (.object (Fields.insert key new entries)), ()) := by
    rw [edit_append_singleton, hp]
    simp only [hc, writeChild]
  have hremove : (place.put (.object (Fields.insert key new entries))).delete (parent ++ [key]) =
      .ok (root, some new) := by
    -- The walk to the container finds the same place again, with the written object in it.
    rw [delete, edit_append_singleton, locate_put hp]
    simp only [removeChild, Fields.find?_insert_self, Fields.erase_insert_of_not_mem hk]
    rw [← hc, (lawful_of_locate hp).put_content]
  refine ⟨_, by rw [put_eq_edit root new hl, hwrite, carriedOut], ?_⟩
  rw [remove_eq_delete _ hl, hremove, carriedOut]

/-- A removal ends for every value and every path below the root whose length is a word, and returns
what a reader finds at the path. If that is a report, nothing is changed; otherwise exactly the
place is taken away. A removal takes back a write under a key that an object lacked, the order of
its keys included. -/
theorem remove_exact (root : Value) (parent : KeyPath) (key : String) (hw : root.WellFormed)
    (hl : (parent ++ [key]).length < Word.count) :
    (∃ after, root.remove (parent ++ [key]) = some (after, root.lookUp (parent ++ [key])) ∧
      (∀ report, root.lookUp (parent ++ [key]) = .error report → after = root) ∧
      ∀ old, root.lookUp (parent ++ [key]) = .ok old → RemovedAt root parent key after) ∧
    ∀ entries, root.lookUp parent = .ok (some (.object entries)) → key ∉ Fields.names entries →
      ∀ new, ∃ written, root.put (parent ++ [key]) new = some (written, .ok ()) ∧
        written.remove (parent ++ [key]) = some (root, .ok (some new)) := by
  refine ⟨?_, fun entries hparent hk new => remove_put hl (lookUp_eq_ok_iff.mp hparent) hk new⟩
  have hne : parent ++ [key] ≠ [] := by simp
  rw [remove_eq_delete root hl, lookUp_eq_find, ← map_snd_delete root hne]
  cases hd : root.delete (parent ++ [key]) with
  | error fault => exact ⟨root, rfl, fun _ _ => rfl, by simp [Except.map, Except.mapError]⟩
  | ok removed =>
    obtain ⟨after, old⟩ := removed
    have hf : root.find (parent ++ [key]) = .ok old := by
      rw [← map_snd_delete root hne, hd]
      rfl
    refine ⟨after, rfl, by simp [Except.map, Except.mapError], fun _ _ => ?_⟩
    obtain ⟨place, changed, hp, hr, rfl⟩ := exists_removed_of_delete hd
    exact removedAt_of_removed hw (lawful_of_locate hp) hf hr

/-- A field of an object in an array is removed, the others staying in order; a field that the
object lacks is written and removed again. -/
theorem remove_exact_of_lamp :
    ∃ (root after : Value) (parent : KeyPath), root.WellFormed ∧
      (parent ++ ["on"]).length < Word.count ∧ (parent ++ ["colour"]).length < Word.count ∧
      root.remove (parent ++ ["on"]) = some (after, .ok (some (.bool true))) ∧
      RemovedAt root parent "on" after ∧
      after.lookUp parent = .ok (some (.object [("name", .string "desk"), ("dim", .null)])) ∧
      ∃ written, root.put (parent ++ ["colour"]) (.string "red") = some (written, .ok ()) ∧
        written.remove (parent ++ ["colour"]) = some (root, .ok (some (.string "red"))) := by
  let lamp : List (String × Value) :=
    [("name", .string "desk"), ("on", .bool true), ("dim", .null)]
  let root : Value := .object [("lamps", .array [.object lamp])]
  have hw : root.WellFormed := by
    simp [root, lamp, Value.WellFormed, WellFormedEntries, WellFormedItems, Fields.Distinct,
      Fields.names]
  have hon : (["lamps", "0"] ++ ["on"]).length < Word.count := by decide
  have hcolour : (["lamps", "0"] ++ ["colour"]).length < Word.count := by decide
  obtain ⟨⟨after, hrun, _, hremoved⟩, _⟩ := remove_exact root ["lamps", "0"] "on" hw hon
  have hfound : root.lookUp (["lamps", "0"] ++ ["on"]) = .ok (some (.bool true)) := rfl
  have hat := hremoved _ hfound
  obtain ⟨_, hback⟩ := remove_exact root ["lamps", "0"] "colour" hw hcolour
  have hrest : root.remove (["lamps", "0"] ++ ["on"]) =
      some (.object [("lamps", .array [.object [("name", .string "desk"), ("dim", .null)]])],
        .ok (some (.bool true))) := rfl
  obtain rfl := (Prod.mk.inj (Option.some.inj (hrest.symm.trans hrun))).1
  exact ⟨root, _, ["lamps", "0"], hw, hon, hcolour, hrest, hat, rfl,
    hback lamp rfl (by decide) (.string "red")⟩

end Value

end ValidatedStore
