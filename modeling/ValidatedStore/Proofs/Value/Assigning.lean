import ValidatedStore.Proofs.Value.Locating

/-!
# A write in place changes one place

Where the arithmetic of machine words has results, it has those of the natural numbers, and a write
in place never asks for another: reading an index takes note of a number that is too large, an index
is compared with a length before the length is subtracted from it, and a path that has a last key is
not empty. So the write always comes to an end as `Value.set` says. When it is refused, the value is
the same as before. When it is carried out, the place has what was written, whatever stood apart
from the place still stands there, and objects keep their keys in order.
-/

namespace ValidatedStore

namespace Word

variable {a b : Nat}

theorem add?_of_lt (h : a + b < count) : add? a b = some (a + b) := if_pos h

theorem sub?_of_le (h : b ≤ a) : sub? a b = some (a - b) := if_pos h

/-- Digits spell a word exactly when their number is one. -/
theorem ofDigits?_eq (ds : List Char) :
    ofDigits? ds = if Decimal.ofDigits ds < count then some (Decimal.ofDigits ds) else none := by
  induction ds using List.reverseRecOn with
  | nil => rfl
  | append_singleton front c ih =>
    have hvalue : Decimal.ofDigits (front ++ [c]) =
        10 * Decimal.ofDigits front + Decimal.digitValue c := by
      simp [Decimal.ofDigits, List.foldl_append]
    have hstep : ofDigits? (front ++ [c]) = (ofDigits? front).bind fun n =>
        (mul? 10 n).bind fun tens => add? tens (Decimal.digitValue c) := by
      simp [ofDigits?, List.foldlM_append]
    rw [hstep, hvalue, ih]
    by_cases hfront : Decimal.ofDigits front < count
    · rw [if_pos hfront, Option.bind_some, mul?]
      by_cases htens : 10 * Decimal.ofDigits front < count
      · rw [if_pos htens, Option.bind_some, add?]
      · rw [if_neg htens, if_neg (by omega), Option.bind_none]
    · rw [if_neg hfront, if_neg (by omega), Option.bind_none]

/-- The arithmetic of words reads the index that a key denotes. -/
theorem index?_eq_arrayIndex? (key : String) : index? key = arrayIndex? key := by
  unfold index? arrayIndex?
  dsimp only
  by_cases hcanonical : key.toList ≠ [] ∧ key.toList.all Char.isDigit = true ∧
      (key.toList.length = 1 ∨ key.toList.head? ≠ some '0')
  · rw [if_pos hcanonical, ofDigits?_eq]
    obtain ⟨hne, hall, hlead⟩ := hcanonical
    by_cases hword : Decimal.ofDigits key.toList < count
    · rw [if_pos hword, if_pos ⟨hne, hall, hlead, hword⟩]
    · rw [if_neg hword, if_neg fun h => hword h.2.2.2]
  · rw [if_neg hcanonical, if_neg fun h => hcanonical ⟨h.1, h.2.1, h.2.2.1⟩]

/-- Every index is a word. -/
theorem lt_count_of_arrayIndex? {key : String} {i : Nat} (h : arrayIndex? key = some i) :
    i < count :=
  (arrayIndex?_eq_some_iff.mp h).1

end Word

namespace Value

variable {root value container changed inner new found : Value} {items slots : List Value}
  {key next : String} {parent path rest : KeyPath} {place : Place} {length depth i : Nat}

/-- Only a value without keys refuses one. -/
theorem eq_of_child_error {fault : PathFault} (h : value.child key = .error fault) :
    fault = .notIndexable value.kind 0 := by
  cases value with
  | object entries => cases h
  | array items => cases h
  | null => exact (Except.error.inj h).symm
  | bool _ => exact (Except.error.inj h).symm
  | number _ => exact (Except.error.inj h).symm
  | string _ => exact (Except.error.inj h).symm

/-- Counting the depth on the way down comes to the same as counting it on the way back. -/
theorem reach_eq_locate (hd : depth + path.length = length) (hl : length < Word.count) :
    value.reach length depth path = some ((value.locate path).mapError PathFault.below^[depth]) := by
  induction path generalizing value depth with
  | nil => rfl
  | cons key rest ih =>
    rw [List.length_cons] at hd
    have hnext : Word.add? depth 1 = some (depth + 1) := Word.add?_of_lt (by omega)
    rw [reach, locate]
    cases hc : value.child key with
    | error fault =>
      rw [eq_of_child_error hc, Except.mapError, PathFault.below_iterate_notIndexable, Nat.zero_add]
    | ok found =>
      dsimp only
      rw [hnext]
      cases found with
      | none =>
        cases rest with
        | nil =>
          have hlast : depth + 1 = length := hd
          simp [hlast, Except.mapError]
        | cons key' rest' =>
          have hmore : depth + 1 ≠ length := by
            rw [List.length_cons] at hd
            omega
          simp [hmore, Except.mapError, PathFault.below_iterate_missing, Nat.add_comm 1 depth]
      | some inner =>
        dsimp only
        rw [ih (by omega), Option.map_some]
        cases inner.locate rest with
        | error fault =>
          simp only [Except.mapError, Except.map, Function.iterate_succ_apply]
        | ok place? => cases place? <;> rfl

/-- A write to a container never leaves the words, and does what `writeChild` says; the container
stays as it is when the write is refused. -/
theorem writeEntry_eq (hl : 0 < length) :
    writeEntry length new container key =
      some (match writeChild new container key with
        | .error fault => (container, .error (PathFault.below^[length - 1] fault))
        | .ok (changed, _) => (changed, .ok ())) := by
  have hdepth : Word.sub? length 1 = some (length - 1) := Word.sub?_of_le hl
  cases container with
  | object entries => rfl
  | array items =>
    rw [writeEntry, writeChild, Word.index?_eq_arrayIndex?]
    cases arrayIndex? key with
    | none =>
      dsimp only
      rw [PathFault.below_iterate_of_eq rfl]
    | some i =>
      dsimp only
      by_cases hi : i < items.length
      · rw [if_pos hi, if_pos hi]
      · rw [if_neg hi, if_neg hi, Word.sub?_of_le (Nat.le_of_not_lt hi), Option.map_some]
        by_cases hgap : i - items.length ≤ maxArrayGap
        · rw [if_pos hgap, if_pos hgap]
        · rw [if_neg hgap, if_neg hgap]
          dsimp only
          rw [PathFault.below_iterate_of_eq rfl]
  | null => simp [writeEntry, writeChild, hdepth, PathFault.below_iterate_notIndexable]
  | bool _ => simp [writeEntry, writeChild, hdepth, PathFault.below_iterate_notIndexable]
  | number _ => simp [writeEntry, writeChild, hdepth, PathFault.below_iterate_notIndexable]
  | string _ => simp [writeEntry, writeChild, hdepth, PathFault.below_iterate_notIndexable]

/-- What the slots of an array are after a write at an index. -/
structure SlotsAfter (items : List Value) (i : Nat) (new : Value) (slots : List Value) : Prop where
  /-- The array grows as far as the index, and never shrinks. -/
  length : slots.length = max items.length (i + 1)
  /-- The slot of the index has what was written. -/
  written : slots[i]? = some new
  /-- The other slots that there were are the same. -/
  others : ∀ j < items.length, j ≠ i → slots[j]? = items[j]?
  /-- The slots between the former end and the index are null. -/
  between : ∀ j, items.length ≤ j → j < i → slots[j]? = some .null

theorem SlotsAfter.set (hi : i < items.length) : SlotsAfter items i new (items.set i new) where
  length := by
    rw [List.length_set]
    omega
  written := List.getElem?_set_self hi
  others j _ hne := List.getElem?_set_ne (Ne.symm hne)
  between j hj hlt := by omega

theorem SlotsAfter.grow (hi : items.length ≤ i) :
    SlotsAfter items i new (items ++ List.replicate (i - items.length) .null ++ [new]) where
  length := by
    simp only [List.length_append, List.length_replicate, List.length_singleton]
    omega
  written := by
    have hfront : (items ++ List.replicate (i - items.length) Value.null).length = i := by
      rw [List.length_append, List.length_replicate]
      omega
    rw [List.getElem?_append_right (Nat.le_of_eq hfront), hfront, Nat.sub_self]
    rfl
  others j hj _ := by
    rw [List.append_assoc, List.getElem?_append_left hj]
  between j hj hlt := by
    have hgap : j - items.length < i - items.length := by omega
    rw [List.append_assoc, List.getElem?_append_right hj,
      List.getElem?_append_left (by rwa [List.length_replicate]),
      List.getElem?_replicate_of_lt hgap]

/-- A container before and after a write of one of its entries. -/
inductive Wrote (new : Value) (key : String) : Value → Value → Prop
  /-- The entry of an object. -/
  | entry (entries : List (String × Value)) :
      Wrote new key (.object entries) (.object (Fields.insert key new entries))
  /-- The slot of an array, not too far past its end. -/
  | slot {items slots : List Value} {i : Nat} (hi : arrayIndex? key = some i)
      (hgap : i ≤ items.length + maxArrayGap) (hs : SlotsAfter items i new slots) :
      Wrote new key (.array items) (.array slots)

theorem wrote_of_writeChild {done : Unit} (h : writeChild new container key = .ok (changed, done)) :
    Wrote new key container changed := by
  cases container with
  | object entries =>
    cases h
    exact .entry entries
  | array items =>
    rw [writeChild] at h
    split at h
    next => cases h
    next i hi =>
      split at h
      next hlt =>
        cases h
        exact .slot hi (by omega) (.set hlt)
      next hlt =>
        split at h
        next hgap =>
          cases h
          exact .slot hi (by omega) (.grow (by omega))
        next => cases h
  | null => cases h
  | bool _ => cases h
  | number _ => cases h
  | string _ => cases h

namespace Wrote

/-- The key leads to what was written. -/
theorem child_self (h : Wrote new key container changed) : changed.child key = .ok (some new) := by
  cases h with
  | entry entries => rw [child, Fields.find?_insert_self]
  | slot hi _ hs => rw [child, hi, Option.bind_some, hs.written]

/-- What another key led to, it leads to still. -/
theorem child_of_ne (h : Wrote new key container changed) (hne : key ≠ next)
    (hc : container.child next = .ok (some inner)) : changed.child next = .ok (some inner) := by
  cases h with
  | entry entries => rwa [child, Fields.find?_insert_of_ne hne]
  | @slot items slots i hi _ hs =>
    simp only [child, Except.ok.injEq, Option.bind_eq_some_iff] at hc
    obtain ⟨j, hj, hinner⟩ := hc
    obtain ⟨hlt, _⟩ := List.getElem?_eq_some_iff.mp hinner
    have hother : j ≠ i := fun he => hne (arrayIndex?_inj hi (he ▸ hj))
    rw [child, hj, Option.bind_some, hs.others j hlt hother, hinner]

end Wrote

/-- What a value is after a write under a key of the container at a path. -/
structure WrittenAt (root : Value) (parent : KeyPath) (key : String) (new after : Value) :
    Prop where
  /-- The container is there, and has keys. -/
  container : ∃ container, root.find parent = .ok (some container) ∧
    (container.kind = .object ∨ container.kind = .array)
  /-- At the place and below it stands what was written; faults are seen from the root. -/
  below : ∀ rest, after.find (parent ++ [key] ++ rest) =
    (new.find rest).mapError PathFault.below^[parent.length + 1]
  /-- What stood apart from the place stands there still. -/
  apart : ∀ other found, KeyPath.Apart (parent ++ [key]) other →
    root.find other = .ok (some found) → after.find other = .ok (some found)
  /-- In an object, nothing apart from the place makes a difference, missing values and faults
  included. -/
  apart_object : ∀ entries, root.find parent = .ok (some (.object entries)) →
    ∀ other, KeyPath.Apart (parent ++ [key]) other → after.find other = root.find other
  /-- Objects that are not at the place or below it keep their keys in order, and a new key comes
  last. -/
  names : ∀ other entries, KeyPath.isAncestorOf (parent ++ [key]) other = false →
    root.find other = .ok (some (.object entries)) →
    ∃ kept, after.find other = .ok (some (.object kept)) ∧
      Fields.names kept =
        if other = parent ∧ key ∉ Fields.names entries then Fields.names entries ++ [key]
        else Fields.names entries
  /-- In an array, the key is an index that is a word and not too far past the end, and the slots
  are those after a write there. -/
  slots : ∀ items, root.find parent = .ok (some (.array items)) →
    ∃ i slots, arrayIndex? key = some i ∧ i < Word.count ∧ i ≤ items.length + maxArrayGap ∧
      after.find parent = .ok (some (.array slots)) ∧ SlotsAfter items i new slots

/-- A write to the container at a lawful place is one under a key of it. -/
theorem writtenAt_of_wrote (hl : place.Lawful root parent)
    (hw : Wrote new key place.content changed) :
    WrittenAt root parent key new (place.put changed) where
  container := by
    refine ⟨place.content, hl.find_self, ?_⟩
    generalize place.content = before at hw
    cases hw with
    | entry => exact .inl rfl
    | slot => exact .inr rfl
  below rest := by
    rw [List.append_assoc, hl.find_put_append, List.singleton_append, find_cons hw.child_self]
    cases new.find rest with
    | error fault => simp only [Except.mapError, Function.iterate_succ_apply]
    | ok found => rfl
  apart other found ha hf := by
    rcases KeyPath.apart_append_singleton ha with hp | ⟨next, rest, rfl, hne⟩
    · rw [hl.apart _ _ hp, hf]
    · exact hl.find_beside_of_found (fun _ => hw.child_of_ne hne) hf
  apart_object entries hparent other ha := by
    have hc : place.content = .object entries := hl.content_eq hparent
    rw [hc] at hw
    cases hw with
    | entry =>
      refine hl.find_of_apart (fun next hne => ?_) ha
      rw [hc, child, child, Fields.find?_insert_of_ne hne]
  names other entries ha hf := by
    obtain rfl | hother := eq_or_ne other parent
    · have hc : place.content = .object entries := hl.content_eq hf
      rw [hc] at hw
      cases hw with
      | entry =>
        refine ⟨_, hl.find_put _, ?_⟩
        rw [Fields.names_insert]
        by_cases hkey : key ∈ Fields.names entries <;> simp [hkey]
    · obtain ⟨kept, hk, hnames⟩ := hl.find_object (fun _ _ hne => hw.child_of_ne hne) ha hother hf
      exact ⟨kept, hk, by rw [hnames, if_neg fun h => hother h.1]⟩
  slots items hparent := by
    have hc : place.content = .array items := hl.content_eq hparent
    rw [hc] at hw
    cases hw with
    | slot hi hgap hs =>
      exact ⟨_, _, hi, Word.lt_count_of_arrayIndex? hi, hgap, hl.find_put _, hs⟩

/-- How a write in place ends: what it says of the container that a walk finds. -/
theorem assign_append_singleton (hl : parent.length + 1 < Word.count) :
    root.assign (parent ++ [key]) new =
      some (match root.locate parent with
        | .error fault => (root, .error fault)
        | .ok none => (root, .error (.missing parent.length))
        | .ok (some place) =>
          match writeChild new place.content key with
          | .error fault =>
            (place.put place.content, .error (PathFault.below^[parent.length] fault))
          | .ok (changed, _) => (place.put changed, .ok ())) := by
  have hreach : root.reach parent.length 0 parent = some (root.locate parent) := by
    rw [reach_eq_locate (Nat.zero_add _) (by omega), PathFault.mapError_iterate_zero]
  rw [assign, reachContainer, KeyPath.splitLast?_append_singleton]
  dsimp only
  rw [hreach, Option.map_some, Option.bind_some]
  cases root.locate parent with
  | error fault => rfl
  | ok place? =>
    cases place? with
    | none => rfl
    | some place =>
      have hpos : 0 < (parent ++ [key]).length := by simp
      have hlast : (parent ++ [key]).length - 1 = parent.length := by simp
      dsimp only
      rw [writeEntry_eq hpos, hlast, Option.map_some]
      cases writeChild new place.content key <;> rfl

/-- A write in place ends for every value, path and key text. A number too large for an index is taken
for none, and no sum or difference on the way leaves the machine words, as the length of a path is
one. The write succeeds or is refused as `Value.set` says. A refused write leaves the value as it is;
one that is carried out writes exactly the place that the path names. -/
theorem assign_exact (root new : Value) (path : KeyPath) (hl : path.length < Word.count) :
    ∃ after outcome, root.assign path new = some (after, outcome) ∧
      root.set path new = outcome.map (fun _ => after) ∧
      (∀ fault, outcome = .error fault → after = root) ∧
      (outcome = .ok () →
        ∃ parent key, path = parent ++ [key] ∧ WrittenAt root parent key new after) := by
  cases path using List.reverseRecOn with
  | nil => exact ⟨root, .error .rootHasNoKey, rfl, rfl, fun _ _ => rfl, by simp⟩
  | append_singleton parent key =>
    rw [List.length_append, List.length_singleton] at hl
    rw [assign_append_singleton hl, set, edit_append_singleton]
    cases hlocate : root.locate parent with
    | error fault => exact ⟨root, .error fault, rfl, rfl, fun _ _ => rfl, by simp⟩
    | ok place? =>
      cases place? with
      | none => exact ⟨root, .error _, rfl, rfl, fun _ _ => rfl, by simp⟩
      | some place =>
        have hlawful := lawful_of_locate hlocate
        dsimp only
        cases hw : writeChild new place.content key with
        | error fault =>
          exact ⟨_, .error _, rfl, rfl, fun _ _ => hlawful.put_content, by simp⟩
        | ok written =>
          obtain ⟨changed, done⟩ := written
          exact ⟨_, .ok (), rfl, rfl, by simp, fun _ =>
            ⟨parent, key, rfl, writtenAt_of_wrote hlawful (wrote_of_writeChild hw)⟩⟩

/-- A write past the end of an array inside an object adds null slots up to the index, and leaves
the field beside the array alone. -/
theorem assign_exact_of_gap :
    ["tags", "3"].length < Word.count ∧
      ∃ after, (Value.object [("name", .null), ("tags", .array [.bool true])]).assign ["tags", "3"]
          (.bool false) = some (after, .ok ()) ∧
        WrittenAt (.object [("name", .null), ("tags", .array [.bool true])]) ["tags"] "3"
          (.bool false) after ∧
        after = .object [("name", .null),
          ("tags", .array [.bool true, .null, .null, .bool false])] := by
  have hword : ["tags", "3"].length < Word.count := by decide
  obtain ⟨after, outcome, hassign, _, _, hwritten⟩ :=
    assign_exact (.object [("name", .null), ("tags", .array [.bool true])]) (.bool false)
      ["tags", "3"] hword
  have hrun : (Value.object [("name", .null), ("tags", .array [.bool true])]).assign ["tags", "3"]
      (.bool false) = some (.object [("name", .null),
        ("tags", .array [.bool true, .null, .null, .bool false])], .ok ()) := by
    rfl
  obtain ⟨rfl, rfl⟩ := Prod.mk.inj (Option.some.inj (hrun.symm.trans hassign))
  obtain ⟨parent, key, hpath, hat⟩ := hwritten rfl
  have hsplit : ["tags"] ++ ["3"] = parent ++ [key] := hpath
  obtain ⟨rfl, hkey⟩ := List.append_inj' hsplit rfl
  obtain rfl := List.singleton_inj.mp hkey
  exact ⟨hword, _, hassign, hat, rfl⟩

end Value

end ValidatedStore
