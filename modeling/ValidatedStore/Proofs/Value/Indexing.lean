import ValidatedStore.Proofs.Value.Assigning

/-!
# Keys of array slots

The keys that denote indices are the decimal numerals of the machine words, as they are printed: no
sign, no leading zero, no digit of another script, and no number from `2 ^ 64` on. A key therefore
leads to one slot at most, and each slot has one key: the one under which writes reach the slot and
reads find what is in it.
-/

namespace ValidatedStore

/-- A key denotes an index exactly if it is the printed index, and the index is a word. -/
theorem arrayIndex?_eq_some_iff_toString {key : String} {i : Nat} :
    arrayIndex? key = some i ↔ i < 2 ^ 64 ∧ key = toString i := by
  have hprinted : (toString i).toList = Decimal.digits i := String.toList_ofList
  rw [arrayIndex?_eq_some_iff, ← hprinted, String.toList_inj]

namespace Value

variable {items : List Value} {key other : String} {i j : Nat}

/-- A key leads to a slot of an array: whatever is written under the key goes into that slot, and
what is read under the key is in it. -/
structure Addresses (items : List Value) (key : String) (i : Nat) : Prop where
  /-- The slot is there. -/
  in_range : i < items.length
  /-- A read takes what is in the slot. -/
  reads : (Value.array items).child key = .ok items[i]?
  /-- A write replaces what is in the slot, and nothing else. -/
  writes : ∀ new, writeChild new (.array items) key = .ok (.array (items.set i new), ())

/-- For every value there is another one. -/
theorem exists_ne (value : Value) : ∃ new : Value, new ≠ value := by
  by_cases h : value = .null
  · exact ⟨.bool true, by rw [h]; simp⟩
  · exact ⟨.null, fun he => h he.symm⟩

/-- Slots into which the same write makes the same array, whatever is written, are one slot. -/
theorem eq_of_set_eq (hi : i < items.length) (h : ∀ new, items.set j new = items.set i new) :
    j = i := by
  obtain ⟨new, hne⟩ := exists_ne items[i]
  have hsame := congrArg (·[i]?) (h new)
  by_contra hji
  rw [List.getElem?_set_ne hji, List.getElem?_set_self hi, List.getElem?_eq_getElem hi] at hsame
  exact hne (Option.some.inj hsame).symm

/-- A slot is reached under the keys that denote its index. -/
theorem addresses_iff : Addresses items key i ↔ i < items.length ∧ arrayIndex? key = some i := by
  constructor
  · intro h
    refine ⟨h.in_range, ?_⟩
    have hwrites := h.writes
    simp only [writeChild] at hwrites
    cases hkey : arrayIndex? key with
    | none =>
      rw [hkey] at hwrites
      cases hwrites .null
    | some j =>
      simp only [hkey] at hwrites
      by_cases hj : j < items.length
      · simp only [if_pos hj] at hwrites
        have hset : ∀ new, items.set j new = items.set i new := fun new => by
          simpa using hwrites new
        rw [eq_of_set_eq h.in_range hset]
      · -- Past its end an array grows, but it has the same slots after a write into one.
        have hnull := hwrites .null
        rw [if_neg hj] at hnull
        split at hnull
        · have hlength := congrArg List.length
            (Value.array.inj (Prod.mk.inj (Except.ok.inj hnull)).1)
          simp only [List.length_append, List.length_set, List.length_cons, List.length_nil]
            at hlength
          omega
        · cases hnull
  · rintro ⟨hi, hkey⟩
    refine ⟨hi, ?_, fun new => ?_⟩
    · rw [child, hkey, Option.bind_some]
    · rw [writeChild, hkey]
      exact if_pos hi

/-- The keys of arrays are canonical. A key denotes an index exactly if it is that number as it is
printed in decimal and the number is below `2 ^ 64`; reading the digits one after another with the
arithmetic of machine words comes to the same. In an array, two keys never lead to one slot, and to
each slot there leads exactly one key, its printed index. -/
theorem array_keys_exact :
    (∀ key n, arrayIndex? key = some n ↔ n < 2 ^ 64 ∧ key = toString n) ∧
    (∀ key n, Word.index? key = some n ↔ n < 2 ^ 64 ∧ key = toString n) ∧
    (∀ items key other i, Addresses items key i → Addresses items other i → key = other) ∧
    ∀ items i, i < items.length → i < 2 ^ 64 →
      Addresses items (toString i) i ∧ ∃! key, Addresses items key i := by
  refine ⟨fun key n => arrayIndex?_eq_some_iff_toString, fun key n => ?_,
    fun items key other i hk ho => ?_, fun items i hi hword => ?_⟩
  · rw [Word.index?_eq_arrayIndex?, arrayIndex?_eq_some_iff_toString]
  · exact arrayIndex?_inj (addresses_iff.mp hk).2 (addresses_iff.mp ho).2
  · have hprinted : arrayIndex? (toString i) = some i :=
      arrayIndex?_eq_some_iff_toString.mpr ⟨hword, rfl⟩
    have hself : Addresses items (toString i) i := addresses_iff.mpr ⟨hi, hprinted⟩
    exact ⟨hself, toString i, hself, fun key hk => arrayIndex?_inj (addresses_iff.mp hk).2 hprinted⟩

/-- The second of two slots is reached under one key only, and neither a leading zero nor a sign nor
a digit of another script makes a second one; the greatest word is an index, and the next number is
none. -/
theorem array_keys_exact_of_pair :
    1 < [Value.null, .null].length ∧ 1 < 2 ^ 64 ∧ Addresses [.null, .null] "1" 1 ∧
      (∃! key, Addresses [.null, .null] key 1) ∧
      arrayIndex? "18446744073709551615" = some (2 ^ 64 - 1) ∧
      arrayIndex? "18446744073709551616" = none ∧
      arrayIndex? "01" = none ∧ arrayIndex? "+1" = none ∧ arrayIndex? "١" = none := by
  obtain ⟨hiff, -, -, hslots⟩ := array_keys_exact
  obtain ⟨hself, hunique⟩ := hslots [.null, .null] 1 (by decide) (by decide)
  refine ⟨by decide, by decide, hself, hunique, (hiff _ _).mpr ⟨by decide, by decide +kernel⟩,
    by decide +kernel, by decide +kernel, by decide +kernel, by decide +kernel⟩

end Value

end ValidatedStore
