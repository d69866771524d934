import Mathlib.Logic.Function.Iterate
import ValidatedStore.Access.InPlace
import ValidatedStore.Proofs.Decimal.Digits
import ValidatedStore.Proofs.Fields

/-!
# The places that a walk finds

A place that a walk finds behaves as a lens on the value. Its content is what stands there; putting
the content back changes nothing; what is put there is found there, and below it everything that
stands below what was put. What stands apart from the place is left alone, and objects on the way to
it keep the order of their keys.
-/

namespace ValidatedStore

namespace KeyPath

/-- Neither path lies on the way to the other, and they are not the same. -/
def Apart (path other : KeyPath) : Prop :=
  path.isAncestorOf other = false ∧ other.isAncestorOf path = false

variable {path other parent : KeyPath} {key next : String}

theorem isAncestorOf_iff : path.isAncestorOf other = true ↔ path <+: other :=
  List.isPrefixOf_iff_prefix

theorem apart_iff : Apart path other ↔ ¬path <+: other ∧ ¬other <+: path := by
  rw [Apart, Bool.eq_false_iff, Bool.eq_false_iff, ne_eq, ne_eq, isAncestorOf_iff, isAncestorOf_iff]

theorem isAncestorOf_cons :
    isAncestorOf (key :: path) (next :: other) = (key == next && isAncestorOf path other) := rfl

theorem Apart.symm (h : Apart path other) : Apart other path := ⟨h.2, h.1⟩

theorem apart_cons_of_ne (h : key ≠ next) : Apart (key :: path) (next :: other) := by
  have h' : next ≠ key := fun he => h he.symm
  simp [Apart, isAncestorOf_cons, h, h']

theorem apart_cons_self : Apart (key :: path) (key :: other) ↔ Apart path other := by
  simp [Apart, isAncestorOf_cons]

theorem splitLast?_append_singleton (parent : KeyPath) (key : String) :
    splitLast? (parent ++ [key]) = some (key, parent) := by
  simp [splitLast?]

theorem not_apart_nil : ¬Apart [] other :=
  fun h => Bool.noConfusion h.1

/-- A path that does not go through a place leaves the way to it, stops at the container of the
place, or goes on in the container with another key. -/
theorem cases_of_not_through (h : isAncestorOf (parent ++ [key]) other = false) :
    isAncestorOf parent other = false ∨ other = parent ∨
      ∃ next rest, other = parent ++ next :: rest ∧ key ≠ next := by
  cases hp : isAncestorOf parent other with
  | false => exact .inl rfl
  | true =>
    obtain ⟨rest, rfl⟩ := isAncestorOf_iff.mp hp
    cases rest with
    | nil => exact .inr (.inl (List.append_nil parent))
    | cons next rest =>
      refine .inr (.inr ⟨next, rest, rfl, ?_⟩)
      rintro rfl
      have hthrough : parent ++ [key] <+: parent ++ key :: rest := ⟨rest, by simp⟩
      rw [isAncestorOf_iff.mpr hthrough] at h
      cases h

/-- A path apart from a place leaves the way to its container, or goes on in the container with
another key. -/
theorem apart_append_singleton (h : Apart (parent ++ [key]) other) :
    Apart parent other ∨ ∃ next rest, other = parent ++ next :: rest ∧ key ≠ next := by
  have hup : ¬other <+: parent ++ [key] := (apart_iff.mp h).2
  rcases cases_of_not_through h.1 with hp | rfl | hbeside
  · refine .inl ⟨hp, Bool.eq_false_iff.mpr fun hother => hup ?_⟩
    exact (isAncestorOf_iff.mp hother).trans (List.prefix_append parent [key])
  · exact absurd (List.prefix_append other [key]) hup
  · exact .inr hbeside

end KeyPath

/-- Seeing a fault from elsewhere makes no difference to what succeeds. -/
theorem mapError_eq_ok_iff {ε δ α : Type} {f : ε → δ} {result : Except ε α} {a : α} :
    result.mapError f = .ok a ↔ result = .ok a := by
  cases result <;> simp [Except.mapError]

/-- A key denotes an index exactly if it is the digits of that index, and the index is a word. -/
theorem arrayIndex?_eq_some_iff {key : String} {i : Nat} :
    arrayIndex? key = some i ↔ i < 2 ^ 64 ∧ key.toList = Decimal.digits i := by
  unfold arrayIndex?
  dsimp only
  constructor
  · intro h
    split at h
    next hcanonical =>
      obtain ⟨hne, hall, hlead, hword⟩ := hcanonical
      obtain rfl := Option.some.inj h
      exact ⟨hword, (Decimal.digits_ofDigits hne (List.all_eq_true.mp hall) hlead).symm⟩
    next => cases h
  · rintro ⟨hword, hdigits⟩
    have hlead : (Decimal.digits i).length = 1 ∨ (Decimal.digits i).head? ≠ some '0' := by
      rcases Nat.eq_zero_or_pos i with rfl | hpos
      · exact .inl rfl
      · obtain ⟨c, rest, hcons, hc⟩ := Decimal.exists_digits_eq_cons hpos
        refine .inr fun hhead => hc ?_
        rw [hcons] at hhead
        exact Option.some.inj hhead
    have hall : (Decimal.digits i).all Char.isDigit = true :=
      List.all_eq_true.mpr fun _ hm => Decimal.isDigit_of_mem_digits hm
    rw [hdigits, Decimal.ofDigits_digits, if_pos ⟨Decimal.digits_ne_nil i, hall, hlead, hword⟩]

/-- Two keys never denote the same index. -/
theorem arrayIndex?_inj {key other : String} {i : Nat} (h : arrayIndex? key = some i)
    (ho : arrayIndex? other = some i) : key = other := by
  have hdigits : key.toList = other.toList :=
    (arrayIndex?_eq_some_iff.mp h).2.trans (arrayIndex?_eq_some_iff.mp ho).2.symm
  exact String.toList_inj.mp hdigits

namespace PathFault

/-- A missing way, seen from further out. -/
theorem below_iterate_missing (more depth : Nat) :
    below^[more] (.missing depth) = .missing (depth + more) := by
  induction more with
  | zero => rfl
  | succ more ih => rw [Function.iterate_succ_apply', ih, below, Nat.add_assoc]

/-- A value without keys on the way, seen from further out. -/
theorem below_iterate_notIndexable (kind : Kind) (more depth : Nat) :
    below^[more] (.notIndexable kind depth) = .notIndexable kind (depth + more) := by
  induction more with
  | zero => rfl
  | succ more ih => rw [Function.iterate_succ_apply', ih, below, Nat.add_assoc]

/-- Faults that tell of no depth are the same from everywhere. -/
theorem below_iterate_of_eq {fault : PathFault} (h : fault.below = fault) (more : Nat) :
    below^[more] fault = fault :=
  Function.iterate_fixed h more

/-- A result seen from further out, and then from one container further. -/
theorem mapError_iterate_succ {α : Type} (result : Except PathFault α) (more : Nat) :
    (result.mapError below^[more]).mapError below = result.mapError below^[more + 1] := by
  cases result with
  | error fault => simp only [Except.mapError, Function.iterate_succ_apply']
  | ok a => rfl

theorem mapError_iterate_zero {α : Type} (result : Except PathFault α) :
    result.mapError below^[0] = result := by
  cases result <;> rfl

end PathFault

namespace Value

variable {value container inner changed : Value} {entries : List (String × Value)}
  {key other next : String} {path rest : KeyPath} {place : Place}

/-- After a key was given another value, it leads to that value. -/
theorem child_putChild_self (hc : container.child key = .ok (some inner)) (new : Value) :
    (container.putChild key new).child key = .ok (some new) := by
  cases container with
  | object entries => rw [putChild, child, Fields.find?_insert_self]
  | array items =>
    simp only [child, Except.ok.injEq, Option.bind_eq_some_iff] at hc
    obtain ⟨i, hi, hinner⟩ := hc
    obtain ⟨hlt, _⟩ := List.getElem?_eq_some_iff.mp hinner
    simp [putChild, child, hi, hlt]
  | null => cases hc
  | bool _ => cases hc
  | number _ => cases hc
  | string _ => cases hc

/-- Other keys lead to what they led to. -/
theorem child_putChild_of_ne (h : key ≠ other) (new : Value) :
    (container.putChild key new).child other = container.child other := by
  cases container with
  | object entries => rw [putChild, child, child, Fields.find?_insert_of_ne h]
  | array items =>
    rw [putChild]
    cases hi : arrayIndex? key with
    | none => rfl
    | some i =>
      cases hj : arrayIndex? other with
      | none => simp [child, hj]
      | some j =>
        have hne : i ≠ j := fun he => h (arrayIndex?_inj hi (he ▸ hj))
        simp [child, hj, List.getElem?_set_ne hne]
  | null => rfl
  | bool _ => rfl
  | number _ => rfl
  | string _ => rfl

theorem find_cons (hc : container.child key = .ok (some inner)) :
    container.find (key :: rest) = (inner.find rest).mapError PathFault.below := by
  rw [find, hc]

theorem find_cons_congr (h : value.child key = container.child key) :
    value.find (key :: rest) = container.find (key :: rest) := by
  rw [find, find, h]

/-- What stands below a key stands below the value that the key leads to. -/
theorem exists_child_of_find (h : container.find (key :: rest) = .ok (some value)) :
    ∃ inner, container.child key = .ok (some inner) ∧ inner.find rest = .ok (some value) := by
  rw [find] at h
  split at h
  next => cases h
  next => split at h <;> cases h
  next inner hc =>
    exact ⟨inner, hc, mapError_eq_ok_iff.mp h⟩

/-- Giving a key the value that it leads to changes nothing. -/
theorem putChild_self (hc : container.child key = .ok (some inner)) :
    container.putChild key inner = container := by
  cases container with
  | object entries => rw [putChild, Fields.insert_of_find? (Except.ok.inj hc)]
  | array items =>
    simp only [child, Except.ok.injEq, Option.bind_eq_some_iff] at hc
    obtain ⟨i, hi, hinner⟩ := hc
    obtain ⟨hlt, rfl⟩ := List.getElem?_eq_some_iff.mp hinner
    simp only [putChild, hi, List.set_getElem_self]
  | null => rfl
  | bool _ => rfl
  | number _ => rfl
  | string _ => rfl

/-- Of two values given to a key, only the second remains. -/
theorem putChild_putChild (container : Value) (key : String) (old new : Value) :
    (container.putChild key old).putChild key new = container.putChild key new := by
  cases container with
  | object entries => simp only [putChild, Fields.insert_insert]
  | array items =>
    cases hi : arrayIndex? key with
    | none => simp only [putChild, hi]
    | some i => simp only [putChild, hi, List.set_set]
  | null => rfl
  | bool _ => rfl
  | number _ => rfl
  | string _ => rfl

/-- Values given to two keys that lead to something can be given in either order. -/
theorem putChild_comm {found : Value} (hne : key ≠ other)
    (hc : container.child key = .ok (some found)) (first second : Value) :
    (container.putChild key first).putChild other second =
      (container.putChild other second).putChild key first := by
  cases container with
  | object entries =>
    have hk : key ∈ Fields.names entries :=
      Fields.mem_names_iff.mpr (by rw [Except.ok.inj hc]; rfl)
    simp only [putChild, Fields.insert_comm hne hk]
  | array items =>
    simp only [child, Except.ok.injEq, Option.bind_eq_some_iff] at hc
    obtain ⟨i, hi, _⟩ := hc
    cases hj : arrayIndex? other with
    | none => simp only [putChild, hi, hj]
    | some j =>
      have hij : i ≠ j := fun he => hne (arrayIndex?_inj hi (he ▸ hj))
      simp only [putChild, hi, hj, List.set_comm _ _ hij]
  | null => cases hc
  | bool _ => cases hc
  | number _ => cases hc
  | string _ => cases hc

/-- What stands below a place is what stands below its content; faults are seen from the root. -/
theorem find_append (h : value.find path = .ok (some inner)) (rest : KeyPath) :
    value.find (path ++ rest) = (inner.find rest).mapError PathFault.below^[path.length] := by
  induction path generalizing value with
  | nil =>
    obtain rfl : value = inner := by simpa [find] using h
    exact (PathFault.mapError_iterate_zero _).symm
  | cons key path ih =>
    obtain ⟨between, hc, hbetween⟩ := exists_child_of_find h
    rw [List.cons_append, find_cons hc, ih hbetween, PathFault.mapError_iterate_succ,
      List.length_cons]

/-- What stands at one more key, below an object. -/
theorem find_append_singleton (h : value.find path = .ok (some (.object entries))) :
    value.find (path ++ [key]) = .ok (Fields.find? key entries) := by
  rw [find_append h, find, child]
  cases Fields.find? key entries <;> rfl

namespace Place

/-- What the place at a path of a value has to satisfy. -/
structure Lawful (value : Value) (path : KeyPath) (place : Place) : Prop where
  /-- The content stands at the path. -/
  find_self : value.find path = .ok (some place.content)
  /-- Putting the content back changes nothing. -/
  put_content : place.put place.content = value
  /-- What is put there is found there. -/
  find_put : ∀ new, (place.put new).find path = .ok (some new)
  /-- What stands apart from the place is left alone. -/
  apart : ∀ new other, path.Apart other → (place.put new).find other = value.find other
  /-- Objects that are not at the place or below it keep their keys in order. -/
  names : ∀ new other entries, path.isAncestorOf other = false →
    value.find other = .ok (some (.object entries)) →
    ∃ kept, (place.put new).find other = .ok (some (.object kept)) ∧
      Fields.names kept = Fields.names entries

namespace Lawful

/-- The whole value is the place at the root. -/
theorem root (value : Value) : Lawful value [] ⟨value, id⟩ where
  find_self := rfl
  put_content := rfl
  find_put _ := rfl
  apart _ _ ha := absurd ha KeyPath.not_apart_nil
  names _ _ _ ha := Bool.noConfusion ha

/-- A place inside what a key leads to is a place of the container. -/
theorem inside (h : Lawful inner path place) (hc : container.child key = .ok (some inner)) :
    Lawful container (key :: path) (place.inside container key) where
  find_self := by
    rw [find_cons hc, h.find_self]
    rfl
  put_content := by
    dsimp only [Place.inside]
    rw [h.put_content, putChild_self hc]
  find_put new := by
    rw [Place.inside, find_cons (child_putChild_self hc _), h.find_put]
    rfl
  apart new other ha := by
    cases other with
    | nil => exact absurd ha.symm KeyPath.not_apart_nil
    | cons next rest =>
      by_cases hkey : key = next
      · subst hkey
        rw [Place.inside, find_cons (child_putChild_self hc _), find_cons hc,
          h.apart new rest (KeyPath.apart_cons_self.mp ha)]
      · exact find_cons_congr (child_putChild_of_ne hkey _)
  names new other entries ha hf := by
    cases other with
    | nil =>
      obtain rfl : container = .object entries := by simpa [find] using hf
      have hkey : key ∈ Fields.names entries :=
        Fields.mem_names_iff.mpr (by rw [Except.ok.inj hc]; rfl)
      exact ⟨_, rfl, by rw [Fields.names_insert, if_pos hkey]⟩
    | cons next rest =>
      by_cases hkey : key = next
      · subst hkey
        obtain ⟨inner', hc', hinner⟩ := exists_child_of_find hf
        obtain rfl : inner = inner' := by simpa [hc] using hc'
        have hrest : path.isAncestorOf rest = false := by
          simpa [KeyPath.isAncestorOf_cons] using ha
        obtain ⟨kept, hk, hnames⟩ := h.names new rest entries hrest hinner
        refine ⟨kept, ?_, hnames⟩
        rw [Place.inside, find_cons (child_putChild_self hc _), hk]
        rfl
      · exact ⟨entries, (find_cons_congr (child_putChild_of_ne hkey _)).trans hf, rfl⟩

/-- What is found at the path is the content. -/
theorem content_eq (h : Lawful value path place) (hf : value.find path = .ok (some inner)) :
    place.content = inner :=
  Option.some.inj (Except.ok.inj (h.find_self.symm.trans hf))

/-- Everything that stands below what was put is found below the place. -/
theorem find_put_append (h : Lawful value path place) (new : Value) (rest : KeyPath) :
    (place.put new).find (path ++ rest) =
      (new.find rest).mapError PathFault.below^[path.length] :=
  find_append (h.find_put new) rest

/-- Under a key that leads to the same in what was put as in the content, nothing makes a
difference. -/
theorem find_beside (h : Lawful value path place)
    (hc : changed.child next = place.content.child next) :
    (place.put changed).find (path ++ next :: rest) = value.find (path ++ next :: rest) := by
  rw [h.find_put_append, find_cons_congr hc, find_append h.find_self]

/-- What stands apart from a key of the place is left alone, if every other key leads to what it led
to. -/
theorem find_of_apart {other : KeyPath} (h : Lawful value path place)
    (hc : ∀ next, key ≠ next → changed.child next = place.content.child next)
    (ha : KeyPath.Apart (path ++ [key]) other) :
    (place.put changed).find other = value.find other := by
  rcases KeyPath.apart_append_singleton ha with hp | ⟨next, rest, rfl, hne⟩
  · exact h.apart _ _ hp
  · exact h.find_beside (hc next hne)

/-- What is found under a key is found there still, if the key leads to what it led to. -/
theorem find_beside_of_found {found : Value} (h : Lawful value path place)
    (hc : ∀ inner, place.content.child next = .ok (some inner) →
      changed.child next = .ok (some inner))
    (hf : value.find (path ++ next :: rest) = .ok (some found)) :
    (place.put changed).find (path ++ next :: rest) = .ok (some found) := by
  rw [find_append h.find_self, mapError_eq_ok_iff] at hf
  obtain ⟨inner, hchild, hinner⟩ := exists_child_of_find hf
  rw [h.find_put_append, find_cons (hc inner hchild), hinner]
  rfl

/-- Objects other than the content of the place that do not lie behind the key keep their keys in
order, if every other key leads to what it led to. -/
theorem find_object {other : KeyPath} (h : Lawful value path place)
    (hc : ∀ next inner, key ≠ next → place.content.child next = .ok (some inner) →
      changed.child next = .ok (some inner))
    (ha : KeyPath.isAncestorOf (path ++ [key]) other = false) (hne : other ≠ path)
    (hf : value.find other = .ok (some (.object entries))) :
    ∃ kept, (place.put changed).find other = .ok (some (.object kept)) ∧
      Fields.names kept = Fields.names entries := by
  rcases KeyPath.cases_of_not_through ha with hp | he | ⟨next, rest, rfl, hkey⟩
  · exact h.names changed other entries hp hf
  · exact absurd he hne
  · exact ⟨entries, h.find_beside_of_found (fun inner => hc next inner hkey) hf, rfl⟩

end Lawful

end Place

/-- The place that a walk finds is the place at the path. -/
theorem lawful_of_locate (h : value.locate path = .ok (some place)) : place.Lawful value path := by
  induction path generalizing value place with
  | nil =>
    obtain rfl : ⟨value, id⟩ = place := by simpa [locate] using h
    exact .root value
  | cons key rest ih =>
    rw [locate] at h
    split at h
    next => cases h
    next => split at h <;> cases h
    next inner hc =>
      split at h
      next => cases h
      next => cases h
      next place' hinner =>
        obtain rfl := Option.some.inj (Except.ok.inj h)
        exact (ih hinner).inside hc

/-- After something was put in a place, a walk finds the same place there. -/
theorem locate_put (h : value.locate path = .ok (some place)) (new : Value) :
    (place.put new).locate path = .ok (some ⟨new, place.put⟩) := by
  induction path generalizing value place with
  | nil =>
    obtain rfl : ⟨value, id⟩ = place := by simpa [locate] using h
    rfl
  | cons key rest ih =>
    rw [locate] at h
    split at h
    next => cases h
    next => split at h <;> cases h
    next inner hc =>
      split at h
      next => cases h
      next => cases h
      next inside hinner =>
        obtain rfl := Option.some.inj (Except.ok.inj h)
        rw [locate, child_putChild_self hc]
        dsimp only
        rw [ih hinner]
        simp only [putChild_putChild]

/-- A change at the end of a path is a change of the container that a walk finds. -/
theorem edit_append_singleton {α : Type}
    (change : Value → String → Except PathFault (Value × α)) (value : Value) (parent : KeyPath)
    (key : String) :
    edit change value (parent ++ [key]) =
      match value.locate parent with
      | .error fault => .error fault
      | .ok none => .error (.missing parent.length)
      | .ok (some place) =>
        match change place.content key with
        | .error fault => .error (PathFault.below^[parent.length] fault)
        | .ok (changed, result) => .ok (place.put changed, result) := by
  induction parent generalizing value with
  | nil =>
    rw [List.nil_append, edit, locate]
    dsimp only
    cases change value key <;> rfl
  | cons first rest ih =>
    obtain ⟨next, tail, htail⟩ := List.exists_cons_of_ne_nil
      (List.append_ne_nil_of_right_ne_nil rest (List.cons_ne_nil key []))
    rw [List.cons_append, htail, edit, locate]
    cases hc : value.child first with
    | error fault => rfl
    | ok found =>
      cases found with
      | none => cases rest <;> rfl
      | some inner =>
        rw [← htail]
        dsimp only
        rw [ih inner]
        cases inner.locate rest with
        | error fault => rfl
        | ok place? =>
          cases place? with
          | none => rfl
          | some place =>
            dsimp only
            cases change place.content key with
            | error fault => simp only [List.length_cons, Function.iterate_succ_apply']
            | ok changed => rfl

end Value

end ValidatedStore
