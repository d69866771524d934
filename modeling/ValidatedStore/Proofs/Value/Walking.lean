import ValidatedStore.Access.Reporting
import ValidatedStore.Proofs.Value.Assigning

/-!
# The walks agree on what can be reached

The reader's walk and the writer's walk end alike: at the same value, at nothing, or with the same
report. So does a removal, although it walks only to the container of the last key. A write is
refused where a reader is stopped, with the same report; where a reader is not, it is refused only
by an array that has no slot for the last key. And whoever overwrites the place that a writer finds
has written at the path.
-/

namespace ValidatedStore

/-- An array of this length has no slot for a key. -/
inductive NoSlot (length : Nat) (key : String) : Prop
  /-- The key is not the decimal digits of a word. -/
  | noIndex (h : ∀ i < Word.count, key.toList ≠ Decimal.digits i)
  /-- It is, and the index lies too far past the end. -/
  | tooFar {i : Nat} (hi : i < Word.count) (hk : key.toList = Decimal.digits i)
      (hfar : length + maxArrayGap < i)

theorem arrayIndex?_eq_none_iff {key : String} :
    arrayIndex? key = none ↔ ∀ i < Word.count, key.toList ≠ Decimal.digits i := by
  rw [Option.eq_none_iff_forall_not_mem]
  simp only [Option.mem_def, arrayIndex?_eq_some_iff, not_and]
  rfl

namespace Value

variable {root value container inner new : Value} {items : List Value} {key : String}
  {parent path rest : KeyPath} {place : Place} {fault : PathFault} {depth : Nat}

section Reading

/-- Going along a path from some depth on is finding the rest of it, with faults that are seen from
where the path begins. -/
theorem follow_eq (path : KeyPath) (depth : Nat) (value : Value) (rest : KeyPath) :
    follow path depth (some value) rest =
      (value.find rest).mapError fun fault => (PathFault.below^[depth] fault).report path := by
  induction rest generalizing depth value with
  | nil => rfl
  | cons key rest ih =>
    rw [follow, find]
    cases hc : value.child key with
    | error fault =>
      dsimp only
      rw [eq_of_child_error hc, Except.mapError, PathFault.below_iterate_notIndexable, Nat.zero_add]
    | ok found =>
      dsimp only
      cases found with
      | some inner =>
        dsimp only
        rw [ih]
        cases inner.find rest with
        | error fault => simp only [Except.mapError, Function.iterate_succ_apply]
        | ok found => rfl
      | none =>
        -- The reader goes on with nothing in hand, and is stopped by the next key if there is one.
        cases rest with
        | nil => rfl
        | cons next rest =>
          simp only [follow, List.isEmpty_cons, Bool.false_eq_true, if_false, Except.mapError,
            PathFault.below_iterate_missing, Nat.add_comm 1 depth]

/-- A reader finds what stands at the path. -/
theorem lookUp_eq_find (root : Value) (path : KeyPath) :
    root.lookUp path = (root.find path).mapError (PathFault.report path) :=
  follow_eq path 0 root path

/-- A reader finds what stands there. -/
theorem lookUp_eq_ok_iff {found : Option Value} :
    root.lookUp path = .ok found ↔ root.find path = .ok found := by
  rw [lookUp_eq_find, mapError_eq_ok_iff]

/-- What stands at a path is the content of the place there. -/
theorem find_eq_locate (value : Value) (path : KeyPath) :
    value.find path = (value.locate path).map (Option.map Place.content) := by
  induction path generalizing value with
  | nil => rfl
  | cons key rest ih =>
    rw [find, locate]
    cases value.child key with
    | error fault => rfl
    | ok found =>
      cases found with
      | none => cases rest <;> rfl
      | some inner =>
        dsimp only
        rw [ih]
        cases inner.locate rest with
        | error fault => rfl
        | ok place? => cases place? <;> rfl

/-- What stands at a path is the content of a place there. -/
theorem exists_place_of_find (h : root.find path = .ok (some value)) :
    ∃ place, root.locate path = .ok (some place) ∧ place.content = value := by
  rw [find_eq_locate] at h
  cases hp : root.locate path with
  | error fault =>
    rw [hp] at h
    cases h
  | ok place? =>
    rw [hp] at h
    obtain ⟨place, rfl, hc⟩ := Option.map_eq_some_iff.mp (Except.ok.inj h)
    exact ⟨place, rfl, hc⟩

/-- What stands at one more key is what the content of the place leads to. -/
theorem find_concat (value : Value) (parent : KeyPath) (key : String) :
    value.find (parent ++ [key]) =
      match value.locate parent with
      | .error fault => .error fault
      | .ok none => .error (.missing parent.length)
      | .ok (some place) => (place.content.child key).mapError PathFault.below^[parent.length] := by
  induction parent generalizing value with
  | nil =>
    rw [List.nil_append, find, locate]
    dsimp only
    cases value.child key with
    | error fault => rfl
    | ok found => cases found <;> rfl
  | cons first rest ih =>
    rw [List.cons_append, find, locate]
    cases value.child first with
    | error fault => rfl
    | ok found =>
      cases found with
      | none => cases rest <;> rfl
      | some inner =>
        dsimp only
        rw [ih inner]
        cases inner.locate rest with
        | error fault => rfl
        | ok place? =>
          cases place? with
          | none => rfl
          | some place => exact PathFault.mapError_iterate_succ _ _

/-- A place at one more key is inside the place of its container. -/
theorem locate_concat (h : value.locate (parent ++ [key]) = .ok (some place)) :
    ∃ outer, value.locate parent = .ok (some outer) ∧
      outer.content.child key = .ok (some place.content) ∧
      ∀ new, place.put new = outer.put (outer.content.putChild key new) := by
  induction parent generalizing value place with
  | nil =>
    rw [List.nil_append, locate] at h
    split at h
    next => cases h
    next => cases h
    next inner hc =>
      obtain rfl := Option.some.inj (Except.ok.inj h)
      exact ⟨⟨value, id⟩, rfl, hc, fun _ => rfl⟩
  | cons first rest ih =>
    rw [List.cons_append, locate] at h
    split at h
    next => cases h
    next => split at h <;> cases h
    next inner hc =>
      split at h
      next => cases h
      next => cases h
      next place' hinner =>
        obtain rfl := Option.some.inj (Except.ok.inj h)
        obtain ⟨outer, ho, hchild, hput⟩ := ih hinner
        refine ⟨outer.inside value first, ?_, hchild, fun new => ?_⟩
        · rw [locate, hc]
          dsimp only
          rw [ho]
          rfl
        · dsimp only [Place.inside]
          rw [hput]

end Reading

section Wording

/-- A walk is stopped on the way, at a depth that it has come to. -/
theorem exists_depth_of_locate_error (h : value.locate path = .error fault) :
    ∃ depth ≤ path.length, fault = .missing depth ∨ ∃ kind, fault = .notIndexable kind depth := by
  induction path generalizing value fault with
  | nil => cases h
  | cons key rest ih =>
    rw [locate] at h
    split at h
    next stopped hc =>
      obtain rfl := Except.error.inj h
      exact ⟨0, Nat.zero_le _, .inr ⟨_, eq_of_child_error hc⟩⟩
    next =>
      split at h
      next => cases h
      next =>
        obtain rfl := Except.error.inj h
        exact ⟨1, by simp, .inl rfl⟩
    next inner _ =>
      split at h
      next stopped hinner =>
        obtain rfl := Except.error.inj h
        obtain ⟨depth, hle, hfault⟩ := ih hinner
        refine ⟨depth + 1, by simpa using hle, ?_⟩
        rcases hfault with rfl | ⟨kind, rfl⟩
        · exact .inl rfl
        · exact .inr ⟨kind, rfl⟩
      next => cases h
      next => cases h

/-- The words about the way to a container are those about the whole path. -/
theorem reason_of_locate_error (h : value.locate parent = .error fault) (rest : KeyPath) :
    fault.reason parent = fault.reason (parent ++ rest) := by
  obtain ⟨depth, hle, hfault⟩ := exists_depth_of_locate_error h
  have htake : parent.take depth = (parent ++ rest).take depth :=
    (List.take_append_of_le_length hle).symm
  rcases hfault with rfl | ⟨kind, rfl⟩
  · exact congrArg (fun keys => "'" ++ KeyPath.text keys ++ "' does not exist") htake
  · exact congrArg
      (fun keys => "cannot index into " ++ kind.name ++ " at '" ++ KeyPath.text keys ++ "'") htake

end Wording

section Changing

variable {α : Type}

/-- A change that may be refused, carried out in place: what is there afterwards, and the
outcome. -/
def carriedOut {ε : Type} (tell : PathFault → ε) (value : Value) :
    Except PathFault (Value × α) → Value × Except ε α
  | .error fault => (value, .error (tell fault))
  | .ok (changed, result) => (changed, .ok result)

/-- A writer finds the place at the path. -/
theorem pointTo_eq_locate (root : Value) (hl : path.length < Word.count) :
    root.pointTo path = some ((root.locate path).mapError (PathFault.report path)) := by
  rw [pointTo, reach_eq_locate (Nat.zero_add _) hl, PathFault.mapError_iterate_zero,
    Option.map_some]

/-- How the walk to the container of a key ends. -/
theorem approach_append_singleton (root : Value) (key : String)
    (hl : parent.length < Word.count) :
    root.approach (parent ++ [key]) =
      some (match root.locate parent with
        | .error fault => .error (fault.report (parent ++ [key]))
        | .ok none => .error ((PathFault.missing parent.length).report (parent ++ [key]))
        | .ok (some place) => .ok (place, key)) := by
  rw [approach, KeyPath.splitLast?_append_singleton]
  dsimp only
  rw [pointTo_eq_locate root hl, Option.map_some]
  cases hp : root.locate parent with
  | error fault =>
    simp only [Except.mapError, PathFault.report, reason_of_locate_error hp [key]]
  | ok place? => cases place? <;> rfl

/-- A change in place does what an edit does, if it changes every container as the edit does. -/
theorem changeAt_eq_edit {enter : Value → String → Option (Value × Except PathFault α)}
    {change : Value → String → Except PathFault (Value × α)} (root : Value)
    (hl : path.length < Word.count)
    (hchange : 0 < path.length → ∀ container key, enter container key =
      some (carriedOut PathFault.below^[path.length - 1] container (change container key))) :
    root.changeAt enter path =
      some (carriedOut (PathFault.report path) root (edit change root path)) := by
  cases path using List.reverseRecOn with
  | nil => rfl
  | append_singleton parent key =>
    rw [List.length_append, List.length_singleton, Nat.add_sub_cancel] at hchange
    rw [List.length_append, List.length_singleton] at hl
    rw [changeAt, approach_append_singleton root key (by omega), edit_append_singleton,
      Option.bind_some]
    cases hp : root.locate parent with
    | error fault => rfl
    | ok place? =>
      cases place? with
      | none => rfl
      | some place =>
        dsimp only
        rw [hchange (Nat.succ_pos _), Option.map_some]
        cases change place.content key with
        | error fault =>
          simp only [carriedOut, (lawful_of_locate hp).put_content, Except.mapError]
        | ok changed => rfl

/-- A removal from a container never leaves the words, and does what `removeChild` says. -/
theorem removeEntry_eq {length : Nat} (hl : 0 < length) (container : Value) (key : String) :
    removeEntry length container key =
      some (carriedOut PathFault.below^[length - 1] container (removeChild container key)) := by
  have hdepth : Word.sub? length 1 = some (length - 1) := Word.sub?_of_le hl
  cases container with
  | object entries => rfl
  | array items =>
    rw [removeEntry, removeChild, Word.index?_eq_arrayIndex?]
    cases arrayIndex? key <;> rfl
  | _ =>
    simp [removeEntry, removeChild, carriedOut, hdepth, PathFault.below_iterate_notIndexable]

/-- A write in place does what `edit` says. -/
theorem put_eq_edit (root new : Value) (hl : path.length < Word.count) :
    root.put path new =
      some (carriedOut (PathFault.report path) root (edit (writeChild new) root path)) := by
  refine changeAt_eq_edit root hl fun hpos container key => ?_
  rw [writeEntry_eq hpos]
  cases writeChild new container key <;> rfl

/-- A removal in place does what `delete` says. -/
theorem remove_eq_delete (root : Value) (hl : path.length < Word.count) :
    root.remove path = some (carriedOut (PathFault.report path) root (root.delete path)) :=
  changeAt_eq_edit root hl fun hpos => removeEntry_eq hpos

end Changing

section Comparing

/-- A removal of an entry returns what the key leads to. -/
theorem map_snd_removeChild (container : Value) (key : String) :
    (removeChild container key).map Prod.snd = container.child key := by
  cases container with
  | array items =>
    rw [removeChild, child]
    cases arrayIndex? key <;> rfl
  | _ => rfl

/-- A removal at a path below the root returns what stands there. -/
theorem map_snd_delete (root : Value) (hne : path ≠ []) :
    (root.delete path).map Prod.snd = root.find path := by
  cases path using List.reverseRecOn with
  | nil => exact absurd rfl hne
  | append_singleton parent key =>
    rw [delete, edit_append_singleton, find_concat]
    cases root.locate parent with
    | error fault => rfl
    | ok place? =>
      cases place? with
      | none => rfl
      | some place =>
        dsimp only
        rw [← map_snd_removeChild]
        cases removeChild place.content key <;> rfl

/-- Where a key leads to something, a write gives it another value. -/
theorem writeChild_of_child (hc : container.child key = .ok (some inner)) :
    writeChild new container key = .ok (container.putChild key new, ()) := by
  cases container with
  | object entries => rfl
  | array items =>
    simp only [child, Except.ok.injEq, Option.bind_eq_some_iff] at hc
    obtain ⟨i, hi, hinner⟩ := hc
    obtain ⟨hlt, _⟩ := List.getElem?_eq_some_iff.mp hinner
    simp only [writeChild, putChild, hi, if_pos hlt]
  | null => cases hc
  | bool _ => cases hc
  | number _ => cases hc
  | string _ => cases hc

/-- A value without keys refuses a write as it refuses a reader. -/
theorem writeChild_of_child_error (hc : container.child key = .error fault) :
    writeChild new container key = .error fault := by
  obtain rfl := eq_of_child_error hc
  cases container with
  | object entries => cases hc
  | array items => cases hc
  | null => rfl
  | bool _ => rfl
  | number _ => rfl
  | string _ => rfl

/-- An array refuses a write exactly if it has no slot for the key. -/
theorem writeChild_array_error_iff :
    (∃ fault, writeChild new (.array items) key = .error fault) ↔ NoSlot items.length key := by
  rw [writeChild]
  cases hi : arrayIndex? key with
  | none => exact iff_of_true ⟨_, rfl⟩ (.noIndex (arrayIndex?_eq_none_iff.mp hi))
  | some i =>
    obtain ⟨hword, hdigits⟩ := arrayIndex?_eq_some_iff.mp hi
    have hslot : NoSlot items.length key ↔ items.length + maxArrayGap < i := by
      refine ⟨fun h => ?_, .tooFar hword hdigits⟩
      cases h with
      | noIndex h => exact absurd hdigits (h i hword)
      | tooFar hj hk hfar =>
        have hsame := arrayIndex?_eq_some_iff.mpr ⟨hj, hk⟩
        exact Option.some.inj (hi.symm.trans hsame) ▸ hfar
    rw [hslot]
    dsimp only
    split
    next => exact iff_of_false (by simp) (by omega)
    next =>
      split
      next => exact iff_of_false (by simp) (by omega)
      next => exact iff_of_true ⟨_, rfl⟩ (by omega)

end Comparing

section Agreeing

variable {found : Option Value}

/-- A path resolves exactly if a reader is not stopped on the way. -/
theorem resolves_iff : root.resolves path = true ↔ ∃ found, root.find path = .ok found := by
  cases path using List.reverseRecOn with
  | nil => exact iff_of_true rfl ⟨_, rfl⟩
  | append_singleton parent key =>
    rw [resolves, KeyPath.splitLast?_append_singleton, find_concat]
    dsimp only
    rw [find_eq_locate]
    cases root.locate parent with
    | error fault => simp [Except.map]
    | ok place? =>
      cases place? with
      | none => simp [Except.map]
      | some place =>
        obtain ⟨content, put⟩ := place
        cases content <;> simp [Except.map, child, Except.mapError]

/-- What stops a reader stops a write. -/
theorem edit_writeChild_of_find_error (hne : path ≠ []) (hf : root.find path = .error fault) :
    edit (writeChild new) root path = .error fault := by
  cases path using List.reverseRecOn with
  | nil => exact absurd rfl hne
  | append_singleton parent key =>
    rw [find_concat] at hf
    rw [edit_append_singleton]
    cases hp : root.locate parent with
    | error stopped =>
      rw [hp] at hf
      obtain rfl := Except.error.inj hf
      rfl
    | ok place? =>
      rw [hp] at hf
      cases place? with
      | none =>
        obtain rfl := Except.error.inj hf
        rfl
      | some place =>
        dsimp only at hf ⊢
        cases hc : place.content.child key with
        | error stopped =>
          rw [hc] at hf
          obtain rfl := Except.error.inj hf
          rw [writeChild_of_child_error hc]
        | ok found =>
          rw [hc] at hf
          cases hf

/-- Where a reader comes through, only an array without a slot for the last key refuses a write. -/
theorem edit_writeChild_error_iff (hne : path ≠ []) (hf : root.find path = .ok found) :
    (∃ fault, edit (writeChild new) root path = .error fault) ↔
      ∃ parent key items, path = parent ++ [key] ∧ root.find parent = .ok (some (.array items)) ∧
        NoSlot items.length key := by
  cases path using List.reverseRecOn with
  | nil => exact absurd rfl hne
  | append_singleton parent key =>
    have hlast : (∃ parent' key' items, parent ++ [key] = parent' ++ [key'] ∧
          root.find parent' = .ok (some (.array items)) ∧ NoSlot items.length key') ↔
        ∃ items, root.find parent = .ok (some (.array items)) ∧ NoSlot items.length key := by
      constructor
      · rintro ⟨parent', key', items, he, h⟩
        obtain ⟨rfl, hkey⟩ := List.append_inj' he rfl
        obtain rfl := List.singleton_inj.mp hkey
        exact ⟨items, h⟩
      · rintro ⟨items, h⟩
        exact ⟨parent, key, items, rfl, h⟩
    rw [find_concat] at hf
    rw [hlast, edit_append_singleton, find_eq_locate]
    cases hp : root.locate parent with
    | error stopped =>
      rw [hp] at hf
      cases hf
    | ok place? =>
      rw [hp] at hf
      cases place? with
      | none => cases hf
      | some place =>
        obtain ⟨content, put⟩ := place
        dsimp only at hf ⊢
        cases content with
        | object entries => simp [writeChild, Except.map]
        | array items =>
          have hslot := @writeChild_array_error_iff new items key
          simp only [Except.map, Option.map_some, Except.ok.injEq, Option.some.injEq,
            Value.array.injEq, exists_eq_left', ← hslot]
          cases writeChild new (.array items) key <;> simp
        | null => cases hf
        | bool _ => cases hf
        | number _ => cases hf
        | string _ => cases hf

/-- Whoever overwrites a place has written at its path. -/
theorem edit_writeChild_of_locate (hne : path ≠ []) (h : root.locate path = .ok (some place)) :
    edit (writeChild new) root path = .ok (place.put new, ()) := by
  cases path using List.reverseRecOn with
  | nil => exact absurd rfl hne
  | append_singleton parent key =>
    obtain ⟨outer, ho, hc, hput⟩ := locate_concat h
    rw [edit_append_singleton, ho]
    dsimp only
    rw [writeChild_of_child hc, hput]

/-- How the operations at a path compare with what a reader finds there. -/
structure WalksAgree (root : Value) (path : KeyPath) : Prop where
  /-- A writer finds the place of what a reader finds, or nothing, or is stopped with the same
  report. -/
  place : ∃ place?, root.pointTo path = some place? ∧
    place?.map (Option.map Place.content) = root.lookUp path
  /-- The path resolves exactly if the reader is not stopped. -/
  probe : root.resolves path = true ↔ ∃ found, root.lookUp path = .ok found
  /-- A removal below the root returns what the reader finds, or is stopped with the same report. -/
  remove : path ≠ [] → ∃ after, root.remove path = some (after, root.lookUp path)
  /-- A write below the root is stopped with the reader's report, and then nothing is changed. -/
  stopped : path ≠ [] → ∀ report, root.lookUp path = .error report →
    ∀ new, root.put path new = some (root, .error report)
  /-- If the reader is not stopped, only an array without a slot for the last key refuses a
  write. -/
  refused : path ≠ [] → ∀ found, root.lookUp path = .ok found →
    ∀ new, ∃ after outcome, root.put path new = some (after, outcome) ∧
      ((∃ report, outcome = .error report) ↔ ∃ parent key items, path = parent ++ [key] ∧
        root.lookUp parent = .ok (some (.array items)) ∧ NoSlot items.length key)
  /-- Whoever overwrites the place that the writer finds has written at the path. -/
  overwritten : path ≠ [] → ∀ place, root.pointTo path = some (.ok (some place)) →
    ∀ new, root.put path new = some (place.put new, .ok ())
  /-- The root is neither removed nor written by its key. -/
  whole : path = [] → ∀ new,
    root.put path new = some (root, .error (PathFault.rootHasNoKey.report path)) ∧
    root.remove path = some (root, .error (PathFault.rootHasNoKey.report path))

/-- All operations on paths agree on what can be reached, for every value and every path whose
length is a word. -/
theorem walks_agree (root : Value) (path : KeyPath) (hl : path.length < Word.count) :
    WalksAgree root path where
  place := by
    refine ⟨_, pointTo_eq_locate root hl, ?_⟩
    rw [lookUp_eq_find, find_eq_locate]
    cases root.locate path <;> rfl
  probe := by
    rw [resolves_iff]
    simp only [lookUp_eq_find, mapError_eq_ok_iff]
  remove hne := by
    rw [remove_eq_delete root hl, lookUp_eq_find, ← map_snd_delete root hne]
    cases root.delete path with
    | error fault => exact ⟨_, rfl⟩
    | ok removed => exact ⟨_, rfl⟩
  stopped hne report h new := by
    rw [lookUp_eq_find] at h
    cases hf : root.find path with
    | error fault =>
      rw [hf] at h
      obtain rfl := Except.error.inj h
      rw [put_eq_edit root new hl, edit_writeChild_of_find_error hne hf, carriedOut]
    | ok found =>
      rw [hf] at h
      cases h
  refused hne found h new := by
    rw [lookUp_eq_find, mapError_eq_ok_iff] at h
    refine ⟨_, _, put_eq_edit root new hl, ?_⟩
    simp only [lookUp_eq_find, mapError_eq_ok_iff]
    rw [← edit_writeChild_error_iff hne h]
    cases edit (writeChild new) root path <;> simp
  overwritten hne place h new := by
    rw [pointTo_eq_locate root hl] at h
    have hp := mapError_eq_ok_iff.mp (Option.some.inj h)
    rw [put_eq_edit root new hl, edit_writeChild_of_locate hne hp, carriedOut]
  whole he new := by
    subst he
    exact ⟨rfl, rfl⟩

/-- Behind a missing item of an array every walk makes the same report, with the way to the item. -/
theorem walks_agree_behind_missing_item :
    ∃ (root : Value) (path : KeyPath) (report : PathReport), path.length < Word.count ∧
      WalksAgree root path ∧ root.lookUp path = .error report ∧
      report.message = "invalid path 'tags.3.x': 'tags.3' does not exist" ∧
      root.pointTo path = some (.error report) ∧
      root.put path .null = some (root, .error report) ∧
      ∃ after, root.remove path = some (after, .error report) := by
  let root : Value := .object [("tags", .array [.null, .object []])]
  let report : PathReport := (PathFault.missing 2).report ["tags", "3", "x"]
  have hword : ["tags", "3", "x"].length < Word.count := by decide
  have hagree := walks_agree root ["tags", "3", "x"] hword
  have hlook : root.lookUp ["tags", "3", "x"] = .error report := rfl
  obtain ⟨place?, hpoint, hplace⟩ := hagree.place
  have hstopped : place? = .error report := by
    rw [hlook] at hplace
    cases place? with
    | error other => exact congrArg _ (Except.error.inj hplace)
    | ok place? => cases hplace
  have hne : ["tags", "3", "x"] ≠ [] := List.cons_ne_nil _ _
  exact ⟨root, _, report, hword, hagree, hlook, by decide +kernel, hstopped ▸ hpoint,
    hagree.stopped hne report hlook .null, hlook ▸ hagree.remove hne⟩

end Agreeing

end Value

end ValidatedStore
