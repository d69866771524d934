import ValidatedStore.Proofs.Value.Walking

/-!
# Writes at several places

Writing what is there already leaves a value as it is. Of two writes at one place the last one wins,
also where the first one made an array longer. Writes at places apart can be made in either order:
the two walks go together until their keys differ, and from there on they lead to different entries
of one container, which keeps its keys in order whichever entry is written first.
-/

namespace ValidatedStore

namespace Value

variable {root container changed inner : Value} {key : String} {parent path other rest : KeyPath}
  {place beside : Place}

section Locating

/-- A place below a key is inside what the key leads to. -/
theorem exists_inside_of_locate (h : container.locate (key :: rest) = .ok (some place)) :
    ∃ inner inside, container.child key = .ok (some inner) ∧
      inner.locate rest = .ok (some inside) ∧ place = inside.inside container key := by
  rw [locate] at h
  split at h
  next => cases h
  next => split at h <;> cases h
  next inner hc =>
    split at h
    next => cases h
    next => cases h
    next inside hinside =>
      exact ⟨inner, inside, hc, hinside, (Option.some.inj (Except.ok.inj h)).symm⟩

/-- A place inside what a key leads to is a place below the key. -/
theorem locate_inside (hc : container.child key = .ok (some inner))
    (h : inner.locate rest = .ok (some place)) :
    container.locate (key :: rest) = .ok (some (place.inside container key)) := by
  rw [locate, hc]
  dsimp only
  rw [h]
  rfl

/-- Of two places apart, each is still found after the other was overwritten, and it makes no
difference which of them was overwritten first. -/
theorem exists_locate_apart (hp : root.locate path = .ok (some place))
    (ho : root.locate other = .ok (some beside)) (ha : path.Apart other) (first second : Value) :
    ∃ beside' place', (place.put first).locate other = .ok (some beside') ∧
      (beside.put second).locate path = .ok (some place') ∧
      beside'.put second = place'.put first := by
  induction path generalizing root other place beside with
  | nil => exact absurd ha KeyPath.not_apart_nil
  | cons key rest ih =>
    cases other with
    | nil => exact absurd ha.symm KeyPath.not_apart_nil
    | cons next others =>
      obtain ⟨inner, inside, hc, hinside, rfl⟩ := exists_inside_of_locate hp
      obtain ⟨inner', inside', hc', hinside', rfl⟩ := exists_inside_of_locate ho
      by_cases hkey : key = next
      · -- The walks go on together inside what the key leads to.
        subst hkey
        obtain rfl : inner = inner' := by simpa [hc] using hc'
        obtain ⟨below', below, hbelow', hbelow, heq⟩ :=
          ih hinside hinside' (KeyPath.apart_cons_self.mp ha)
        refine ⟨_, _, locate_inside (child_putChild_self hc _) hbelow',
          locate_inside (child_putChild_self hc _) hbelow, ?_⟩
        simp only [Place.inside, putChild_putChild, heq]
      · -- The walks part here, and each finds its key as it was.
        refine ⟨_, _,
          locate_inside ((child_putChild_of_ne hkey _).trans hc') hinside',
          locate_inside ((child_putChild_of_ne (Ne.symm hkey) _).trans hc) hinside, ?_⟩
        exact putChild_comm hkey hc _ _

end Locating

section Writing

/-- Of two writes of one entry, only the second remains. -/
theorem writeChild_writeChild {old : Value} {done : Unit}
    (h : writeChild old container key = .ok (changed, done)) (new : Value) :
    ∃ after, writeChild new container key = .ok (after, ()) ∧
      writeChild new changed key = .ok (after, ()) := by
  cases container with
  | object entries =>
    cases h
    exact ⟨_, rfl, by rw [writeChild, Fields.insert_insert]⟩
  | array items =>
    rw [writeChild] at h ⊢
    cases hi : arrayIndex? key with
    | none =>
      rw [hi] at h
      cases h
    | some i =>
      rw [hi] at h
      dsimp only at h ⊢
      by_cases hlt : i < items.length
      · rw [if_pos hlt] at h ⊢
        cases h
        exact ⟨_, rfl, by simp [writeChild, hi, hlt]⟩
      · rw [if_neg hlt] at h ⊢
        by_cases hgap : i - items.length ≤ maxArrayGap
        · rw [if_pos hgap] at h ⊢
          cases h
          have hfront : (items ++ List.replicate (i - items.length) Value.null).length = i := by
            rw [List.length_append, List.length_replicate]
            omega
          have hlonger : i < (items ++ List.replicate (i - items.length) Value.null ++
              [old]).length := by
            rw [List.length_append, hfront, List.length_singleton]
            omega
          refine ⟨_, rfl, ?_⟩
          rw [writeChild, hi]
          dsimp only
          rw [if_pos hlonger, List.set_append_right i new (Nat.le_of_eq hfront), hfront,
            Nat.sub_self, List.set_cons_zero]
        · rw [if_neg hgap] at h
          cases h
  | null => cases h
  | bool _ => cases h
  | number _ => cases h
  | string _ => cases h

/-- A write that is carried out finds the container of the last key and writes an entry of it. -/
theorem exists_written_of_edit {new after : Value} {done : Unit}
    (h : edit (writeChild new) root (parent ++ [key]) = .ok (after, done)) :
    ∃ place changed, root.locate parent = .ok (some place) ∧
      writeChild new place.content key = .ok (changed, ()) ∧ after = place.put changed := by
  rw [edit_append_singleton] at h
  split at h
  next => cases h
  next => cases h
  next place hp =>
    split at h
    next => cases h
    next changed result hw =>
      obtain ⟨rfl, -⟩ := Prod.mk.inj (Except.ok.inj h)
      exact ⟨place, changed, hp, hw, rfl⟩

/-- The second of two writes at one path is carried out as if there had been no other. -/
theorem edit_writeChild_twice {old written : Value} {done : Unit}
    (h : edit (writeChild old) root path = .ok (written, done)) (new : Value) :
    ∃ after, edit (writeChild new) root path = .ok (after, ()) ∧
      edit (writeChild new) written path = .ok (after, ()) := by
  cases path using List.reverseRecOn with
  | nil => cases h
  | append_singleton parent key =>
    obtain ⟨place, changed, hp, hw, rfl⟩ := exists_written_of_edit h
    obtain ⟨after, hdirect, hagain⟩ := writeChild_writeChild hw new
    refine ⟨place.put after, ?_, ?_⟩
    · rw [edit_append_singleton, hp]
      dsimp only
      rw [hdirect]
    · -- The walk finds the same place again, with the entry in it that was written first.
      rw [edit_append_singleton, locate_put hp]
      dsimp only
      rw [hagain]

end Writing

section Putting

variable {new after : Value}

/-- A write in place is carried out exactly if the edit is. -/
theorem put_eq_ok_iff (hl : path.length < Word.count) :
    root.put path new = some (after, .ok ()) ↔
      edit (writeChild new) root path = .ok (after, ()) := by
  rw [put_eq_edit root new hl]
  cases edit (writeChild new) root path with
  | error fault => simp [carriedOut]
  | ok written => simp [carriedOut, Prod.ext_iff]

/-- A write where something is found overwrites the place. -/
theorem put_of_locate (hne : path ≠ []) (hl : path.length < Word.count)
    (h : root.locate path = .ok (some place)) (new : Value) :
    root.put path new = some (place.put new, .ok ()) :=
  (put_eq_ok_iff hl).mpr (edit_writeChild_of_locate hne h)

/-- The laws of writes at a path of a value. -/
structure LawfulWrites (root : Value) (path : KeyPath) : Prop where
  /-- Writing back what is found there changes nothing, the order of keys included. -/
  same : ∀ found, root.lookUp path = .ok (some found) →
    root.put path found = some (root, .ok ())
  /-- The last write wins: after a first one it succeeds, and comes to the same as alone. -/
  last : ∀ old written, root.put path old = some (written, .ok ()) →
    ∀ new, ∃ after, root.put path new = some (after, .ok ()) ∧
      written.put path new = some (after, .ok ())
  /-- Where something is found at the path and at one apart from it, writes at both succeed in
  either order, and come to one value, the order of keys included. -/
  exchange : ∀ other, other.length < Word.count → path.Apart other →
    ∀ found beside, root.lookUp path = .ok (some found) → root.lookUp other = .ok (some beside) →
    ∀ first second, ∃ once once' after,
      root.put path first = some (once, .ok ()) ∧ once.put other second = some (after, .ok ()) ∧
      root.put other second = some (once', .ok ()) ∧ once'.put path first = some (after, .ok ())

/-- Writes below the root obey the laws of independent places, for every value and every path whose
length is a word. -/
theorem lawful_writes (root : Value) (path : KeyPath) (hne : path ≠ [])
    (hl : path.length < Word.count) : LawfulWrites root path where
  same found hf := by
    obtain ⟨place, hp, rfl⟩ := exists_place_of_find (lookUp_eq_ok_iff.mp hf)
    rw [put_of_locate hne hl hp, (lawful_of_locate hp).put_content]
  last old written hw new := by
    obtain ⟨after, hdirect, hagain⟩ := edit_writeChild_twice ((put_eq_ok_iff hl).mp hw) new
    exact ⟨after, (put_eq_ok_iff hl).mpr hdirect, (put_eq_ok_iff hl).mpr hagain⟩
  exchange other hlo ha found beside hf hb first second := by
    have hno : other ≠ [] := by
      rintro rfl
      exact KeyPath.not_apart_nil ha.symm
    obtain ⟨place, hp, -⟩ := exists_place_of_find (lookUp_eq_ok_iff.mp hf)
    obtain ⟨placeBeside, ho, -⟩ := exists_place_of_find (lookUp_eq_ok_iff.mp hb)
    obtain ⟨beside', place', hbeside', hplace', heq⟩ := exists_locate_apart hp ho ha first second
    refine ⟨_, _, _, put_of_locate hne hl hp first, put_of_locate hno hlo hbeside' second,
      put_of_locate hno hlo ho second, ?_⟩
    rw [heq]
    exact put_of_locate hne hl hplace' first

/-- A write past the end of an array is overwritten as if it had not been there, and a write to the
array can be exchanged with one to the field beside it. -/
theorem lawful_writes_of_gap :
    ∃ root written after : Value, ["tags", "3"] ≠ [] ∧ ["tags", "3"].length < Word.count ∧
      LawfulWrites root ["tags", "3"] ∧
      root.put ["tags", "3"] (.bool false) = some (written, .ok ()) ∧
      root.put ["tags", "3"] .null = some (after, .ok ()) ∧
      written.put ["tags", "3"] .null = some (after, .ok ()) ∧
      after.lookUp ["tags"] = .ok (some (.array [.bool true, .null, .null, .null])) ∧
      ["tags", "0"] ≠ [] ∧ ["tags", "0"].length < Word.count ∧ ["name"].length < Word.count ∧
      KeyPath.Apart ["tags", "0"] ["name"] ∧
      ∃ once once' both, root.put ["tags", "0"] .null = some (once, .ok ()) ∧
        once.put ["name"] (.string "desk") = some (both, .ok ()) ∧
        root.put ["name"] (.string "desk") = some (once', .ok ()) ∧
        once'.put ["tags", "0"] .null = some (both, .ok ()) := by
  let root : Value := .object [("name", .null), ("tags", .array [.bool true])]
  have hne : ["tags", "3"] ≠ [] := List.cons_ne_nil _ _
  have hl : ["tags", "3"].length < Word.count := by decide
  have hne' : ["tags", "0"] ≠ [] := List.cons_ne_nil _ _
  have hl' : ["tags", "0"].length < Word.count := by decide
  have hname : ["name"].length < Word.count := by decide
  have hapart : KeyPath.Apart ["tags", "0"] ["name"] := KeyPath.apart_cons_of_ne (by decide)
  have hlaws := lawful_writes root ["tags", "3"] hne hl
  have hold : root.put ["tags", "3"] (.bool false) = some (.object [("name", .null),
      ("tags", .array [.bool true, .null, .null, .bool false])], .ok ()) := rfl
  have hnew : root.put ["tags", "3"] .null = some (.object [("name", .null),
      ("tags", .array [.bool true, .null, .null, .null])], .ok ()) := rfl
  obtain ⟨after, hdirect, hagain⟩ := hlaws.last _ _ hold .null
  obtain rfl := (Prod.mk.inj (Option.some.inj (hnew.symm.trans hdirect))).1
  exact ⟨root, _, _, hne, hl, hlaws, hold, hdirect, hagain, rfl, hne', hl', hname, hapart,
    (lawful_writes root ["tags", "0"] hne' hl').exchange ["name"] hname hapart (.bool true) .null
      rfl rfl .null (.string "desk")⟩

end Putting

end Value

end ValidatedStore
