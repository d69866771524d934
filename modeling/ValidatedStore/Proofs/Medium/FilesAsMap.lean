import Mathlib.Data.List.Infix
import ValidatedStore.Medium.Memory
import ValidatedStore.Proofs.Medium.Files

/-!
# A directory as a map from keys to texts

Keys that may name a file have files of their own, all of them entries of the directory itself, and
none of them has the name of a temporary file. Each way in which a write can end keeps the directory
in order and, unless a removal fails, leaves no temporary file. Along any number of reads and writes
the texts are those that a medium in memory holds after the writes that succeeded. The inductions
are on the uses of the medium.
-/

namespace ValidatedStore

section Names

variable {key : String}

theorem hasDoublePoint_iff (cs : List Char) : hasDoublePoint cs = true ↔ ['.', '.'] <:+: cs := by
  fun_induction hasDoublePoint cs with
  | case1 rest => exact iff_of_true rfl ⟨[], rest, rfl⟩
  | case2 first rest hne ih =>
    rw [ih, List.infix_cons_iff]
    refine (or_iff_right ?_).symm
    intro hp
    obtain ⟨rfl, further, rfl⟩ := List.cons_prefix_cons.mp hp
    exact hne further rfl rfl
  | case3 => simp

/-- The keys that may not name a file: the empty one, a point alone, and those in which two points
follow each other or a character occurs that separates or ends paths. -/
def IsRefused (key : String) : Prop :=
  key = "" ∨ key = "." ∨ ['.', '.'] <:+: key.toList ∨
    '/' ∈ key.toList ∨ '\\' ∈ key.toList ∨ '\x00' ∈ key.toList

theorem isFileKey_eq_false_iff : isFileKey key = false ↔ IsRefused key := by
  rw [isFileKey, Bool.not_eq_false', IsRefused]
  simp only [Bool.or_eq_true, List.isEmpty_iff, String.toList_eq_nil_iff, beq_iff_eq,
    hasDoublePoint_iff, List.contains_iff_mem, or_assoc]

theorem isFileKey_iff : isFileKey key = true ↔ ¬IsRefused key := by
  rw [← isFileKey_eq_false_iff, Bool.not_eq_false]

/-- A name stands for an entry of the directory itself: as a path it has one part, which leads
nowhere else. -/
structure IsEntryName (name : String) : Prop where
  /-- There is a name. -/
  ne_empty : name ≠ ""
  /-- It does not stand for the directory itself. -/
  ne_point : name ≠ "."
  /-- It does not stand for the directory above. -/
  ne_points : name ≠ ".."
  /-- It is one part of a path. -/
  one_part : '/' ∉ name.toList ∧ '\\' ∉ name.toList
  /-- It can be used in a path. -/
  no_end : '\x00' ∉ name.toList

/-- A key that may name a file gives an entry, with anything behind it that neither separates nor
ends paths. -/
theorem isEntryName_append {rest : String} (hkey : ¬IsRefused key) (hlen : 2 < rest.length)
    (hrest : '/' ∉ rest.toList ∧ '\\' ∉ rest.toList ∧ '\x00' ∉ rest.toList) :
    IsEntryName (key ++ rest) := by
  simp only [IsRefused, not_or] at hkey
  obtain ⟨-, -, -, hslash, hback, hend⟩ := hkey
  have hlong : ∀ short : String, short.length ≤ 2 → key ++ rest ≠ short := by
    rintro short hs rfl
    rw [String.length_append] at hs
    omega
  refine ⟨hlong "" (by decide), hlong "." (by decide), hlong ".." (by decide), ⟨?_, ?_⟩, ?_⟩
  · simp [hslash, hrest.1]
  · simp [hback, hrest.2.1]
  · simp [hend, hrest.2.2]

theorem isEntryName_fileName (hkey : ¬IsRefused key) : IsEntryName (fileName key) :=
  isEntryName_append hkey (by decide) (by decide)

theorem not_mem_toDigits {c : Char} (hc : c.isDigit = false) (number : Nat) :
    c ∉ Nat.toDigits 10 number := by
  intro hm
  have hdigit := Nat.isDigit_of_mem_toDigits (by decide) (by decide) hm
  rw [hc] at hdigit
  cases hdigit

theorem isEntryName_temporaryName (hkey : ¬IsRefused key) (process count : Nat) :
    IsEntryName (temporaryName key process count) := by
  have hname : temporaryName key process count =
      key ++ (".json." ++ toString process ++ "." ++ toString count ++ ".tmp") := by
    simp only [temporaryName, String.append_assoc]
  have hjson : ".json.".length = 6 := rfl
  rw [hname]
  refine isEntryName_append hkey ?_ ?_
  · simp only [String.length_append]
    omega
  · simp [not_mem_toDigits]

end Names

namespace Directory

variable {directory : Directory} {name : String} {entry : DirectoryEntry}

/-- What holds of every directory: no name occurs twice, and none is longer than the file system
allows. -/
structure WellFormed (directory : Directory) : Prop where
  /-- No name occurs twice. -/
  distinct : Fields.Distinct directory
  /-- No name is too long. -/
  short : ∀ name ∈ Fields.names directory, name.utf8ByteSize ≤ maxNameBytes

theorem WellFormed.insert (h : directory.WellFormed) (hlen : name.utf8ByteSize ≤ maxNameBytes) :
    WellFormed (Fields.insert name entry directory) where
  distinct := h.distinct.insert
  short other hm := (Fields.mem_names_insert.mp hm).elim (fun he => he ▸ hlen) (h.short other)

theorem WellFormed.erase (h : directory.WellFormed) (name : String) :
    WellFormed (Fields.erase name directory) where
  distinct := h.distinct.erase
  short other hm := by
    rw [Fields.names_erase] at hm
    exact h.short other (List.mem_of_mem_erase hm)

/-- A file can be created where no directory stands. -/
theorem create_of_free (hlen : name.utf8ByteSize ≤ maxNameBytes)
    (hfree : Fields.find? name directory ≠ some .subdirectory) :
    directory.create name = .ok (Fields.insert name (.file ByteArray.empty) directory) := by
  rw [create, lookup_of_short hlen]
  cases hf : Fields.find? name directory with
  | none => rfl
  | some found =>
    cases found with
    | file => rfl
    | subdirectory => exact absurd hf hfree

/-- A file that is there can be renamed where no directory stands. -/
theorem rename_of_free {other : String} {bytes : ByteArray}
    (hname : name.utf8ByteSize ≤ maxNameBytes) (hother : other.utf8ByteSize ≤ maxNameBytes)
    (h : Fields.find? name directory = some (.file bytes))
    (hfree : Fields.find? other directory ≠ some .subdirectory) :
    directory.rename name other =
      .ok (Fields.insert other (.file bytes) (Fields.erase name directory)) := by
  rw [rename, readBytes_of_find? hname h, lookup_of_short hother]
  cases hf : Fields.find? other directory with
  | none => rfl
  | some found =>
    cases found with
    | file => rfl
    | subdirectory => exact absurd hf hfree

/-- A file that is there can be removed. -/
theorem remove_of_find? {bytes : ByteArray} (hlen : name.utf8ByteSize ≤ maxNameBytes)
    (h : Fields.find? name directory = some (.file bytes)) :
    directory.remove name = .ok (Fields.erase name directory) := by
  rw [remove, readBytes_of_find? hlen h]

end Directory

namespace FileMedium

variable {medium after : FileMedium} {mishaps : Mishaps} {directory : Directory}
  {key other name temporary target text : String} {result : Except StorageError Unit}

section Discarding

theorem discard_of_file {bytes : ByteArray} (hm : mishaps.remove = none)
    (hlen : temporary.utf8ByteSize ≤ maxNameBytes)
    (h : Fields.find? temporary directory = some (.file bytes)) :
    discard mishaps directory temporary = Fields.erase temporary directory := by
  rw [discard, hm, Directory.remove_of_find? hlen h]

theorem wellFormed_discard (h : directory.WellFormed) (mishaps : Mishaps) (temporary : String) :
    (discard mishaps directory temporary).WellFormed := by
  rcases discard_cases mishaps directory temporary with he | he
  · rwa [he]
  · rw [he]
    exact h.erase temporary

theorem mem_names_of_discard (hm : name ∈ Fields.names (discard mishaps directory temporary)) :
    name ∈ Fields.names directory := by
  rcases discard_cases mishaps directory temporary with he | he
  · rwa [he] at hm
  · rw [he, Fields.names_erase] at hm
    exact List.mem_of_mem_erase hm

/-- After an attempt to remove a file in which nothing goes wrong the file is not there. -/
theorem find?_discard_ne_file (h : directory.WellFormed) (hm : mishaps.remove = none)
    (bytes : ByteArray) :
    Fields.find? temporary (discard mishaps directory temporary) ≠ some (.file bytes) := by
  intro hfound
  rcases discard_cases mishaps directory temporary with he | he
  · rw [he] at hfound
    have hlen : temporary.utf8ByteSize ≤ maxNameBytes :=
      h.short _ (Fields.mem_names_of_mem (Fields.mem_of_find? hfound))
    have hgone : directory = Fields.erase temporary directory :=
      he.symm.trans (discard_of_file hm hlen hfound)
    rw [hgone, Fields.find?_erase_self h.distinct] at hfound
    cases hfound
  · rw [he, Fields.find?_erase_self h.distinct] at hfound
    cases hfound

end Discarding

section Succeeding

/-- A write to a directory succeeds, if nothing goes wrong and no directory stands in its way. -/
theorem exists_persist_of_free (hne : temporary ≠ target)
    (htemporary : temporary.utf8ByteSize ≤ maxNameBytes)
    (htarget : target.utf8ByteSize ≤ maxNameBytes)
    (hfree : ∀ name, name = temporary ∨ name = target →
      Fields.find? name directory ≠ some .subdirectory) :
    ∃ reached, persist {} directory temporary target text = (.ok (), reached) := by
  have hcreate := Directory.create_of_free htemporary (hfree temporary (.inl rfl))
  have hfill : Directory.fill (Fields.insert temporary (.file ByteArray.empty) directory) temporary
      text.toUTF8 = Fields.insert temporary (.file text.toUTF8) directory :=
    Fields.insert_insert _ _
  have hfilled : Fields.find? temporary (Fields.insert temporary (.file text.toUTF8) directory) =
      some (.file text.toUTF8) := Fields.find?_insert_self
  have hrename := Directory.rename_of_free htemporary htarget hfilled
    ((Fields.find?_insert_of_ne hne).trans_ne (hfree target (.inr rfl)))
  rw [persist, hcreate]
  dsimp only
  rw [hfill, hrename]
  exact ⟨_, rfl⟩

/-- A write under a key that may name a file succeeds, if nothing goes wrong, no directory stands in
its way, and the path and the name of its temporary file are not too long. -/
theorem exists_writeWith_of_free (hkey : ¬IsRefused key)
    (hreach : medium.refusal? (medium.nextTemporary key) = none)
    (hshort : (medium.nextTemporary key).utf8ByteSize ≤ maxNameBytes)
    (hfree : ∀ name, name = medium.nextTemporary key ∨ name = fileName key →
      Fields.find? name medium.directory ≠ some .subdirectory) :
    ∃ after, medium.writeWith {} key text = (.ok (), after) := by
  have htarget : (fileName key).utf8ByteSize ≤ maxNameBytes := by
    obtain ⟨rest, hname⟩ := exists_temporaryName_eq key medium.process medium.writes
    rw [nextTemporary, hname, String.utf8ByteSize_append] at hshort
    omega
  have hne : medium.nextTemporary key ≠ fileName key := (fileName_ne_temporaryName _ _ _ _).symm
  obtain ⟨reached, hp⟩ : ∃ reached, persist {} medium.directory (medium.nextTemporary key)
      (fileName key) text = (.ok (), reached) := exists_persist_of_free hne hshort htarget hfree
  rw [nextTemporary] at hreach hp
  rw [writeWith, if_pos (isFileKey_iff.mpr hkey)]
  dsimp only
  have hnone : ((none : Option IoCause) <|> none) = none := rfl
  rw [hreach, hnone, hp]
  exact ⟨_, rfl⟩

end Succeeding

section Effects

variable {ended : Except IoCause Unit} {reached : Directory}

theorem Persisted.wellFormed
    (h : Persisted mishaps directory temporary target text (ended, reached))
    (hd : directory.WellFormed) : reached.WellFormed := by
  cases h with
  | refused => exact hd
  | stopped _ _ _ htemporary => exact hd.insert htemporary
  | renamed _ htemporary htarget => exact ((hd.insert htemporary).erase _).insert htarget

/-- A write that succeeds adds the name of its target at most. -/
theorem Persisted.names_of_ok
    (h : Persisted mishaps directory temporary target text (.ok (), reached))
    (hm : name ∈ Fields.names reached) : name ∈ Fields.names directory ∨ name = target := by
  cases h with
  | renamed => exact (Fields.mem_names_insert.mp hm).symm.imp_left Fields.mem_names_of_erase_insert

/-- A write that fails adds no name, if it writes nothing or its temporary file can be removed. -/
theorem Persisted.names_of_error {cause : IoCause}
    (h : Persisted mishaps directory temporary target text (.error cause, reached))
    (hremove : mishaps.create = none → mishaps.remove = none)
    (hm : name ∈ Fields.names (discard mishaps reached temporary)) :
    name ∈ Fields.names directory := by
  cases h with
  | refused => exact mem_names_of_discard hm
  | stopped _ _ hcreate htemporary =>
    rw [discard_of_file (hremove hcreate) htemporary Fields.find?_insert_self] at hm
    exact Fields.mem_names_of_erase_insert hm

theorem Written.place (h : Written medium mishaps key text (result, after)) :
    after.path = medium.path ∧ after.location = medium.location := by
  cases h <;> exact ⟨rfl, rfl⟩

theorem Written.wellFormed (h : Written medium mishaps key text (result, after))
    (hd : medium.directory.WellFormed) : after.directory.WellFormed := by
  cases h with
  | invalid => exact hd
  | failed _ h => exact wellFormed_discard (h.wellFormed hd) _ _
  | landed _ h => exact h.wellFormed hd

/-- A write adds the name of the key's file to the directory, if it succeeds, and else no name,
unless its temporary file cannot be removed. -/
theorem Written.names (h : Written medium mishaps key text (result, after))
    (hremove : mishaps.remove = none) (hm : name ∈ Fields.names after.directory) :
    name ∈ Fields.names medium.directory ∨ result = .ok () ∧ name = fileName key := by
  cases h with
  | invalid => exact .inl hm
  | landed _ h => exact (h.names_of_ok hm).imp_right fun he => ⟨rfl, he⟩
  | failed _ h =>
    have hunreached : (medium.mishapsAt mishaps key).create = none →
        (medium.mishapsAt mishaps key).remove = none := fun hcreate =>
      remove_mishapsAt_eq_none_iff.mpr ⟨hremove, (create_mishapsAt_eq_none_iff.mp hcreate).2⟩
    exact .inl (h.names_of_error hunreached hm)

/-- A write touches two names of the directory at most. -/
theorem Written.find?_eq (h : Written medium mishaps key text (result, after))
    (htarget : fileName key ≠ name) (htemporary : medium.nextTemporary key ≠ name) :
    Fields.find? name after.directory = Fields.find? name medium.directory := by
  cases h with
  | invalid => rfl
  | failed _ h => exact (find?_discard htemporary).trans (h.find?_of_error htemporary)
  | landed _ h => exact h.find?_of_ok htemporary htarget

/-- After a write there is no temporary file for it, unless it cannot be removed. -/
theorem Written.cleared (h : Written medium mishaps key text (result, after))
    (hkey : ¬IsRefused key) (hd : medium.directory.WellFormed)
    (hreach : medium.refusal? (medium.nextTemporary key) = none)
    (hremove : result = .ok () ∨ mishaps.remove = none) (bytes : ByteArray) :
    Fields.find? (medium.nextTemporary key) after.directory ≠ some (.file bytes) := by
  cases h with
  | invalid hrefused => exact absurd (isFileKey_eq_false_iff.mp hrefused) hkey
  | failed _ h =>
    have hnone : mishaps.remove = none := hremove.resolve_left (by simp)
    exact find?_discard_ne_file (h.wellFormed hd)
      (remove_mishapsAt_eq_none_iff.mpr ⟨hnone, hreach⟩) bytes
  | landed _ h =>
    cases h with
    | renamed _ htemporary =>
      have hne : fileName key ≠ medium.nextTemporary key := fileName_ne_temporaryName _ _ _ _
      rw [Fields.find?_insert_of_ne hne, Fields.find?_erase_self (hd.insert htemporary).distinct]
      exact Option.some_ne_none _ |>.symm

end Effects

end FileMedium

/-- The medium in memory after texts were written one after another. -/
def Memory.writeAll (memory : Memory) (writes : List (String × String)) : Memory :=
  writes.foldl (fun memory entry => memory.write entry.1 entry.2) memory

/-- A text written under a key is read there, and nowhere else. -/
theorem Memory.read_write (memory : Memory) (key other text : String) :
    (memory.write key text).read other = if key = other then some text else memory.read other :=
  Fields.find?_insert key other text memory.entries

/-- One use of a medium in a directory. -/
inductive FileUse
  /-- A text is read. -/
  | read (key : String)
  /-- A text is written, with mishaps on the way. -/
  | write (mishaps : Mishaps) (key text : String)

namespace FileMedium

variable {medium : FileMedium} {memory : Memory} {mishaps : Mishaps} {use : FileUse}
  {uses : List FileUse} {key name text : String}

section Uses

/-- The medium after one use. -/
def afterUse (medium : FileMedium) : FileUse → FileMedium
  | .read _ => medium
  | .write mishaps key text => (medium.writeWith mishaps key text).2

/-- The key and the text that a use writes, if it is a write and succeeds. -/
def landing (medium : FileMedium) : FileUse → Option (String × String)
  | .read _ => none
  | .write mishaps key text =>
    (medium.writeWith mishaps key text).1.toOption.map fun _ => (key, text)

/-- The medium after several uses. -/
def afterUses (medium : FileMedium) (uses : List FileUse) : FileMedium :=
  uses.foldl afterUse medium

/-- What the writes among several uses wrote, without those that failed. -/
def landings (medium : FileMedium) : List FileUse → List (String × String)
  | [] => []
  | use :: rest => (medium.landing use).toList ++ (medium.afterUse use).landings rest

theorem writeWith_of_landing {entry : String × String}
    (h : medium.landing (.write mishaps key text) = some entry) :
    entry = (key, text) ∧
      medium.writeWith mishaps key text = (.ok (), medium.afterUse (.write mishaps key text)) := by
  rw [landing] at h
  cases hr : (medium.writeWith mishaps key text).1 with
  | error cause =>
    rw [hr] at h
    cases h
  | ok done =>
    rw [hr] at h
    exact ⟨(Option.some.inj h).symm, Prod.ext hr rfl⟩

theorem writeWith_of_no_landing (h : medium.landing (.write mishaps key text) = none) :
    ∃ cause, medium.writeWith mishaps key text =
      (.error cause, medium.afterUse (.write mishaps key text)) := by
  rw [landing] at h
  cases hr : (medium.writeWith mishaps key text).1 with
  | error cause => exact ⟨cause, Prod.ext hr rfl⟩
  | ok done =>
    rw [hr] at h
    cases h

/-- What a use writes is read afterwards. -/
theorem read_of_landing (h : medium.landing use = some (key, text)) :
    (medium.afterUse use).read key = .ok (some text) := by
  cases use with
  | read => cases h
  | write mishaps first written =>
    obtain ⟨he, hw⟩ := writeWith_of_landing h
    obtain ⟨rfl, rfl⟩ := Prod.mk.inj he
    exact read_writeWith hw

/-- A use that writes nothing under a key changes nothing that is read there. -/
theorem read_of_other_landing (h : ∀ entry ∈ medium.landing use, entry.1 ≠ key) :
    (medium.afterUse use).read key = medium.read key := by
  cases use with
  | read => rfl
  | write mishaps first written =>
    cases hl : medium.landing (.write mishaps first written) with
    | none =>
      obtain ⟨cause, hw⟩ := writeWith_of_no_landing hl
      exact read_of_failed_write hw key
    | some entry =>
      obtain ⟨rfl, hw⟩ := writeWith_of_landing hl
      exact read_of_other_write hw (h _ hl).symm

theorem wellFormed_afterUse (hd : medium.directory.WellFormed) (use : FileUse) :
    (medium.afterUse use).directory.WellFormed := by
  cases use with
  | read => exact hd
  | write mishaps key text => exact (written_writeWith mishaps medium key text).wellFormed hd

theorem wellFormed_afterUses (hd : medium.directory.WellFormed) (uses : List FileUse) :
    (medium.afterUses uses).directory.WellFormed := by
  induction uses generalizing medium with
  | nil => exact hd
  | cons use rest ih => exact ih (wellFormed_afterUse hd use)

theorem place_afterUses (medium : FileMedium) (uses : List FileUse) :
    (medium.afterUses uses).path = medium.path ∧
      (medium.afterUses uses).location = medium.location := by
  induction uses generalizing medium with
  | nil => exact ⟨rfl, rfl⟩
  | cons use rest ih =>
    obtain ⟨hpath, hlocation⟩ := ih (medium.afterUse use)
    cases use with
    | read => exact ⟨hpath, hlocation⟩
    | write mishaps key text =>
      have hw := (written_writeWith mishaps medium key text).place
      exact ⟨hpath.trans hw.1, hlocation.trans hw.2⟩

/-- What is never written under a key leaves what is read there. -/
theorem read_of_other_landings (h : ∀ entry ∈ medium.landings uses, entry.1 ≠ key) :
    (medium.afterUses uses).read key = medium.read key := by
  induction uses generalizing medium with
  | nil => rfl
  | cons use rest ih =>
    obtain ⟨hfirst, hrest⟩ := List.forall_mem_append.mp h
    refine (ih hrest).trans (read_of_other_landing fun entry hm => hfirst entry ?_)
    exact Option.mem_toList.mpr hm

/-- Once the texts under a key agree with those in memory, they agree after every further use. -/
theorem read_afterUse (h : medium.read key = .ok (memory.read key)) (use : FileUse) :
    (medium.afterUse use).read key =
      .ok ((memory.writeAll (medium.landing use).toList).read key) := by
  cases hl : medium.landing use with
  | none =>
    rw [read_of_other_landing (by simp [hl]), h]
    rfl
  | some entry =>
    obtain ⟨first, text⟩ := entry
    have hmemory : (memory.writeAll [(first, text)]).read key =
        if first = key then some text else memory.read key := memory.read_write first key text
    rw [Option.toList_some, hmemory]
    by_cases hk : first = key
    · subst hk
      rw [read_of_landing hl, if_pos rfl]
    · rw [read_of_other_landing (by simpa [hl] using hk), h, if_neg hk]

/-- A text that was written under a key is read there, and so are the texts in memory from then on.
-/
theorem read_afterUses
    (h : medium.read key = .ok (memory.read key) ∨ ∃ entry ∈ medium.landings uses, entry.1 = key) :
    (medium.afterUses uses).read key =
      .ok ((memory.writeAll (medium.landings uses)).read key) := by
  induction uses generalizing medium memory with
  | nil =>
    rcases h with h | ⟨entry, hm, -⟩
    · exact h
    · cases hm
  | cons use rest ih =>
    have hsplit : memory.writeAll (medium.landings (use :: rest)) =
        (memory.writeAll (medium.landing use).toList).writeAll
          ((medium.afterUse use).landings rest) := List.foldl_append
    rw [hsplit]
    refine ih ?_
    rcases h with h | ⟨⟨first, text⟩, hm, rfl⟩
    · exact .inl (read_afterUse h use)
    · rcases List.mem_append.mp hm with hm | hm
      · have hl : medium.landing use = some (first, text) := Option.mem_toList.mp hm
        refine .inl ?_
        rw [read_of_landing hl, hl]
        exact congrArg Except.ok (memory.read_write first first text ▸ if_pos rfl).symm
      · exact .inr ⟨_, hm, rfl⟩

/-- If no temporary file fails to be removed, the directory has no new names but those of files that
were written. -/
theorem names_afterUses
    (hremove : ∀ mishaps key text, .write mishaps key text ∈ uses → mishaps.remove = none)
    (hm : name ∈ Fields.names (medium.afterUses uses).directory) :
    name ∈ Fields.names medium.directory ∨
      ∃ entry ∈ medium.landings uses, name = fileName entry.1 := by
  induction uses generalizing medium with
  | nil => exact .inl hm
  | cons use rest ih =>
    have hrest := ih (fun mishaps key text hu => hremove _ _ _ (List.mem_cons_of_mem _ hu)) hm
    rcases hrest with hm | ⟨entry, hentry, he⟩
    · cases use with
      | read => exact .inl hm
      | write mishaps key text =>
        have hnone := hremove mishaps key text List.mem_cons_self
        have hw : Written medium mishaps key text ((medium.writeWith mishaps key text).1,
            medium.afterUse (.write mishaps key text)) := written_writeWith mishaps medium key text
        rcases hw.names hnone hm with hm | ⟨hr, he⟩
        · exact .inl hm
        · have hl : medium.landing (.write mishaps key text) = some (key, text) := by
            rw [landing, hr]
            rfl
          exact .inr ⟨(key, text), List.mem_append_left _ (Option.mem_toList.mpr hl), he⟩
    · exact .inr ⟨entry, List.mem_append_right _ hentry, he⟩

/-- What a medium in a directory does with any key. -/
structure ActsAsMap (medium : FileMedium) : Prop where
  /-- A key that may not name a file is refused, and nothing is touched. -/
  refused : ∀ key, IsRefused key →
    medium.pathFor key = .error (.invalidKey key) ∧ medium.read key = .error (.invalidKey key) ∧
      ∀ mishaps text, medium.writeWith mishaps key text = (.error (.invalidKey key), medium)
  /-- The file of any other key stands in the directory itself, and so do its temporary files. -/
  file : ∀ key, ¬IsRefused key → medium.pathFor key = .ok (medium.pathOf (fileName key)) ∧
    IsEntryName (fileName key) ∧ ∀ process count, IsEntryName (temporaryName key process count)
  /-- What was written is read, and under the other keys what was read before. -/
  written : ∀ mishaps key text after, medium.writeWith mishaps key text = (.ok (), after) →
    after.read key = .ok (some text) ∧ ∀ other, other ≠ key → after.read other = medium.read other
  /-- After a write that failed everything is read as before. -/
  failed : ∀ mishaps key text cause after,
    medium.writeWith mishaps key text = (.error cause, after) →
    ∀ other, after.read other = medium.read other
  /-- A write leaves everything in the directory but the file of the key and the temporary file. -/
  beside : ∀ mishaps key text result after, medium.writeWith mishaps key text = (result, after) →
    ∀ name, fileName key ≠ name → medium.nextTemporary key ≠ name →
      Fields.find? name after.directory = Fields.find? name medium.directory
  /-- The temporary file of a write is gone, unless it cannot be removed. -/
  cleared : ∀ mishaps key text result after, medium.writeWith mishaps key text = (result, after) →
    ¬IsRefused key → medium.refusal? (medium.nextTemporary key) = none →
    result = .ok () ∨ mishaps.remove = none →
    ∀ bytes, Fields.find? (medium.nextTemporary key) after.directory ≠ some (.file bytes)

theorem actsAsMap_of_wellFormed (hd : medium.directory.WellFormed) : medium.ActsAsMap where
  refused key hkey := by
    have hno : ¬isFileKey key = true := fun h => isFileKey_iff.mp h hkey
    exact ⟨if_neg hno, if_neg hno, fun mishaps text => if_neg hno⟩
  file key hkey := ⟨if_pos (isFileKey_iff.mpr hkey), isEntryName_fileName hkey,
    isEntryName_temporaryName hkey⟩
  written _ _ _ _ h := ⟨read_writeWith h, fun _ hne => read_of_other_write h hne⟩
  failed _ _ _ _ _ h := read_of_failed_write h
  beside mishaps key text result after h name htarget htemporary := by
    have hw := written_writeWith mishaps medium key text
    rw [h] at hw
    exact hw.find?_eq htarget htemporary
  cleared mishaps key text result after h hkey hreach hremove := by
    have hw := written_writeWith mishaps medium key text
    rw [h] at hw
    exact hw.cleared hkey hd hreach hremove

/-- A medium in a directory is used, and a medium in memory takes the writes that succeeded. -/
structure MirrorsMemory (medium : FileMedium) (uses : List FileUse) : Prop where
  /-- The medium stays in its directory. -/
  place : (medium.afterUses uses).path = medium.path ∧
    (medium.afterUses uses).location = medium.location
  /-- What is read under a key is what memory holds, if it was so at first or the key was written.
  -/
  mirrored : ∀ (memory : Memory) key, medium.read key = .ok (memory.read key) ∨
      (∃ entry ∈ medium.landings uses, entry.1 = key) →
    (medium.afterUses uses).read key = .ok ((memory.writeAll (medium.landings uses)).read key)
  /-- Under a key that was not written, what was read before is read. -/
  kept : ∀ key, (∀ entry ∈ medium.landings uses, entry.1 ≠ key) →
    (medium.afterUses uses).read key = medium.read key
  /-- No other files are left than those of the keys that were written, unless a temporary file
  could not be removed. -/
  left : (∀ mishaps key text, .write mishaps key text ∈ uses → mishaps.remove = none) →
    ∀ name ∈ Fields.names (medium.afterUses uses).directory,
      name ∈ Fields.names medium.directory ∨
        ∃ entry ∈ medium.landings uses, name = fileName entry.1

/-- The medium in a directory acts as a map from keys to texts at every moment, whatever it is used
for and whatever goes wrong. Each key has a file of its own, which is never a temporary file, and
what is read agrees with memory after the same writes. -/
theorem acts_as_map (hd : medium.directory.WellFormed) :
    (∀ key other, key ≠ other → fileName key ≠ fileName other) ∧
      (∀ key other process count, fileName key ≠ temporaryName other process count) ∧
      ∀ uses, (medium.afterUses uses).ActsAsMap ∧ medium.MirrorsMemory uses := by
  refine ⟨fun key other hne => fileName_injective.ne hne, fileName_ne_temporaryName,
    fun uses => ⟨?_, ?_⟩⟩
  · exact actsAsMap_of_wellFormed (wellFormed_afterUses hd uses)
  · exact ⟨place_afterUses medium uses, fun memory key => read_afterUses,
      fun key => read_of_other_landings, fun hremove name => names_afterUses hremove⟩

/-- A lamp is switched off, and then a key that leads out of the directory is refused. -/
theorem acts_as_map_of_lamp :
    ∃ (medium : FileMedium) (uses : List FileUse), medium.directory.WellFormed ∧
      medium.landings uses = [("lamp", "off")] ∧ (medium.afterUses uses).ActsAsMap ∧
      (medium.afterUses uses).read "lamp" = .ok (some "off") ∧
      ∀ name ∈ Fields.names (medium.afterUses uses).directory,
        name = "lamp.json" ∨ name = "rooms" := by
  let medium : FileMedium :=
    ⟨"store", "store", [("lamp.json", .file "on".toUTF8), ("rooms", .subdirectory)], 7, 0⟩
  let lamp : FileUse := .write {} "lamp" "off"
  let uses : List FileUse := [lamp, .write {} "../lamp" "on"]
  have hd : medium.directory.WellFormed := by
    refine ⟨?_, ?_⟩
    · simp [medium, Fields.Distinct, Fields.names]
    · simp only [medium, Fields.names, List.map_cons, List.map_nil, List.forall_mem_cons]
      exact ⟨by decide, by decide, by simp⟩
  have hlamp : medium.landing lamp = some ("lamp", "off") := by
    have hkey : ¬IsRefused "lamp" := isFileKey_iff.mp (by decide)
    have htemporary : medium.nextTemporary "lamp" = "lamp.json.7.0.tmp" := by decide +kernel
    have hreach : medium.refusal? (medium.nextTemporary "lamp") = none := by
      have hpath : medium.pathOf (medium.nextTemporary "lamp") = "store/lamp.json.7.0.tmp" := by
        decide +kernel
      rw [refusal?, hpath, Disk.refusal?, String.contains_char_eq]
      decide +kernel
    have hshort : (medium.nextTemporary "lamp").utf8ByteSize ≤ maxNameBytes := by decide
    obtain ⟨after, hw⟩ : ∃ after, medium.writeWith {} "lamp" "off" = (.ok (), after) := by
      refine exists_writeWith_of_free hkey hreach hshort fun name hname hfound => ?_
      have hrooms : name = "rooms" := by simpa [medium] using Fields.mem_of_find? hfound
      rw [htemporary, hrooms] at hname
      exact absurd hname (by decide +kernel)
    rw [landing, hw]
    rfl
  have hlandings : medium.landings uses = [("lamp", "off")] := by
    have hrefused : (medium.afterUse lamp).landing (.write {} "../lamp" "on") = none := by
      rw [landing, writeWith, if_neg (by decide)]
      rfl
    rw [landings, landings, landings, hlamp, hrefused]
    rfl
  obtain ⟨-, -, huses⟩ := acts_as_map hd
  obtain ⟨hacts, hmirrors⟩ := huses uses
  have hremove : ∀ mishaps key text, .write mishaps key text ∈ uses → mishaps.remove = none := by
    simp only [uses, lamp, List.mem_cons, FileUse.write.injEq, List.not_mem_nil, or_false]
    rintro mishaps key text (⟨rfl, -⟩ | ⟨rfl, -⟩) <;> rfl
  have hwritten : ∃ entry ∈ medium.landings uses, entry.1 = "lamp" := by simp [hlandings]
  refine ⟨medium, uses, hd, hlandings, hacts, ?_, fun name hm => ?_⟩
  · rw [hmirrors.mirrored .empty "lamp" (.inr hwritten), hlandings]
    rfl
  · rcases hmirrors.left hremove name hm with hm | ⟨entry, hentry, rfl⟩
    · simpa [medium, Fields.names] using hm
    · rw [hlandings, List.mem_singleton] at hentry
      exact .inl (by rw [hentry]; rfl)

end Uses

end FileMedium

end ValidatedStore
