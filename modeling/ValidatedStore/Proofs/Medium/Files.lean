import ValidatedStore.Medium.Files
import ValidatedStore.Proofs.Medium.Lawful

/-!
# The laws of the medium in a directory

A write touches two names of the directory, that of the temporary file and, in its last step
alone, that of the key's file; the two are never the same, whatever the keys. However it ends,
whatever goes wrong on the way, nothing was written, the temporary file was left at some point, or
it was renamed. A write that succeeds leaves the text under the key's file, and one that fails at
any point leaves every file that belongs to a key.
-/

namespace ValidatedStore

theorem fromUTF8?_toUTF8 (text : String) : String.fromUTF8? text.toUTF8 = some text := by
  rw [String.fromUTF8?, String.toUTF8_eq_toByteArray, dif_pos text.isValidUTF8]
  rfl

namespace Directory

variable {directory result : Directory} {name other : String}

theorem create_eq_ok (h : directory.create name = .ok result) :
    result = Fields.insert name (.file ByteArray.empty) directory := by
  unfold create at h
  split at h
  next => cases h
  next => cases h
  next => exact (Except.ok.inj h).symm

theorem lookup_eq_ok {found : Option DirectoryEntry} (h : directory.lookup name = .ok found) :
    name.utf8ByteSize ≤ maxNameBytes ∧ Fields.find? name directory = found := by
  unfold lookup at h
  split at h
  next => cases h
  next hlen => exact ⟨by omega, Except.ok.inj h⟩

theorem readBytes_eq_ok {bytes : ByteArray} (h : directory.readBytes name = .ok bytes) :
    Fields.find? name directory = some (.file bytes) := by
  unfold readBytes at h
  split at h
  next => cases h
  next => cases h
  next => cases h
  next heq =>
    obtain rfl := Except.ok.inj h
    exact (lookup_eq_ok heq).2

/-- A renamed file is found under its new name, which is short enough. -/
theorem rename_eq_ok (h : directory.rename name other = .ok result) :
    ∃ bytes, Fields.find? name directory = some (.file bytes) ∧
      other.utf8ByteSize ≤ maxNameBytes ∧
      result = Fields.insert other (.file bytes) (Fields.erase name directory) := by
  unfold rename at h
  split at h
  next => cases h
  next => cases h
  next => cases h
  next =>
    rename_i hb hl
    exact ⟨_, readBytes_eq_ok hb, (lookup_eq_ok hl).1, (Except.ok.inj h).symm⟩

theorem remove_eq_ok (h : directory.remove name = .ok result) :
    result = Fields.erase name directory := by
  unfold remove at h
  split at h
  next => cases h
  next => exact (Except.ok.inj h).symm

/-- What is created has a name that is short enough. -/
theorem short_of_create (h : directory.create name = .ok result) :
    name.utf8ByteSize ≤ maxNameBytes := by
  unfold create at h
  split at h
  next => cases h
  next => cases h
  next hl => exact (lookup_eq_ok hl).1

/-- What is read under a name depends on nothing else. -/
theorem readText_congr (h : Fields.find? name directory = Fields.find? name result) :
    directory.readText name = result.readText name := by
  rw [readText, readText, readBytes, readBytes, lookup, lookup, h]

/-- A name that is short enough is looked up among the entries. -/
theorem lookup_of_short (hlen : name.utf8ByteSize ≤ maxNameBytes) :
    directory.lookup name = .ok (Fields.find? name directory) :=
  if_neg (Nat.not_lt.mpr hlen)

/-- The bytes of a file that is there can be read. -/
theorem readBytes_of_find? {bytes : ByteArray} (hlen : name.utf8ByteSize ≤ maxNameBytes)
    (h : Fields.find? name directory = some (.file bytes)) :
    directory.readBytes name = .ok bytes := by
  rw [readBytes, lookup_of_short hlen, h]

/-- A file that holds a text is read as that text. -/
theorem readText_of_find? {text : String} (hlen : name.utf8ByteSize ≤ maxNameBytes)
    (h : Fields.find? name directory = some (.file text.toUTF8)) :
    directory.readText name = .ok text := by
  rw [readText, readBytes_of_find? hlen h]
  dsimp only
  rw [fromUTF8?_toUTF8]

end Directory

theorem fileName_injective : Function.Injective fileName := by
  intro key other h
  have hchars := congrArg String.toList h
  rw [fileName, fileName, String.toList_append, String.toList_append] at hchars
  exact String.toList_inj.mp (List.append_cancel_right hchars)

/-- The name of a key's file is never that of a temporary file, for any two keys. -/
theorem fileName_ne_temporaryName (key other : String) (process count : Nat) :
    fileName key ≠ temporaryName other process count := by
  intro h
  have hlast := congrArg (fun name => name.toList.getLast?) h
  have hjson : ".json".toList.getLast? = some 'n' := rfl
  have htmp : ".tmp".toList.getLast? = some 'p' := rfl
  simp only [fileName, temporaryName, String.toList_append, List.getLast?_append, hjson, htmp,
    Option.some_or] at hlast
  cases hlast

/-- The name of a temporary file continues that of the key's file. -/
theorem exists_temporaryName_eq (key : String) (process count : Nat) :
    ∃ rest, temporaryName key process count = fileName key ++ rest := by
  have hjson : (".json." : String) = ".json" ++ "." := rfl
  refine ⟨"." ++ toString process ++ "." ++ toString count ++ ".tmp", ?_⟩
  simp only [temporaryName, fileName, hjson, String.append_assoc]

namespace FileMedium

variable {medium after : FileMedium} {mishaps : Mishaps} {directory reached : Directory}
  {key other name temporary target text : String}

section Writing

/-- How a write to a directory can end. -/
inductive Persisted (mishaps : Mishaps) (directory : Directory) (temporary target text : String) :
    Except IoCause Unit × Directory → Prop
  /-- Nothing was written. -/
  | refused (cause : IoCause) :
      Persisted mishaps directory temporary target text (.error cause, directory)
  /-- The temporary file was written, perhaps in part. -/
  | stopped (cause : IoCause) (bytes : ByteArray) (hcreate : mishaps.create = none)
      (htemporary : temporary.utf8ByteSize ≤ maxNameBytes) :
      Persisted mishaps directory temporary target text
        (.error cause, Fields.insert temporary (.file bytes) directory)
  /-- The temporary file was written and renamed. -/
  | renamed (hcreate : mishaps.create = none) (htemporary : temporary.utf8ByteSize ≤ maxNameBytes)
      (htarget : target.utf8ByteSize ≤ maxNameBytes) :
      Persisted mishaps directory temporary target text
        (.ok (), Fields.insert target (.file text.toUTF8)
          (Fields.erase temporary (Fields.insert temporary (.file text.toUTF8) directory)))

theorem persisted_persist (mishaps : Mishaps) (directory : Directory)
    (temporary target text : String) :
    Persisted mishaps directory temporary target text
      (persist mishaps directory temporary target text) := by
  unfold persist
  split
  next => exact .refused _
  next => exact .refused _
  next created hm hc =>
    have hshort := Directory.short_of_create hc
    have hfill : ∀ bytes, created.fill temporary bytes =
        Fields.insert temporary (.file bytes) directory := by
      intro bytes
      rw [Directory.fill, Directory.create_eq_ok hc, Fields.insert_insert]
    split
    next =>
      rw [hfill]
      exact .stopped _ _ hm hshort
    next =>
      dsimp only
      rw [hfill]
      split
      next => exact .stopped _ _ hm hshort
      next => exact .stopped _ _ hm hshort
      next => exact .stopped _ _ hm hshort
      next hr =>
        obtain ⟨bytes, hb, htarget, rfl⟩ := Directory.rename_eq_ok hr
        rw [Fields.find?_insert_self] at hb
        obtain ⟨rfl⟩ := Option.some.inj hb
        exact .renamed hm hshort htarget

/-- The name of the temporary file for the next write. -/
def nextTemporary (medium : FileMedium) (key : String) : String :=
  temporaryName key medium.process medium.writes

/-- What goes wrong during the next write, when its path cannot be used either. -/
def mishapsAt (medium : FileMedium) (mishaps : Mishaps) (key : String) : Mishaps :=
  { mishaps with
    create := mishaps.create <|> medium.refusal? (medium.nextTemporary key)
    remove := mishaps.remove <|> medium.refusal? (medium.nextTemporary key) }

theorem create_mishapsAt_eq_none_iff : (medium.mishapsAt mishaps key).create = none ↔
    mishaps.create = none ∧ medium.refusal? (medium.nextTemporary key) = none := by
  simp [mishapsAt]

theorem remove_mishapsAt_eq_none_iff : (medium.mishapsAt mishaps key).remove = none ↔
    mishaps.remove = none ∧ medium.refusal? (medium.nextTemporary key) = none := by
  simp [mishapsAt]

/-- How the write of a text under a key can end. -/
inductive Written (medium : FileMedium) (mishaps : Mishaps) (key text : String) :
    Except StorageError Unit × FileMedium → Prop
  /-- The key may not name a file. -/
  | invalid (hkey : isFileKey key = false) :
      Written medium mishaps key text (.error (.invalidKey key), medium)
  /-- The write to the directory failed, and the temporary file was discarded. -/
  | failed {cause : IoCause} {reached : Directory} (hkey : isFileKey key = true)
      (h : Persisted (medium.mishapsAt mishaps key) medium.directory (medium.nextTemporary key)
        (fileName key) text (.error cause, reached)) :
      Written medium mishaps key text (.error (.io cause),
        { medium with
          writes := medium.writes + 1
          directory :=
            discard (medium.mishapsAt mishaps key) reached (medium.nextTemporary key) })
  /-- The write to the directory succeeded. -/
  | landed {reached : Directory} (hkey : isFileKey key = true)
      (h : Persisted (medium.mishapsAt mishaps key) medium.directory (medium.nextTemporary key)
        (fileName key) text (.ok (), reached)) :
      Written medium mishaps key text (.ok (),
        { medium with writes := medium.writes + 1, directory := reached })

theorem written_writeWith (mishaps : Mishaps) (medium : FileMedium) (key text : String) :
    Written medium mishaps key text (medium.writeWith mishaps key text) := by
  unfold writeWith
  split
  next hkey =>
    dsimp only
    have hp := persisted_persist (medium.mishapsAt mishaps key) medium.directory
      (medium.nextTemporary key) (fileName key) text
    unfold mishapsAt nextTemporary at hp
    split
    next heq =>
      rw [heq] at hp
      exact .landed hkey hp
    next heq =>
      rw [heq] at hp
      exact .failed hkey hp
  next hkey => exact .invalid (Bool.not_eq_true _ ▸ hkey)

end Writing

section Reading

/-- A write that succeeds touches the temporary file and the target alone. -/
theorem Persisted.find?_of_ok
    (h : Persisted mishaps directory temporary target text (.ok (), reached))
    (htemporary : temporary ≠ name) (htarget : target ≠ name) :
    Fields.find? name reached = Fields.find? name directory := by
  cases h with
  | renamed =>
    rw [Fields.find?_insert_of_ne htarget, Fields.find?_erase_of_ne htemporary,
      Fields.find?_insert_of_ne htemporary]

/-- A write that fails touches the temporary file alone. -/
theorem Persisted.find?_of_error {cause : IoCause}
    (h : Persisted mishaps directory temporary target text (.error cause, reached))
    (htemporary : temporary ≠ name) :
    Fields.find? name reached = Fields.find? name directory := by
  cases h with
  | refused => rfl
  | stopped => exact Fields.find?_insert_of_ne htemporary

theorem discard_cases (mishaps : Mishaps) (directory : Directory) (temporary : String) :
    discard mishaps directory temporary = directory ∨
      discard mishaps directory temporary = Fields.erase temporary directory := by
  unfold discard
  split
  next hr => exact .inr (Directory.remove_eq_ok hr)
  next => exact .inl rfl

theorem find?_discard (hne : temporary ≠ name) :
    Fields.find? name (discard mishaps directory temporary) = Fields.find? name directory := by
  rcases discard_cases mishaps directory temporary with he | he
  · rw [he]
  · rw [he, Fields.find?_erase_of_ne hne]

/-- A path that can be used can be used when it is cut short. -/
theorem refusal?_of_append {path rest : String} (h : Disk.refusal? (path ++ rest) = none) :
    Disk.refusal? path = none := by
  unfold Disk.refusal? at h ⊢
  rw [String.contains_char_eq, String.toList_append, String.utf8ByteSize_append] at h
  rw [String.contains_char_eq]
  split at h
  next => cases h
  next hnul =>
    split at h
    next => cases h
    next hlen =>
      have hnone : '\x00' ∉ path.toList := by
        intro hm
        exact hnul (by simp [hm])
      rw [if_neg (by simpa using hnone), if_neg (by omega)]

/-- What is read under a key depends on the file of the key alone. -/
theorem read_congr (hpath : after.path = medium.path)
    (h : Fields.find? (fileName key) after.directory =
      Fields.find? (fileName key) medium.directory) : after.read key = medium.read key := by
  unfold read refusal? pathOf
  rw [hpath, Directory.readText_congr h]

/-- A write that succeeds is read back. -/
theorem read_writeWith (h : medium.writeWith mishaps key text = (.ok (), after)) :
    after.read key = .ok (some text) := by
  have hw := written_writeWith mishaps medium key text
  rw [h] at hw
  cases hw with
  | landed hkey hp =>
    cases hp with
    | renamed hcreate _ htarget =>
      -- The path of the file is a part of the one that could be used for the temporary file.
      have hfile : medium.refusal? (fileName key) = none := by
        obtain ⟨rest, hname⟩ := exists_temporaryName_eq key medium.process medium.writes
        have htemporary := (create_mishapsAt_eq_none_iff.mp hcreate).2
        rw [nextTemporary, refusal?, hname, pathOf, ← String.append_assoc] at htemporary
        exact refusal?_of_append htemporary
      unfold refusal? pathOf at hfile
      unfold read refusal? pathOf
      rw [if_pos hkey]
      dsimp only
      rw [hfile, Directory.readText_of_find? htarget Fields.find?_insert_self]

/-- A write that succeeds changes nothing that is read under another key. -/
theorem read_of_other_write (h : medium.writeWith mishaps key text = (.ok (), after))
    (hne : other ≠ key) : after.read other = medium.read other := by
  have hw := written_writeWith mishaps medium key text
  rw [h] at hw
  cases hw with
  | landed _ hp =>
    exact read_congr rfl <| hp.find?_of_ok (fileName_ne_temporaryName _ _ _ _).symm
      (fileName_injective.ne hne.symm)

/-- A write that fails changes nothing that is read, under any key. -/
theorem read_of_failed_write {cause : StorageError}
    (h : medium.writeWith mishaps key text = (.error cause, after)) (other : String) :
    after.read other = medium.read other := by
  have hw := written_writeWith mishaps medium key text
  rw [h] at hw
  cases hw with
  | invalid => rfl
  | failed _ hp =>
    have hne : medium.nextTemporary key ≠ fileName other :=
      (fileName_ne_temporaryName _ _ _ _).symm
    exact read_congr rfl ((find?_discard hne).trans (hp.find?_of_error hne))

end Reading

end FileMedium

instance : LawfulMedium FileMedium where
  content medium key := (medium.read key).toOption.join
  content_of_read {medium key text?} h := by
    have hread : medium.read key = .ok text? := h
    rw [hread]
    rfl
  content_of_write h := by
    rw [FileMedium.read_writeWith h]
    rfl
  content_of_failed_write h := by
    rw [FileMedium.read_of_failed_write h]

end ValidatedStore
