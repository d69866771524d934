import ValidatedStore.Proofs.Medium.Files
import ValidatedStore.Proofs.Toml.Lines

/-!
# Settings are kept or refused

Settings with a separator and a delay that TOML can hold are written as six lines, and reading the
lines gives the same settings back, whatever the separator is. All other settings are refused before
anything is done to the file. So a file either holds the settings that were to be written to it, or
is what it was before.
-/

namespace ValidatedStore

namespace Disk

variable {disk : Disk} {location name : String}

/-- A file can be written, whether it is there or not: its directory is there, its name is short
enough, and no directory has the name. -/
def Writable (disk : Disk) (location name : String) : Prop :=
  ∃ entries : Directory, Fields.find? location disk = some entries ∧
    name.utf8ByteSize ≤ maxNameBytes ∧ Fields.find? name entries ≠ some .subdirectory

/-- A written file has the text, and every other file has what it had. -/
structure Wrote (disk : Disk) (location name text : String) (after : Disk) : Prop where
  /-- The text is in the file. -/
  written : after.readText location name = .ok text
  /-- Nothing else was touched. -/
  elsewhere : ∀ place other, (place, other) ≠ (location, name) →
    after.readText place other = disk.readText place other

/-- A file that can be written has the text afterwards. -/
theorem exists_writeBytes (hw : disk.Writable location name) (text : String) :
    ∃ after, disk.writeBytes location name text.toUTF8 = .ok after ∧
      disk.Wrote location name text after := by
  obtain ⟨entries, hdirectory, hshort, hfile⟩ := hw
  have hfound : disk.directory location = .ok entries := by rw [directory, hdirectory]
  have hcreate : entries.create name =
      .ok (Fields.insert name (.file ByteArray.empty) entries) := by
    rw [Directory.create, Directory.lookup_of_short hshort]
    split
    next heq => cases heq
    next heq => exact absurd (Except.ok.inj heq) hfile
    next => rfl
  refine ⟨_, by rw [writeBytes, hfound]; dsimp only; rw [hcreate], ?_, fun place other hne => ?_⟩
  · rw [readText, directory, Fields.find?_insert_self]
    exact Directory.readText_of_find? hshort Fields.find?_insert_self
  · by_cases hplace : location = place
    · subst hplace
      have hother : name ≠ other := fun heq => hne (by rw [heq])
      rw [readText, directory, Fields.find?_insert_self, readText, hfound]
      refine Directory.readText_congr ?_
      rw [Directory.fill, Fields.find?_insert_of_ne hother, Fields.find?_insert_of_ne hother]
    · rw [readText, directory, Fields.find?_insert_of_ne hplace, readText, directory]

end Disk

namespace Settings

variable {settings : Settings}

/-- The settings as the lines of a file. -/
def lines (settings : Settings) (h : settings.delayMs.toNat < 2 ^ 63) : List Toml.Line :=
  [⟨"delay_ms", _, _, by decide, Toml.readsAs_digits h⟩,
    ⟨"lazy_load", _, _, by decide, Toml.readsAs_truth settings.lazyLoad⟩,
    ⟨"strict_load", _, _, by decide, Toml.readsAs_truth settings.strictLoad⟩,
    ⟨"secure", _, _, by decide, Toml.readsAs_truth settings.secure⟩,
    ⟨"auto_fix", _, _, by decide, Toml.readsAs_truth settings.autoFix⟩,
    ⟨"path_separator", _, _, by decide, Toml.readsAs_quoted settings.pathSeparator⟩]

/-- Settings are written as their lines, unless the delay is too large. -/
theorem toToml?_of_lt (h : settings.delayMs.toNat < 2 ^ 63) :
    settings.toToml? = some (String.ofList ((settings.lines h).flatMap Toml.Line.text)) := by
  rw [toToml?, if_pos h]
  simp [lines, Toml.Line.text]

/-- The lines are read as the settings. -/
theorem ofToml?_lines (h : settings.delayMs.toNat < 2 ^ 63) :
    ofToml? (String.ofList ((settings.lines h).flatMap Toml.Line.text)) = some settings := by
  have hnames : ((settings.lines h).map Toml.Line.name).Nodup := by
    show names.Nodup
    decide
  have hdelay : settings.delayMs.toNat < 2 ^ 64 := settings.delayMs.toNat_lt
  rw [ofToml?, Toml.Line.parse_text hnames]
  simp [ofEntries?, Fields.find?, lines, Toml.Line.entry, settingOfItem, readDelay, readTruth,
    readText, hdelay]

/-- Settings that are written are read back. -/
theorem ofToml?_of_toToml? {text : String} (h : settings.toToml? = some text) :
    ofToml? text = some settings := by
  by_cases hdelay : settings.delayMs.toNat < 2 ^ 63
  · rw [toToml?_of_lt hdelay] at h
    rw [← Option.some.inj h, ofToml?_lines hdelay]
  · rw [toToml?, if_neg hdelay] at h
    cases h

/-- Settings are kept or refused. When the separator is not empty and the delay is at most
`2 ^ 63 - 1`, writing them to a file that can be written succeeds, whatever was in the file before,
reading the file gives exactly these settings, and no other file is touched. Otherwise writing
fails, and the disk is what it was. -/
theorem kept_or_refused (settings : Settings) {disk : Disk} {location name : String}
    (hw : disk.Writable location name) :
    (settings.pathSeparator ≠ "" ∧ settings.delayMs.toNat ≤ 2 ^ 63 - 1 →
      ∃ text after, settings.toFile disk location name = (.ok (), after) ∧
        disk.Wrote location name text after ∧ ofFile after location name = .ok settings) ∧
    (¬(settings.pathSeparator ≠ "" ∧ settings.delayMs.toNat ≤ 2 ^ 63 - 1) →
      ∃ error, settings.toFile disk location name = (.error error, disk)) := by
  have hempty : settings.pathSeparator.isEmpty = true ↔ settings.pathSeparator = "" :=
    String.isEmpty_iff
  constructor
  · rintro ⟨hseparator, hdelay⟩
    have hvalid : settings.validate = .ok () := if_neg (mt hempty.mp hseparator)
    obtain ⟨text, htext⟩ : ∃ text, settings.toToml? = some text :=
      ⟨_, toToml?_of_lt (by omega)⟩
    obtain ⟨after, hafter, hwrote⟩ := Disk.exists_writeBytes hw text
    refine ⟨text, after, ?_, hwrote, ?_⟩
    · rw [toFile, hvalid, htext]
      dsimp only
      rw [hafter]
    · rw [ofFile, hwrote.written]
      dsimp only
      rw [ofToml?_of_toToml? htext]
      dsimp only
      rw [hvalid]
      rfl
  · intro hrefused
    by_cases hseparator : settings.pathSeparator = ""
    · have hinvalid : settings.validate = .error .emptySeparator := if_pos (hempty.mpr hseparator)
      exact ⟨_, by rw [toFile, hinvalid]⟩
    · have hvalid : settings.validate = .ok () := if_neg (mt hempty.mp hseparator)
      have hdelay : ¬settings.delayMs.toNat < 2 ^ 63 := fun h => hrefused ⟨hseparator, by omega⟩
      have hnone : settings.toToml? = none := if_neg hdelay
      exact ⟨_, by rw [toFile, hvalid, hnone]⟩

/-- Settings with the greatest delay that can be written, and a separator that fits into no quotes
as it is. -/
def awkward : Settings :=
  { delayMs := 9223372036854775807, pathSeparator := "'''\"\"\"\n\\\x01" }

/-- A disk with a file of settings. -/
def settledDisk : Disk :=
  [("home", [(conventionalName, .file "auto_fix = false\n".toUTF8)])]

/-- Over an older file, a separator with quotes, a backslash, a line end and a control character
comes back as it was; with one millisecond more, or without a separator, the file stays. -/
theorem kept_or_refused_of_awkward :
    settledDisk.Writable "home" conventionalName ∧
      (awkward.pathSeparator ≠ "" ∧ awkward.delayMs.toNat ≤ 2 ^ 63 - 1) ∧
      (∃ text after, awkward.toFile settledDisk "home" conventionalName = (.ok (), after) ∧
        settledDisk.Wrote "home" conventionalName text after ∧
        ofFile after "home" conventionalName = .ok awkward) ∧
      (∃ error, { awkward with delayMs := 9223372036854775808 }.toFile settledDisk "home"
        conventionalName = (.error error, settledDisk)) ∧
      ∃ error, { awkward with pathSeparator := "" }.toFile settledDisk "home"
        conventionalName = (.error error, settledDisk) := by
  have hw : settledDisk.Writable "home" conventionalName :=
    ⟨_, rfl, by decide, by simp [Fields.find?]⟩
  have hkept : awkward.pathSeparator ≠ "" ∧ awkward.delayMs.toNat ≤ 2 ^ 63 - 1 := by decide
  exact ⟨hw, hkept, (kept_or_refused awkward hw).1 hkept,
    (kept_or_refused { awkward with delayMs := 9223372036854775808 } hw).2 (by decide),
    (kept_or_refused { awkward with pathSeparator := "" } hw).2 (by decide)⟩

end Settings

end ValidatedStore
