import ValidatedStore.Json.Printer
import ValidatedStore.Medium.Disk
import ValidatedStore.Toml.Quoting
import ValidatedStore.Toml.Reader

/-!
# Settings of a store

Six switches govern a store, and each has a default. Settings are read from a TOML file or a JSON
value, where unknown names are ignored and a known name with a value of the wrong kind is an
error, and they are written as one TOML line each.
-/

namespace ValidatedStore

/-- The settings of a store. -/
structure Settings where
  /-- Milliseconds by which saves are put off; zero saves at once. -/
  delayMs : UInt64 := 0
  /-- Whether opening a store leaves out the first load. -/
  lazyLoad : Bool := false
  /-- Kept with the other settings, and consulted by nothing. -/
  strictLoad : Bool := false
  /-- Whether a save first looks whether someone else has written. -/
  secure : Bool := true
  /-- Whether invalid loads are repaired. -/
  autoFix : Bool := true
  /-- The text at which selectors are cut into keys. -/
  pathSeparator : String := "."
deriving DecidableEq

/-- A single setting as a file or a JSON value gives it. -/
inductive Setting
  /-- A natural number below `2 ^ 64`. -/
  | natural (n : Nat)
  /-- A truth value. -/
  | truth (b : Bool)
  /-- A text. -/
  | text (s : String)
  /-- Anything else, which no setting accepts. -/
  | other

/-- Why settings cannot be read or written. -/
inductive SettingsError
  /-- Selectors could not be cut. -/
  | emptySeparator
  /-- The text is no TOML, or a setting has the wrong kind. -/
  | malformed
  /-- The delay is too large for TOML. -/
  | delayTooLarge
  /-- A file operation failed. -/
  | file (action path : String) (cause : IoCause)
deriving DecidableEq

/-- The error in words. -/
def SettingsError.message : SettingsError → String
  | .emptySeparator => "invalid configuration: path_separator must not be empty"
  | .malformed => "invalid configuration: the file does not hold settings"
  | .delayTooLarge =>
    "internal error: cannot encode store config: out-of-range value for u64 type"
  | .file action path cause =>
    "internal error: cannot " ++ action ++ " store config " ++ path ++ ": " ++ cause.message

namespace Settings

/-- The names of the settings in order. -/
def names : List String :=
  ["delay_ms", "lazy_load", "strict_load", "secure", "auto_fix", "path_separator"]

/-- The name that settings files have by convention. -/
def conventionalName : String := "shapestore.toml"

/-- Whether saves are put off. -/
def isDebounced (settings : Settings) : Bool := decide (0 < settings.delayMs)

/-- Whether selectors can be cut. -/
def validate (settings : Settings) : Except SettingsError Unit :=
  if settings.pathSeparator.isEmpty then .error .emptySeparator else .ok ()

/-- A number of milliseconds, or the default when none is given. -/
def readDelay (fallback : UInt64) : Option Setting → Option UInt64
  | none => some fallback
  | some (.natural n) => if n < 2 ^ 64 then some (UInt64.ofNat n) else none
  | some _ => none

/-- A switch, or the default when none is given. -/
def readTruth (fallback : Bool) : Option Setting → Option Bool
  | none => some fallback
  | some (.truth b) => some b
  | some _ => none

/-- A text, or the default when none is given. -/
def readText (fallback : String) : Option Setting → Option String
  | none => some fallback
  | some (.text s) => some s
  | some _ => none

/-- The settings with the given entries, and the defaults for those that are not given. -/
def ofEntries? (entry : String → Option Setting) : Option Settings := do
  let fallback : Settings := {}
  let delayMs ← readDelay fallback.delayMs (entry "delay_ms")
  let lazyLoad ← readTruth fallback.lazyLoad (entry "lazy_load")
  let strictLoad ← readTruth fallback.strictLoad (entry "strict_load")
  let secure ← readTruth fallback.secure (entry "secure")
  let autoFix ← readTruth fallback.autoFix (entry "auto_fix")
  let pathSeparator ← readText fallback.pathSeparator (entry "path_separator")
  return ⟨delayMs, lazyLoad, strictLoad, secure, autoFix, pathSeparator⟩

/-- A JSON value as a setting. -/
def settingOfValue : Value → Setting
  | .number n =>
    match n.toUnsigned64? with
    | some k => .natural k
    | none => .other
  | .bool b => .truth b
  | .string s => .text s
  | _ => .other

/-- Settings from a JSON value: an object by name, or an array in order with the defaults at its
end. -/
def ofValue? : Value → Option Settings
  | .object entries => ofEntries? fun name => (Fields.find? name entries).map settingOfValue
  | .array items =>
    if items.length ≤ names.length then
      ofEntries? fun name => (Fields.find? name (names.zip items)).map settingOfValue
    else none
  | _ => none

/-- A TOML item as a setting. -/
def settingOfItem : Toml.Item → Setting
  | .value (.integer n) => if 0 ≤ n then .natural n.toNat else .other
  | .value (.boolean b) => .truth b
  | .value (.string s) => .text s
  | _ => .other

/-- Settings from a TOML text. -/
def ofToml? (text : String) : Option Settings := do
  let table ← Toml.parse text
  ofEntries? fun name => (Fields.find? name table).map settingOfItem

/-- The settings as a JSON value. -/
def toValue (settings : Settings) : Value :=
  .object [
    ("delay_ms", .number (.integer settings.delayMs.toNat (by
      have h := settings.delayMs.toNat_lt
      omega))),
    ("lazy_load", .bool settings.lazyLoad),
    ("strict_load", .bool settings.strictLoad),
    ("secure", .bool settings.secure),
    ("auto_fix", .bool settings.autoFix),
    ("path_separator", .string settings.pathSeparator)]

/-- One line of a settings file. -/
def tomlLine (name : String) (value : List Char) : List Char :=
  name.toList ++ " = ".toList ++ value ++ ['\n']

/-- A switch as TOML. -/
def tomlTruth (b : Bool) : List Char := if b then "true".toList else "false".toList

/-- The settings as TOML text; TOML numbers have one binary digit less than delays. -/
def toToml? (settings : Settings) : Option String :=
  if settings.delayMs.toNat < 2 ^ 63 then
    some (String.ofList (
      tomlLine "delay_ms" (Decimal.digits settings.delayMs.toNat) ++
      tomlLine "lazy_load" (tomlTruth settings.lazyLoad) ++
      tomlLine "strict_load" (tomlTruth settings.strictLoad) ++
      tomlLine "secure" (tomlTruth settings.secure) ++
      tomlLine "auto_fix" (tomlTruth settings.autoFix) ++
      tomlLine "path_separator" (Toml.quoted settings.pathSeparator)))
  else none

/-- A settings file that states every default and says what it means. -/
def defaultToml : String :=
  "# shapestore configuration\n" ++
  "#\n" ++
  "# Save debounce in milliseconds (default: 0)\n" ++
  "#   0   = every write is saved immediately\n" ++
  "#   >0  = writes within the window collapse into one save\n" ++
  "delay_ms = 0\n" ++
  "\n" ++
  "# Defer the initial load until load() is called (default: false)\n" ++
  "lazy_load = false\n" ++
  "\n" ++
  "# Reserved for stricter load semantics; currently has no effect (default: false)\n" ++
  "strict_load = false\n" ++
  "\n" ++
  "# Detect writes made by other agents before saving (default: true)\n" ++
  "secure = true\n" ++
  "\n" ++
  "# Repair invalid stored values with schema defaults (default: true)\n" ++
  "auto_fix = true\n" ++
  "\n" ++
  "# Separator for string selectors such as \"user.name\" (default: \".\")\n" ++
  "path_separator = \".\"\n"

/-- The path of a file in messages. -/
def pathOf (location name : String) : String := location ++ "/" ++ name

/-- The settings in a file. -/
def ofFile (disk : Disk) (location name : String) : Except SettingsError Settings :=
  match disk.readText location name with
  | .error cause => .error (.file "read" (pathOf location name) cause)
  | .ok text =>
    match ofToml? text with
    | none => .error .malformed
    | some settings => settings.validate.map fun _ => settings

/-- The settings in a file, which is made with the defaults if it is missing, and the disk
afterwards. -/
def ofFileOrNew (disk : Disk) (location name : String) : Except SettingsError Settings × Disk :=
  if disk.hasEntry location name then (ofFile disk location name, disk)
  else
    match disk.writeBytes location name defaultToml.toUTF8 with
    | .error cause => (.error (.file "create" (pathOf location name) cause), disk)
    | .ok disk => (ofFile disk location name, disk)

/-- Write the settings to a file, and the disk afterwards; settings that are not valid are not
written. -/
def toFile (settings : Settings) (disk : Disk) (location name : String) :
    Except SettingsError Unit × Disk :=
  match settings.validate with
  | .error e => (.error e, disk)
  | .ok _ =>
    match settings.toToml? with
    | none => (.error .delayTooLarge, disk)
    | some text =>
      match disk.writeBytes location name text.toUTF8 with
      | .error cause => (.error (.file "write" (pathOf location name) cause), disk)
      | .ok disk => (.ok (), disk)

end Settings

end ValidatedStore
