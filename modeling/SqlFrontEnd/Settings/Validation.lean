import SqlFrontEnd.Settings.Reading

/-!
# Validating a configuration

A configuration holds at most one datum for each setting and nothing else.  Two settings of two
words may be spelled with a dash or with an underscore; where both spellings are there, the dashed
one counts and the other is unknown.  The faults of the settings are reported in the order of the
settings, and after them the unknown keys in the order of the configuration.  A key with half a
surrogate pair cannot be reported; it is a fault of the configuration as a whole.

* `Setting.spellings`: the keys of each setting.
* `readSetting`: one setting of a configuration.
* `unknownKeys`: the faults of the keys that no setting uses.
* `validate`: the settings, or every fault.
-/

namespace SqlFrontEnd.Settings

/-- The entries of a configuration. -/
abbrev Entries := List (DatumKey × Datum)

/-- The spellings of the keys of the five settings, each setting's preferred one first. -/
def spellings : List (List String) :=
  [["host"], ["port"], ["debug"], ["log-level", "log_level"], ["keyword-case", "keyword_case"]]

/-- The first of some spellings that is a key, with its datum. -/
def lookUp (entries : Entries) : List String → Option (String × Datum)
  | [] => none
  | spelling :: rest =>
    match entries.lookup (.name spelling) with
    | some datum => some (spelling, datum)
    | none => lookUp entries rest

/-- Reads one setting; where the configuration does not have it, the given value holds. -/
def readSetting {α : Type} (entries : Entries) (spellings : List String) (otherwise : α)
    (read : Datum → Except Fault α) : Except FaultDetail α :=
  match lookUp entries spellings with
  | none => .ok otherwise
  | some (key, datum) =>
    match read datum with
    | .ok value => .ok value
    | .error fault => .error ⟨some (.name key), fault⟩

/-- The keys that the settings use. -/
def usedKeys (entries : Entries) : List Text :=
  spellings.filterMap fun group => (lookUp entries group).map fun found => found.1

/-- The fault of a key, if no setting uses it. -/
def keyFault? (used : List Text) : DatumKey → Option FaultDetail
  | .name s => if used.contains s then none else some ⟨some (.name s), .unknownKey⟩
  | key => some ⟨some key, .keyNotText⟩

/-- The faults of the keys that no setting uses, in order. -/
def unknownKeys (entries : Entries) : List FaultDetail :=
  entries.filterMap fun e => keyFault? (usedKeys entries) e.1

/-- The fault of a setting, as a list. -/
def faultOf {α : Type} : Except FaultDetail α → List FaultDetail
  | .ok _ => []
  | .error detail => [detail]

/-- Tests for an entry whose key is no text that can be shown. -/
def hasUnreadableKey (entries : Entries) : Bool :=
  entries.any fun entry =>
    match entry.1 with
    | .name s => !s.isScalar
    | _ => false

/-- The settings that the entries of a configuration give, or every fault in them. -/
def validateEntries (entries : Entries) : Except (List FaultDetail) Settings :=
  let host := readSetting entries ["host"] Settings.default.host readText
  let port := readSetting entries ["port"] Settings.default.port readPort
  let debug := readSetting entries ["debug"] Settings.default.debug readBoolean
  let logLevel :=
    readSetting entries ["log-level", "log_level"] Settings.default.logLevel readLogLevel
  let keywordCase :=
    readSetting entries ["keyword-case", "keyword_case"] Settings.default.keywordCase
      readKeywordCase
  let faults := faultOf host ++ faultOf port ++ faultOf debug ++ faultOf logLevel ++
    faultOf keywordCase ++ unknownKeys entries
  match faults, host, port, debug, logLevel, keywordCase with
  | [], .ok host, .ok port, .ok debug, .ok logLevel, .ok keywordCase =>
    .ok ⟨host, port, debug, logLevel, keywordCase⟩
  | _, _, _, _, _, _ => .error faults

/-- The settings that a configuration gives, or every fault in it. -/
def validate : Configuration → Except (List FaultDetail) Settings
  | .other => .error [⟨none, .notAMapping⟩]
  | .mapping entries =>
    if hasUnreadableKey entries then .error [⟨none, .textUndecodable⟩]
    else validateEntries entries

end SqlFrontEnd.Settings
