import Mathlib
import SqlFrontEnd.Settings.Validation

/-!
# What an object says of each setting

The five settings are read in the same way, each by a reader of its own, so what is true of one is
said of all of them at once.  A setting has a key, and two of them have another spelling of it.
What an object says of a setting is the member under its key or, where it has none, the member under
the other spelling; where it has neither it says nothing, and the setting is what it is by default.

* `Setting`, `Setting.Value`, `Settings.get` — the settings, and what they are set to.
* `Offers`, `Reads` — the member that a setting is read from, and what comes of it.
* `Unknown` — the keys that no setting is read from.
* `reads_settingOf`, `Reads.unique` — validation reads a setting as said, and in no other way.
* `unknownKeys_eq` — and it reports the keys that are unknown.
* `validateEntries_cases` — what it comes to.
-/

namespace SqlFrontEnd

/-- The settings, in the order in which their faults are reported. -/
inductive Setting where
  | host | port | debug | logLevel | keywordCase
deriving DecidableEq

namespace Setting

/-- Every setting once, in order. -/
def all : List Setting := [host, port, debug, logLevel, keywordCase]

/-- What a setting can be set to. -/
abbrev Value : Setting → Type
  | host => Text
  | port => ℤ
  | debug => Bool
  | logLevel => LogLevel
  | keywordCase => KeywordCase

/-- The preferred spelling of the key of a setting. -/
def spelling : Setting → String
  | host => "host"
  | port => "port"
  | debug => "debug"
  | logLevel => "log-level"
  | keywordCase => "keyword-case"

/-- The other spelling of the key of a setting, if it has one. -/
def otherSpelling? : Setting → Option String
  | logLevel => some "log_level"
  | keywordCase => some "keyword_case"
  | host | port | debug => none

/-- The key of a setting. -/
def key (x : Setting) : Text := x.spelling

/-- The key of a setting in its other spelling. -/
def otherKey? (x : Setting) : Option Text := x.otherSpelling?.map Text.ofString

/-- The reader of a setting. -/
def read : (x : Setting) → Datum → Except Fault x.Value
  | host => Settings.readText
  | port => Settings.readPort
  | debug => Settings.readBoolean
  | logLevel => Settings.readLogLevel
  | keywordCase => Settings.readKeywordCase

lemma mem_all (x : Setting) : x ∈ all := by
  cases x <;> decide

lemma nodup_all : all.Nodup := by
  decide

instance : Fintype Setting := ⟨all.toFinset, fun x => List.mem_toFinset.2 (mem_all x)⟩

/-- Tests for the key of a setting, in one spelling or the other. -/
def IsKey (x : Setting) (key : Text) : Prop := key = x.key ∨ x.otherKey? = some key

instance (x : Setting) : DecidablePred x.IsKey := fun _ => inferInstanceAs (Decidable (_ ∨ _))

/-! No key is a spelling of two settings. -/

lemma key_injective : Function.Injective key := by
  decide

lemma otherKey?_ne_key (x y : Setting) : x.otherKey? ≠ some y.key := by
  revert x y
  decide

lemma IsKey.unique {x y : Setting} {key : Text} (hx : x.IsKey key) (hy : y.IsKey key) : x = y := by
  have hother : ∀ x y : Setting, x.otherKey?.isSome → x.otherKey? = y.otherKey? → x = y := by
    decide
  obtain rfl | hx := hx
  · obtain hy | hy := hy
    · exact key_injective hy
    · exact absurd hy (y.otherKey?_ne_key x)
  · obtain rfl | hy := hy
    · exact absurd hx (x.otherKey?_ne_key y)
    · exact hother x y (hx ▸ rfl) (hx.trans hy.symm)

/-- A setting has one spelling besides the preferred one. -/
lemma IsKey.eq_of_ne {x : Setting} {key key' : Text} (hkey : x.IsKey key) (hkey' : x.IsKey key')
    (hne : key ≠ x.key) (hne' : key' ≠ x.key) : key = key' :=
  Option.some.inj ((hkey.resolve_left hne).symm.trans (hkey'.resolve_left hne'))

lemma IsKey.isScalar {x : Setting} {key : Text} (h : x.IsKey key) : key.isScalar = true := by
  have hkeys : ∀ x : Setting, x.key.isScalar = true ∧
      ∀ other ∈ x.otherKey?, other.isScalar = true := by
    decide
  obtain rfl | hother := h
  · exact (hkeys x).1
  · exact (hkeys x).2 key hother

end Setting

/-- What a setting is set to. -/
def Settings.get (settings : Settings) : (x : Setting) → x.Value
  | .host => settings.host
  | .port => settings.port
  | .debug => settings.debug
  | .logLevel => settings.logLevel
  | .keywordCase => settings.keywordCase

/-- Settings can be chosen one by one. -/
lemma Settings.exists_forall_get {p : (x : Setting) → x.Value → Prop} (h : ∀ x, ∃ v, p x v) :
    ∃ settings : Settings, ∀ x, p x (settings.get x) := by
  choose value hvalue using h
  refine ⟨⟨value .host, value .port, value .debug, value .logLevel, value .keywordCase⟩, ?_⟩
  intro x
  cases x <;> exact hvalue _

lemma Settings.ext_get {s t : Settings} (h : ∀ x, s.get x = t.get x) : s = t := by
  cases s
  cases t
  rw [Settings.mk.injEq]
  exact ⟨h .host, h .port, h .debug, h .logLevel, h .keywordCase⟩

namespace Settings

/-! ## What an object says -/

/-- What an object offers for a setting, and under which key. -/
inductive Offers (fields : List (Text × Json)) (x : Setting) : Text → Json → Prop
  | key {value : Json} (hmem : (x.key, value) ∈ fields) : Offers fields x x.key value
  | otherKey {other : Text} {value : Json} (hother : x.otherKey? = some other)
      (hmem : (other, value) ∈ fields) (hkey : x.key ∉ fields.map Prod.fst) :
      Offers fields x other value

/-- What comes of reading a setting from an object: a value, or a fault with the key as it is
spelled.  Where nothing is offered, the value is the default. -/
inductive Reads (fields : List (Text × Json)) (x : Setting) : Except FaultDetail x.Value → Prop
  | value {key : Text} {value : Json} {v : x.Value} (hoffers : Offers fields x key value)
      (hread : x.read (.ofJson value) = .ok v) : Reads fields x (.ok v)
  | fault {key : Text} {value : Json} {fault : Fault} (hoffers : Offers fields x key value)
      (hread : x.read (.ofJson value) = .error fault) :
      Reads fields x (.error ⟨some (.name key), fault⟩)
  | default (hnone : ∀ key value, ¬ Offers fields x key value) :
      Reads fields x (.ok (Settings.default.get x))

/-- A key of an object that no setting is read from.  The other spelling of a key is one where the
key itself is there. -/
def Unknown (fields : List (Text × Json)) (key : Text) : Prop :=
  (∀ x : Setting, ¬ x.IsKey key) ∨
    ∃ x : Setting, x.otherKey? = some key ∧ x.key ∈ fields.map Prod.fst

instance (fields : List (Text × Json)) : DecidablePred (Unknown fields) :=
  fun _ => inferInstanceAs (Decidable (_ ∨ _))

variable {fields : List (Text × Json)} {x : Setting} {key : Text} {value : Json}

lemma Offers.mem (h : Offers fields x key value) : (key, value) ∈ fields := by
  cases h with
  | key hmem => exact hmem
  | otherKey _ hmem _ => exact hmem

lemma Offers.isKey (h : Offers fields x key value) : x.IsKey key := by
  cases h with
  | key => exact .inl rfl
  | otherKey hother => exact .inr hother

lemma offers_iff : Offers fields x key value ↔
    x.IsKey key ∧ (key, value) ∈ fields ∧ (key = x.key ∨ x.key ∉ fields.map Prod.fst) := by
  constructor
  · intro h
    refine ⟨h.isKey, h.mem, ?_⟩
    cases h with
    | key => exact .inl rfl
    | otherKey _ _ hkey => exact .inr hkey
  · rintro ⟨hkey, hmem, hpreferred⟩
    obtain rfl | hother := hkey
    · exact .key hmem
    · obtain rfl | hnone := hpreferred
      · exact .key hmem
      · exact .otherKey hother hmem hnone

/-- Something is offered for a setting that is there under one of its keys. -/
lemma exists_offers_iff :
    (∃ key value, Offers fields x key value) ↔ ∃ key ∈ fields.map Prod.fst, x.IsKey key := by
  constructor
  · rintro ⟨key, value, h⟩
    exact ⟨key, List.mem_map_of_mem h.mem, h.isKey⟩
  · rintro ⟨key, hmem, hkey⟩
    by_cases hpreferred : x.key ∈ fields.map Prod.fst
    · obtain ⟨m, hm, hx⟩ := List.mem_map.1 hpreferred
      exact ⟨x.key, m.2, .key (hx ▸ hm)⟩
    · obtain ⟨m, hm, rfl⟩ := List.mem_map.1 hmem
      exact ⟨m.1, m.2, offers_iff.2 ⟨hkey, hm, .inr hpreferred⟩⟩

lemma Offers.key_unique {key' : Text} {value' : Json} (h : Offers fields x key value)
    (h' : Offers fields x key' value') : key = key' := by
  cases h with
  | key hmem =>
      cases h' with
      | key => rfl
      | otherKey _ _ hkey => exact absurd (List.mem_map_of_mem hmem) hkey
  | otherKey hother _ hkey =>
      cases h' with
      | key hmem => exact absurd (List.mem_map_of_mem hmem) hkey
      | otherKey hother' => exact Option.some.inj (hother.symm.trans hother')

lemma Offers.value_unique (hnodup : (fields.map Prod.fst).Nodup) {value' : Json}
    (h : Offers fields x key value) (h' : Offers fields x key value') : value = value' :=
  congrArg Prod.snd (List.inj_on_of_nodup_map hnodup h.mem h'.mem rfl)

lemma Reads.eq_of_offers (hnodup : (fields.map Prod.fst).Nodup)
    {r : Except FaultDetail x.Value} (h : Reads fields x r) (hoffers : Offers fields x key value) :
    r = (x.read (.ofJson value)).mapError fun fault => ⟨some (.name key), fault⟩ := by
  cases h with
  | value hoffers' hread =>
      obtain rfl := hoffers.key_unique hoffers'
      rw [hoffers.value_unique hnodup hoffers', hread]
      rfl
  | fault hoffers' hread =>
      obtain rfl := hoffers.key_unique hoffers'
      rw [hoffers.value_unique hnodup hoffers', hread]
      rfl
  | default hnone => exact absurd hoffers (hnone _ _)

/-- **A setting is read in one way.** -/
lemma Reads.unique (hnodup : (fields.map Prod.fst).Nodup) {r r' : Except FaultDetail x.Value}
    (h : Reads fields x r) (h' : Reads fields x r') : r = r' := by
  cases h with
  | value hoffers hread =>
      rw [h'.eq_of_offers hnodup hoffers, hread]
      rfl
  | fault hoffers hread =>
      rw [h'.eq_of_offers hnodup hoffers, hread]
      rfl
  | default hnone =>
      cases h' with
      | value hoffers => exact absurd hoffers (hnone _ _)
      | fault hoffers => exact absurd hoffers (hnone _ _)
      | default => rfl

/-! ## What validation reads -/

/-- The entries of an object. -/
def entriesOf (fields : List (Text × Json)) : Entries :=
  fields.map fun m => (.name m.1, .ofJson m.2)

/-- What validation reads a setting as. -/
def settingOf (fields : List (Text × Json)) (x : Setting) : Except FaultDetail x.Value :=
  readSetting (entriesOf fields) (x.spelling :: x.otherSpelling?.toList) (Settings.default.get x)
    x.read

lemma lookup_entriesOf (fields : List (Text × Json)) (key : Text) :
    (∃ value, (key, value) ∈ fields ∧
        (entriesOf fields).lookup (.name key) = some (.ofJson value)) ∨
      (key ∉ fields.map Prod.fst ∧ (entriesOf fields).lookup (.name key) = none) := by
  induction fields with
  | nil => exact .inr ⟨List.not_mem_nil, rfl⟩
  | cons m fields ih =>
      obtain ⟨name, value⟩ := m
      have hcons : (entriesOf ((name, value) :: fields)).lookup (.name key) =
          if key = name then some (.ofJson value) else (entriesOf fields).lookup (.name key) := by
        rw [entriesOf, List.map_cons, List.lookup_cons]
        split_ifs with hname
        · rw [hname, beq_self_eq_true]
        · have hne : (DatumKey.name key == DatumKey.name name) = false :=
            beq_eq_false_iff_ne.2 fun h => hname (DatumKey.name.inj h)
          rw [hne]
          rfl
      rw [hcons]
      split_ifs with hname
      · exact .inl ⟨value, by rw [hname]; exact List.mem_cons_self, rfl⟩
      · obtain ⟨other, hmem, hlookup⟩ | ⟨hnone, hlookup⟩ := ih
        · exact .inl ⟨other, List.mem_cons_of_mem _ hmem, hlookup⟩
        · exact .inr ⟨by simpa [hname] using hnone, hlookup⟩

/-- **Validation looks up what is offered.** -/
lemma lookUp_cases (fields : List (Text × Json)) (x : Setting) :
    (∃ spelling value, Offers fields x (Text.ofString spelling) value ∧
        lookUp (entriesOf fields) (x.spelling :: x.otherSpelling?.toList) =
          some (spelling, .ofJson value)) ∨
      ((∀ key value, ¬ Offers fields x key value) ∧
        lookUp (entriesOf fields) (x.spelling :: x.otherSpelling?.toList) = none) := by
  obtain ⟨value, hmem, hlookup⟩ | ⟨hkey, hlookup⟩ := lookup_entriesOf fields x.spelling
  · exact .inl ⟨_, value, .key hmem, by rw [lookUp, hlookup]⟩
  · rw [lookUp, hlookup]
    have hnot {key : Text} {value : Json} (hoffers : Offers fields x key value) :
        x.otherKey? = some key ∧ key ∈ fields.map Prod.fst := by
      cases hoffers with
      | key hmem => exact absurd (List.mem_map_of_mem hmem) hkey
      | otherKey hother hmem _ => exact ⟨hother, List.mem_map_of_mem hmem⟩
    cases hother : x.otherSpelling? with
    | none =>
        refine .inr ⟨fun key value hoffers => ?_, rfl⟩
        have hnone := (hnot hoffers).1
        rw [Setting.otherKey?, hother] at hnone
        cases hnone
    | some other =>
        have hotherKey : x.otherKey? = some (Text.ofString other) := by
          rw [Setting.otherKey?, hother]
          rfl
        rw [Option.toList_some]
        obtain ⟨value, hmem, hlookup⟩ | ⟨hnone, hlookup⟩ := lookup_entriesOf fields other
        · exact .inl ⟨other, value, .otherKey hotherKey hmem hkey, by rw [lookUp, hlookup]⟩
        · refine .inr ⟨fun key value hoffers => hnone ?_, by rw [lookUp, hlookup]; rfl⟩
          obtain ⟨hkey', hmem⟩ := hnot hoffers
          rwa [Option.some.inj (hotherKey.symm.trans hkey')]

/-- **Validation reads a setting** as the object says. -/
lemma reads_settingOf (fields : List (Text × Json)) (x : Setting) :
    Reads fields x (settingOf fields x) := by
  rw [settingOf, readSetting]
  obtain ⟨spelling, value, hoffers, hlookup⟩ | ⟨hnone, hlookup⟩ := lookUp_cases fields x
  · rw [hlookup]
    dsimp only
    split
    · next v hread => exact .value hoffers hread
    · next fault hread => exact .fault hoffers hread
  · rw [hlookup]
    exact .default hnone

lemma settingOf_eq_iff (hnodup : (fields.map Prod.fst).Nodup) {r : Except FaultDetail x.Value} :
    settingOf fields x = r ↔ Reads fields x r :=
  ⟨fun h => h ▸ reads_settingOf fields x, (reads_settingOf fields x).unique hnodup⟩

/-! ## What validation does not read -/

/-- **A key is known** where a setting is read from it. -/
lemma not_unknown_iff (hmem : (key, value) ∈ fields) :
    ¬ Unknown fields key ↔ ∃ x value, Offers fields x key value := by
  constructor
  · intro hknown
    rw [Unknown, not_or, not_forall, not_exists] at hknown
    obtain ⟨⟨x, hx⟩, hshadowed⟩ := hknown
    obtain rfl | hother := not_not.1 hx
    · exact ⟨x, value, .key hmem⟩
    · exact ⟨x, value, .otherKey hother hmem fun hkey => hshadowed x ⟨hother, hkey⟩⟩
  · rintro ⟨x, value, hoffers⟩ (hforeign | ⟨y, hother, hkey⟩)
    · exact hforeign x hoffers.isKey
    · obtain rfl := hoffers.isKey.unique (.inr hother)
      cases hoffers with
      | key => exact x.otherKey?_ne_key x hother
      | otherKey _ _ hkey' => exact hkey' hkey

lemma mem_usedKeys_iff :
    key ∈ usedKeys (entriesOf fields) ↔ ∃ x value, Offers fields x key value := by
  have hspellings : spellings =
      Setting.all.map fun x => x.spelling :: x.otherSpelling?.toList := rfl
  rw [usedKeys, hspellings, List.filterMap_map, List.mem_filterMap]
  constructor
  · rintro ⟨x, -, hx⟩
    obtain ⟨spelling, value, hoffers, hlookup⟩ | ⟨-, hlookup⟩ := lookUp_cases fields x
    · rw [Function.comp_apply, hlookup] at hx
      obtain rfl : Text.ofString spelling = key := Option.some.inj hx
      exact ⟨x, value, hoffers⟩
    · rw [Function.comp_apply, hlookup] at hx
      cases hx
  · rintro ⟨x, value, hoffers⟩
    refine ⟨x, x.mem_all, ?_⟩
    obtain ⟨spelling, value', hoffers', hlookup⟩ | ⟨hnone, -⟩ := lookUp_cases fields x
    · rw [Function.comp_apply, hlookup, (hoffers.key_unique hoffers')]
      rfl
    · exact absurd hoffers (hnone _ _)

/-- **Validation reports the keys that are unknown**, in the order of the object. -/
lemma unknownKeys_eq (fields : List (Text × Json)) :
    unknownKeys (entriesOf fields) = (fields.filter fun m => Unknown fields m.1).map
      fun m => ⟨some (.name m.1), .unknownKey⟩ := by
  rw [← List.filterMap_eq_map, List.filterMap_filter, unknownKeys, entriesOf, List.filterMap_map]
  refine List.filterMap_congr fun m hm => ?_
  have hused : (usedKeys (entriesOf fields)).contains m.1 = true ↔ ¬ Unknown fields m.1 := by
    rw [List.contains_iff_mem, mem_usedKeys_iff, not_unknown_iff hm]
  change (if (usedKeys (entriesOf fields)).contains m.1 then none else _) = _
  by_cases hunknown : Unknown fields m.1
  · rw [if_neg (by rw [hused]; exact not_not.2 hunknown), if_pos (decide_eq_true hunknown)]
    rfl
  · rw [if_pos (hused.2 hunknown), if_neg (by simpa using hunknown)]

/-! ## What validation comes to -/

/-- The faults of the settings, in order. -/
def settingFaults (fields : List (Text × Json)) : List FaultDetail :=
  Setting.all.flatMap fun x => faultOf (settingOf fields x)

lemma faultOf_eq_nil_iff {α : Type} {r : Except FaultDetail α} :
    faultOf r = [] ↔ ∃ v, r = .ok v := by
  cases r <;> simp [faultOf]

lemma settingFaults_eq_nil_iff :
    settingFaults fields = [] ↔ ∀ x, ∃ v, settingOf fields x = .ok v := by
  rw [settingFaults, List.flatMap_eq_nil_iff]
  exact ⟨fun h x => faultOf_eq_nil_iff.1 (h x x.mem_all), fun h x _ => faultOf_eq_nil_iff.2 (h x)⟩

/-- **What validation comes to**: settings where nothing is at fault, or all the faults. -/
lemma validateEntries_cases (fields : List (Text × Json)) :
    (∃ settings, validateEntries (entriesOf fields) = .ok settings ∧
        (∀ x, settingOf fields x = .ok (settings.get x)) ∧ unknownKeys (entriesOf fields) = []) ∨
      (settingFaults fields ++ unknownKeys (entriesOf fields) ≠ [] ∧
        validateEntries (entriesOf fields) =
          .error (settingFaults fields ++ unknownKeys (entriesOf fields))) := by
  have hfaults : faultOf (settingOf fields .host) ++ faultOf (settingOf fields .port) ++
      faultOf (settingOf fields .debug) ++ faultOf (settingOf fields .logLevel) ++
        faultOf (settingOf fields .keywordCase) = settingFaults fields := by
    simp only [settingFaults, Setting.all, List.flatMap_cons, List.flatMap_nil, List.append_assoc,
      List.append_nil]
  have hall : settingFaults fields ++ unknownKeys (entriesOf fields) = [] →
      ∀ x, ∃ v, settingOf fields x = .ok v := fun hnil =>
    settingFaults_eq_nil_iff.1 (List.append_eq_nil_iff.1 hnil).1
  rw [← hfaults] at hall ⊢
  unfold validateEntries
  dsimp only
  split
  · next hnil hhost hport hdebug hlogLevel hkeywordCase =>
    refine .inl ⟨_, rfl, fun x => ?_, (List.append_eq_nil_iff.1 hnil).2⟩
    cases x with
    | host => exact hhost
    | port => exact hport
    | debug => exact hdebug
    | logLevel => exact hlogLevel
    | keywordCase => exact hkeywordCase
  · next hother =>
    refine .inr ⟨fun hnil => ?_, rfl⟩
    obtain ⟨settings, hsettings⟩ := Settings.exists_forall_get (hall hnil)
    exact hother _ _ _ _ _ hnil (hsettings .host) (hsettings .port) (hsettings .debug)
      (hsettings .logLevel) (hsettings .keywordCase)

end Settings

end SqlFrontEnd
