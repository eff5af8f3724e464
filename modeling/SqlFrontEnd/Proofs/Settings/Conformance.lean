import Mathlib
import SqlFrontEnd.Proofs.Settings.Schema

/-!
# Configurations that conform

Validation accepts the objects that conform to the schema and no others: all keys are known, no
setting is given in both spellings, and what is given can be read.  Of any other object it reports
each fault once, first those of the settings in their order and then the unknown keys in the order
of the object.

One kind of object has a report of its own.  A key with half a surrogate pair cannot be shown in a
report, and where there is one, it is all that is reported.

* `Conforms`, `Reports` — the objects that are accepted, and what is reported of others.
* `conforms_iff` — an object conforms where every setting is read and no key is unknown.
* `readPort_bounds` — a port that is read is in its range.
* **`validate_json`** — validation of any JSON value.
-/

namespace SqlFrontEnd.Settings

/-! ## What conforms and what is reported -/

/-- An object that conforms to the schema. -/
structure Conforms (fields : List (Text × Json)) : Prop where
  known : ∀ key ∈ fields.map Prod.fst, ∃ x : Setting, x.IsKey key
  one_spelling : ∀ (x : Setting) (other : Text), x.otherKey? = some other →
    ¬ (x.key ∈ fields.map Prod.fst ∧ other ∈ fields.map Prod.fst)
  valid : ∀ (x : Setting) (key : Text) (value : Json), x.IsKey key → (key, value) ∈ fields →
    ∃ v, x.read (.ofJson value) = .ok v

/-- The report of all the faults of an object: one entry for each setting that is read with a fault,
in the order of the settings, and one for each unknown key, in the order of the object. -/
def Reports (fields : List (Text × Json)) (details : List FaultDetail) : Prop :=
  ∃ (faulty : List Setting) (found : List FaultDetail),
    faulty.Sublist Setting.all ∧ (∀ x, x ∈ faulty ↔ ∃ d, Reads fields x (.error d)) ∧
      List.Forall₂ (fun x d => Reads fields x (.error d)) faulty found ∧
        details = found ++ (fields.filter fun m => Unknown fields m.1).map
          fun m => ⟨some (.name m.1), .unknownKey⟩

variable {fields : List (Text × Json)} {x : Setting} {key : Text} {value : Json}

/-- An object conforms where every setting is read and no key is unknown. -/
lemma conforms_iff (hnodup : (fields.map Prod.fst).Nodup) :
    Conforms fields ↔
      (∀ x, ∃ v, settingOf fields x = .ok v) ∧ ∀ m ∈ fields, ¬ Unknown fields m.1 := by
  constructor
  · rintro ⟨hknown, hone, hvalid⟩
    refine ⟨fun x => ?_, fun m hm => ?_⟩
    · cases hsetting : settingOf fields x with
      | ok v => exact ⟨v, rfl⟩
      | error d =>
          have hreads := (settingOf_eq_iff hnodup).1 hsetting
          cases hreads with
          | fault hoffers hread =>
              obtain ⟨v, hv⟩ := hvalid x _ _ hoffers.isKey hoffers.mem
              rw [hread] at hv
              cases hv
    · have hkey : m.1 ∈ fields.map Prod.fst := List.mem_map_of_mem hm
      rintro (hforeign | ⟨x, hother, hpreferred⟩)
      · obtain ⟨x, hx⟩ := hknown m.1 hkey
        exact hforeign x hx
      · exact hone x m.1 hother ⟨hpreferred, hkey⟩
  · rintro ⟨hread, hused⟩
    refine ⟨fun key hkey => ?_, fun x other hother hboth => ?_, fun x key value hkey hmem => ?_⟩
    · obtain ⟨m, hm, rfl⟩ := List.mem_map.1 hkey
      by_contra hforeign
      exact hused m hm (.inl (not_exists.1 hforeign))
    · obtain ⟨m, hm, rfl⟩ := List.mem_map.1 hboth.2
      exact hused m hm (.inr ⟨x, hother, hboth.1⟩)
    · obtain ⟨y, value', hoffers⟩ := (not_unknown_iff hmem).1 (hused _ hmem)
      obtain rfl := hoffers.isKey.unique hkey
      obtain ⟨v, hv⟩ := hread y
      have hreads := ((settingOf_eq_iff hnodup).1 hv).eq_of_offers hnodup hoffers
      obtain rfl : value' = value :=
        congrArg Prod.snd (List.inj_on_of_nodup_map hnodup hoffers.mem hmem rfl)
      cases hvalue : y.read (.ofJson value') with
      | ok w => exact ⟨w, rfl⟩
      | error fault =>
          rw [hvalue] at hreads
          cases hreads

/-! ## What is reported -/

/-- The settings among some that are read with a fault. -/
def faultyAmong (fields : List (Text × Json)) (xs : List Setting) : List Setting :=
  xs.filter fun x => !(faultOf (settingOf fields x)).isEmpty

lemma mem_faultyAmong_iff {xs : List Setting} :
    x ∈ faultyAmong fields xs ↔ x ∈ xs ∧ ∃ d, settingOf fields x = .error d := by
  rw [faultyAmong, List.mem_filter]
  cases settingOf fields x <;> simp [faultOf]

/-- Each of them has one fault. -/
lemma forall₂_faultyAmong (fields : List (Text × Json)) (xs : List Setting) :
    List.Forall₂ (fun x d => settingOf fields x = .error d) (faultyAmong fields xs)
      (xs.flatMap fun x => faultOf (settingOf fields x)) := by
  induction xs with
  | nil => exact .nil
  | cons x xs ih =>
      rw [List.flatMap_cons, faultyAmong]
      cases hsetting : settingOf fields x with
      | ok v =>
          rw [List.filter_cons_of_neg (by simp [hsetting, faultOf])]
          exact ih
      | error d =>
          rw [List.filter_cons_of_pos (by simp [hsetting, faultOf])]
          exact .cons hsetting ih

/-- **What validation reports** of an object. -/
lemma reports_faults (hnodup : (fields.map Prod.fst).Nodup) :
    Reports fields (settingFaults fields ++ unknownKeys (entriesOf fields)) := by
  refine ⟨faultyAmong fields Setting.all, settingFaults fields, List.filter_sublist,
    fun x => ?_, ?_, by rw [unknownKeys_eq]⟩
  · rw [mem_faultyAmong_iff, and_iff_right x.mem_all]
    exact exists_congr fun d => settingOf_eq_iff hnodup
  · exact (forall₂_faultyAmong fields Setting.all).imp fun x d h => (settingOf_eq_iff hnodup).1 h

/-! ## Objects -/

lemma Conforms.isScalar (h : Conforms fields) : fields.all (·.1.isScalar) = true := by
  rw [List.all_eq_true]
  intro m hm
  obtain ⟨x, hx⟩ := h.known m.1 (List.mem_map_of_mem hm)
  exact hx.isScalar

/-- An object is validated setting by setting, if all its keys can be shown. -/
lemma validate_object (fields : List (Text × Json)) :
    validate (.ofJson (.object fields)) =
      if fields.all (·.1.isScalar) then validateEntries (entriesOf fields)
      else .error [⟨none, .textUndecodable⟩] := by
  have hunreadable : hasUnreadableKey (entriesOf fields) = !fields.all (·.1.isScalar) := by
    rw [hasUnreadableKey, entriesOf, List.any_map, List.not_all_eq_any_not]
    rfl
  have hvalidate : validate (.ofJson (.object fields)) =
      if hasUnreadableKey (entriesOf fields) then .error [⟨none, .textUndecodable⟩]
      else validateEntries (entriesOf fields) := rfl
  rw [hvalidate, hunreadable]
  cases fields.all (·.1.isScalar) <;> rfl

/-- **Acceptance.**  An object is accepted where every setting is read and no key is unknown. -/
lemma validate_object_eq_ok_iff {settings : Settings} (hnodup : (fields.map Prod.fst).Nodup) :
    validate (.ofJson (.object fields)) = .ok settings ↔
      (∀ x, settingOf fields x = .ok (settings.get x)) ∧ ∀ m ∈ fields, ¬ Unknown fields m.1 := by
  have hunknown : unknownKeys (entriesOf fields) = [] ↔ ∀ m ∈ fields, ¬ Unknown fields m.1 := by
    simp [unknownKeys_eq]
  rw [← hunknown]
  constructor
  · intro h
    rw [validate_object] at h
    split_ifs at h
    obtain ⟨settings', hvalidate, hread, hused⟩ | ⟨-, hvalidate⟩ := validateEntries_cases fields
    · obtain rfl := Except.ok.inj (hvalidate.symm.trans h)
      exact ⟨hread, hused⟩
    · rw [hvalidate] at h
      cases h
  · rintro ⟨hread, hused⟩
    have hconforms : Conforms fields :=
      (conforms_iff hnodup).2 ⟨fun x => ⟨_, hread x⟩, hunknown.1 hused⟩
    rw [validate_object, if_pos hconforms.isScalar]
    obtain ⟨settings', hvalidate, hread', -⟩ | ⟨hfaults, -⟩ := validateEntries_cases fields
    · rw [hvalidate]
      refine congrArg Except.ok (Settings.ext_get fun x => ?_)
      exact Except.ok.inj ((hread' x).symm.trans (hread x))
    · refine absurd ?_ hfaults
      rw [hused, List.append_nil, settingFaults_eq_nil_iff]
      exact fun x => ⟨_, hread x⟩

/-- **Rejection.** -/
lemma eq_of_validate_object_error {details : List FaultDetail}
    (h : validate (.ofJson (.object fields)) = .error details) :
    details = if fields.all (·.1.isScalar) then
      settingFaults fields ++ unknownKeys (entriesOf fields) else [⟨none, .textUndecodable⟩] := by
  rw [validate_object] at h
  split_ifs at h ⊢
  · obtain ⟨settings', hvalidate, -⟩ | ⟨-, hvalidate⟩ := validateEntries_cases fields
    · rw [hvalidate] at h
      cases h
    · exact (Except.error.inj (hvalidate.symm.trans h)).symm
  · exact (Except.error.inj h).symm

/-! ## Ports -/

lemma readPort_bounds {d : Datum} {port : ℤ} (h : readPort d = .ok port) :
    1 ≤ port ∧ port ≤ 65535 := by
  unfold readPort at h
  split at h
  · cases h
  · split_ifs at h with hlow hhigh
    cases h
    omega

lemma Reads.port_bounds {port : ℤ} (h : Reads fields .port (.ok port)) :
    1 ≤ port ∧ port ≤ 65535 := by
  cases h with
  | value _ hread => exact readPort_bounds hread
  | default => decide

/-- **Validation of any JSON value.**  Just the objects that conform are accepted, and then each
setting is what is read for it, with the port in its range and the two choices among their names.
What is reported of any other object is one entry for each setting that is read with a fault and one
for each unknown key; but where a key cannot be shown, that alone. -/
theorem validate_json {v : Json}
    (hv : ∀ fields, v = .object fields → (fields.map Prod.fst).Nodup) :
    ((∃ settings, validate (.ofJson v) = .ok settings) ↔
        ∃ fields, v = .object fields ∧ Conforms fields) ∧
      (∀ settings, validate (.ofJson v) = .ok settings →
        ∃ fields, v = .object fields ∧ (∀ x, Reads fields x (.ok (settings.get x))) ∧
          1 ≤ settings.port ∧ settings.port ≤ 65535 ∧
          settings.logLevel.name ∈ ["DEBUG", "INFO", "WARNING", "ERROR", "CRITICAL"] ∧
          settings.keywordCase.name ∈ ["sensitive", "insensitive"]) ∧
      ∀ fields details, v = .object fields → validate (.ofJson v) = .error details →
        if fields.all (·.1.isScalar) then Reports fields details
        else details = [⟨none, .textUndecodable⟩] := by
  have hobject {settings : Settings} (h : validate (.ofJson v) = .ok settings) :
      ∃ fields, v = .object fields := by
    cases v with
    | object fields => exact ⟨fields, rfl⟩
    | null | bool | int | real | string | array => cases h
  refine ⟨⟨?accepted, ?conforms⟩, ?read, ?reported⟩
  case accepted =>
    rintro ⟨settings, h⟩
    obtain ⟨fields, rfl⟩ := hobject h
    obtain ⟨hread, hused⟩ := (validate_object_eq_ok_iff (hv fields rfl)).1 h
    exact ⟨fields, rfl, (conforms_iff (hv fields rfl)).2 ⟨fun x => ⟨_, hread x⟩, hused⟩⟩
  case conforms =>
    rintro ⟨fields, rfl, hconforms⟩
    obtain ⟨hread, hused⟩ := (conforms_iff (hv fields rfl)).1 hconforms
    obtain ⟨settings, hsettings⟩ := Settings.exists_forall_get hread
    exact ⟨settings, (validate_object_eq_ok_iff (hv fields rfl)).2 ⟨hsettings, hused⟩⟩
  case read =>
    intro settings h
    obtain ⟨fields, rfl⟩ := hobject h
    have hreads (x : Setting) : Reads fields x (.ok (settings.get x)) := by
      rw [← ((validate_object_eq_ok_iff (hv fields rfl)).1 h).1 x]
      exact reads_settingOf fields x
    obtain ⟨hlow, hhigh⟩ := (hreads .port).port_bounds
    refine ⟨fields, rfl, hreads, hlow, hhigh, ?_, ?_⟩
    · cases settings.logLevel <;> decide
    · cases settings.keywordCase <;> decide
  case reported =>
    rintro fields details rfl h
    rw [eq_of_validate_object_error h]
    split_ifs
    · exact reports_faults (hv fields rfl)
    · rfl

/-- An object with a fault in one setting, with another setting in both spellings, and with a key
that belongs to none. -/
def faultyObject : List (Text × Json) :=
  [("zz", .null), ("log_level", .string "LOUD"), ("port", .string " 70_000 "),
    ("log-level", .string "INFO")]

theorem validate_json_faultyObject :
    (faultyObject.map Prod.fst).Nodup ∧
      Reports faultyObject [⟨some (.name "port"), .portTooLarge⟩, ⟨some (.name "zz"), .unknownKey⟩,
        ⟨some (.name "log_level"), .unknownKey⟩] := by
  have hnodup : (faultyObject.map Prod.fst).Nodup := by decide
  refine ⟨hnodup, ?_⟩
  exact (validate_json (v := .object faultyObject) fun _ h => Json.object.inj h ▸ hnodup).2.2
    faultyObject _ rfl rfl

/-- Half a surrogate pair as a key. -/
def halfKeyObject : List (Text × Json) := [([.surrogate 0], .int 1)]

/-- The key is unknown, but what is reported is no report of it. -/
theorem not_reports_halfKeyObject :
    ∃ details, validate (.ofJson (.object halfKeyObject)) = .error details ∧
      ¬ Reports halfKeyObject details := by
  refine ⟨_, rfl, ?_⟩
  rintro ⟨-, found, -, -, -, hdetails⟩
  have hlast := congrArg List.getLast? hdetails
  rw [List.getLast?_append] at hlast
  have hfault : FaultDetail.mk none .textUndecodable =
      ⟨some (.name [.surrogate 0]), .unknownKey⟩ := Option.some.inj hlast
  cases hfault

end SqlFrontEnd.Settings
