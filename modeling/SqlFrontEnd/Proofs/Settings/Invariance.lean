import Mathlib
import SqlFrontEnd.Proofs.Settings.Conformance

/-!
# Configurations that mean the same

What an object says depends neither on the order of its members nor on the spelling of a key that
has two, and settings that are written out are read back as they are.

Two objects are compared by what they offer.  Where the second one offers the same as the first
under renamed keys (`Carries`), each setting is read from both with one result up to the name of the
key, and a renamed key is unknown where the key is.  An object with its members in another order is
of this kind, with no key renamed, and so is an object with one key in its other spelling.

* `Carries` — the objects that offer the same under renamed keys.
* `Carries.settingOf_eq`, `Carries.unknown_iff`, `Carries.validate_cases` — such objects are read in
  the same way.
* `SameButOrder`, `validate_perm` — the order of the members.
* `respelled`, `validate_respelled` — the spelling of a key.
* `Settings.members`, `validate_members` — settings that are written out.
* **`validate_object_invariant`** — all three together.
-/

namespace SqlFrontEnd

/-! ## Renamed keys -/

/-- A key under another name, where it has one. -/
def DatumKey.renamed (ρ : Text → Text) : DatumKey → DatumKey
  | .name s => .name (ρ s)
  | key => key

/-- A fault with its key under another name. -/
def FaultDetail.renamed (ρ : Text → Text) (d : FaultDetail) : FaultDetail :=
  { d with key := d.key.map (·.renamed ρ) }

lemma FaultDetail.renamed_id (d : FaultDetail) : d.renamed id = d := by
  obtain ⟨_ | _ | _ | _, fault⟩ := d <;> rfl

namespace Settings

variable {fields fields' : List (Text × Json)} {ρ : Text → Text} {x y : Setting} {key : Text}
  {value : Json}

/-! ## Objects that offer the same -/

/-- The second object offers for each setting what the first one does, under the renamed key. -/
structure Carries (ρ : Text → Text) (fields fields' : List (Text × Json)) : Prop where
  offers : ∀ {x : Setting} {key : Text} {value : Json},
    Offers fields x key value → Offers fields' x (ρ key) value
  offered : ∀ {x : Setting} {key : Text} {value : Json},
    Offers fields' x key value → ∃ key value, Offers fields x key value

lemma Carries.reads (h : Carries ρ fields fields') {r : Except FaultDetail x.Value}
    (hread : Reads fields x r) : Reads fields' x (r.mapError (·.renamed ρ)) := by
  cases hread with
  | value hoffers hread => exact .value (h.offers hoffers) hread
  | fault hoffers hread => exact .fault (h.offers hoffers) hread
  | default hnone =>
      refine .default fun key value hoffers => ?_
      obtain ⟨key, value, hoffers⟩ := h.offered hoffers
      exact hnone key value hoffers

/-- **A setting is read with the same result** but for the name of the key. -/
lemma Carries.settingOf_eq (h : Carries ρ fields fields')
    (hnodup : (fields'.map Prod.fst).Nodup) (x : Setting) :
    settingOf fields' x = (settingOf fields x).mapError (·.renamed ρ) :=
  (settingOf_eq_iff hnodup).2 (h.reads (reads_settingOf fields x))

/-- **A renamed key is unknown where the key is**, if no two keys are renamed alike. -/
lemma Carries.unknown_iff (h : Carries ρ fields fields')
    (hinj : ∀ key ∈ fields.map Prod.fst, ∀ key' ∈ fields.map Prod.fst, ρ key = ρ key' → key = key')
    (hmem : (key, value) ∈ fields) (hmem' : (ρ key, value) ∈ fields') :
    Unknown fields' (ρ key) ↔ Unknown fields key := by
  rw [← not_iff_not, not_unknown_iff hmem, not_unknown_iff hmem']
  constructor
  · rintro ⟨x, value', hoffers'⟩
    obtain ⟨key₁, value₁, hoffers⟩ := h.offered hoffers'
    have hkey : key₁ = key :=
      hinj _ (List.mem_map_of_mem hoffers.mem) _ (List.mem_map_of_mem hmem)
        ((h.offers hoffers).key_unique hoffers')
    exact ⟨x, value₁, hkey ▸ hoffers⟩
  · rintro ⟨x, value, hoffers⟩
    exact ⟨x, value, h.offers hoffers⟩

lemma Carries.settingFaults_eq (h : Carries ρ fields fields')
    (hnodup : (fields'.map Prod.fst).Nodup) :
    settingFaults fields' = (settingFaults fields).map (·.renamed ρ) := by
  rw [settingFaults, settingFaults, List.map_flatMap]
  refine List.flatMap_congr fun x _ => ?_
  rw [h.settingOf_eq hnodup]
  cases settingOf fields x <;> rfl

/-- Both objects are accepted with the same settings, or neither is. -/
lemma Carries.validate_eq_ok_iff (h : Carries ρ fields fields')
    (hnodup : (fields.map Prod.fst).Nodup) (hnodup' : (fields'.map Prod.fst).Nodup)
    (hunknown : (∀ m ∈ fields', ¬ Unknown fields' m.1) ↔ ∀ m ∈ fields, ¬ Unknown fields m.1)
    (settings : Settings) :
    validate (.ofJson (.object fields')) = .ok settings ↔
      validate (.ofJson (.object fields)) = .ok settings := by
  rw [validate_object_eq_ok_iff hnodup, validate_object_eq_ok_iff hnodup', hunknown]
  refine and_congr_left fun _ => forall_congr' fun x => ?_
  rw [h.settingOf_eq hnodup']
  cases settingOf fields x <;> simp [Except.mapError]

/-- **What two such objects come to** differs in the names of keys and in what is unknown only. -/
lemma Carries.validate_cases (h : Carries ρ fields fields')
    (hnodup : (fields.map Prod.fst).Nodup) (hnodup' : (fields'.map Prod.fst).Nodup)
    (hunknown : (∀ m ∈ fields', ¬ Unknown fields' m.1) ↔ ∀ m ∈ fields, ¬ Unknown fields m.1)
    (hscalar : fields'.all (·.1.isScalar) = fields.all (·.1.isScalar)) :
    (∃ settings, validate (.ofJson (.object fields)) = .ok settings ∧
        validate (.ofJson (.object fields')) = .ok settings) ∨
      (validate (.ofJson (.object fields)) = .error [⟨none, .textUndecodable⟩] ∧
        validate (.ofJson (.object fields')) = .error [⟨none, .textUndecodable⟩]) ∨
      (validate (.ofJson (.object fields)) =
          .error (settingFaults fields ++ unknownKeys (entriesOf fields)) ∧
        validate (.ofJson (.object fields')) = .error
          ((settingFaults fields).map (·.renamed ρ) ++ unknownKeys (entriesOf fields'))) := by
  have hok := h.validate_eq_ok_iff hnodup hnodup' hunknown
  cases hresult : validate (.ofJson (.object fields)) with
  | ok settings => exact .inl ⟨settings, rfl, (hok settings).2 hresult⟩
  | error details =>
      cases hresult' : validate (.ofJson (.object fields')) with
      | ok settings =>
          rw [(hok settings).1 hresult'] at hresult
          cases hresult
      | error details' =>
          rw [eq_of_validate_object_error hresult, eq_of_validate_object_error hresult', hscalar,
            h.settingFaults_eq hnodup']
          split_ifs
          · exact .inr (.inr ⟨rfl, rfl⟩)
          · exact .inr (.inl ⟨rfl, rfl⟩)

/-! ## The order of the members -/

/-- Results that differ in the order of the unknown keys at most. -/
inductive SameButOrder :
    Except (List FaultDetail) Settings → Except (List FaultDetail) Settings → Prop
  | accepted (settings : Settings) : SameButOrder (.ok settings) (.ok settings)
  | rejected {faults unknown unknown' : List FaultDetail}
      (hunknown : ∀ d ∈ unknown, d.fault = .unknownKey) (hperm : unknown.Perm unknown') :
      SameButOrder (.error (faults ++ unknown)) (.error (faults ++ unknown'))

lemma SameButOrder.refl (result : Except (List FaultDetail) Settings) :
    SameButOrder result result := by
  cases result with
  | ok settings => exact .accepted settings
  | error details =>
      have hnone : ∀ d ∈ ([] : List FaultDetail), d.fault = .unknownKey := by simp
      simpa only [List.append_nil] using @rejected details [] [] hnone .nil

lemma carries_of_perm (hperm : fields.Perm fields') : Carries id fields fields' := by
  have hoffers (x : Setting) (key : Text) (value : Json) :
      Offers fields' x key value ↔ Offers fields x key value := by
    rw [offers_iff, offers_iff, hperm.mem_iff, (hperm.map Prod.fst).mem_iff]
  exact ⟨(hoffers _ _ _).2, fun h => ⟨_, _, (hoffers _ _ _).1 h⟩⟩

lemma unknown_iff_of_perm (hperm : fields.Perm fields') (key : Text) :
    Unknown fields' key ↔ Unknown fields key := by
  simp only [Unknown, (hperm.map Prod.fst).mem_iff]

lemma unknownKeys_perm (hperm : fields.Perm fields') :
    (unknownKeys (entriesOf fields)).Perm (unknownKeys (entriesOf fields')) := by
  rw [unknownKeys_eq, unknownKeys_eq]
  simp only [unknown_iff_of_perm hperm]
  exact (hperm.filter _).map _

lemma fault_eq_of_mem_unknownKeys {d : FaultDetail} (h : d ∈ unknownKeys (entriesOf fields)) :
    d.fault = .unknownKey := by
  rw [unknownKeys_eq] at h
  obtain ⟨m, -, rfl⟩ := List.mem_map.1 h
  rfl

/-- **The order of the members** matters for the order of the unknown keys only. -/
lemma validate_perm (hnodup : (fields.map Prod.fst).Nodup) (hperm : fields.Perm fields') :
    SameButOrder (validate (.ofJson (.object fields))) (validate (.ofJson (.object fields'))) := by
  have hnodup' : (fields'.map Prod.fst).Nodup := (hperm.map Prod.fst).nodup_iff.1 hnodup
  have hunknown : (∀ m ∈ fields', ¬ Unknown fields' m.1) ↔ ∀ m ∈ fields, ¬ Unknown fields m.1 := by
    simp only [hperm.mem_iff, unknown_iff_of_perm hperm]
  obtain ⟨settings, h, h'⟩ | ⟨h, h'⟩ | ⟨h, h'⟩ :=
    (carries_of_perm hperm).validate_cases hnodup hnodup' hunknown hperm.all_eq.symm
  · rw [h, h']
    exact .refl _
  · rw [h, h']
    exact .refl _
  · rw [h, h']
    simp only [FaultDetail.renamed_id, List.map_id']
    exact .rejected (fun _ => fault_eq_of_mem_unknownKeys) (unknownKeys_perm hperm)

/-! ## The spelling of a key -/

/-- A key, with the one that is spelled `old` spelled `new`. -/
def respell (old new key : Text) : Text := if key = old then new else key

/-- An object with the key that is spelled `old` spelled `new`. -/
def respelled (old new : Text) (fields : List (Text × Json)) : List (Text × Json) :=
  fields.map fun m => (respell old new m.1, m.2)

variable {old new : Text}

lemma mem_respelled (hmem : (key, value) ∈ fields) :
    (respell old new key, value) ∈ respelled old new fields :=
  List.mem_map_of_mem (f := fun m : Text × Json => (respell old new m.1, m.2)) hmem

lemma keys_respelled (old new : Text) (fields : List (Text × Json)) :
    (respelled old new fields).map Prod.fst = (fields.map Prod.fst).map (respell old new) := by
  rw [respelled, List.map_map, List.map_map]
  rfl

/-- Keys stay apart, unless one is spelled in the new way already. -/
lemma respell_injOn {keys : List Text} (hnew : new ∉ keys) :
    ∀ key ∈ keys, ∀ key' ∈ keys, respell old new key = respell old new key' → key = key' := by
  intro key hkey key' hkey' heq
  rw [respell, respell] at heq
  split_ifs at heq with h h'
  · rw [h, h']
  · exact absurd (heq ▸ hkey') hnew
  · exact absurd (heq ▸ hkey) hnew
  · exact heq

/-- A key belongs to the same setting in both spellings. -/
lemma isKey_respell_iff (hold : x.IsKey old) (hnew : x.IsKey new) :
    y.IsKey (respell old new key) ↔ y.IsKey key := by
  rw [respell]
  split_ifs with h
  · rw [h]
    constructor
    · intro hy
      rwa [hy.unique hnew]
    · intro hy
      rwa [hy.unique hold]
  · rfl

/-- **A respelled object offers the same.** -/
lemma carries_respelled (hold : x.IsKey old) (hnew : x.IsKey new)
    (hfresh : new ∉ fields.map Prod.fst) :
    Carries (respell old new) fields (respelled old new fields) := by
  constructor
  case offers =>
    intro y key value hoffers
    obtain ⟨hkey, hmem, hpreferred⟩ := offers_iff.1 hoffers
    refine offers_iff.2 ⟨(isKey_respell_iff hold hnew).2 hkey, mem_respelled hmem, ?_⟩
    -- Where the preferred spelling is there after respelling, it is the one that is read.
    rw [or_iff_not_imp_right, not_not, keys_respelled]
    intro hthere
    obtain ⟨key', hkey', heq⟩ := List.mem_map.1 hthere
    have hsame : key = key' := by
      by_cases h : key' = old
      · have hpreferred : y.key = new := by
          rw [← heq, respell, if_pos h]
        have hne {k : Text} (hk : k ∈ fields.map Prod.fst) : k ≠ y.key :=
          fun h => hfresh (hpreferred ▸ h ▸ hk)
        have hy : y.IsKey key' := (isKey_respell_iff hold hnew).1 (.inl heq)
        exact hkey.eq_of_ne hy (hne (List.mem_map_of_mem hmem)) (hne hkey')
      · rw [respell, if_neg h] at heq
        rw [heq]
        exact hpreferred.resolve_right (not_not.2 (heq ▸ hkey'))
    rw [hsame, heq]
  case offered =>
    intro y key value hoffers
    obtain ⟨key, hmem, hkey⟩ := exists_offers_iff.1 ⟨key, value, hoffers⟩
    rw [keys_respelled] at hmem
    obtain ⟨key', hmem', rfl⟩ := List.mem_map.1 hmem
    exact exists_offers_iff.2 ⟨key', hmem', (isKey_respell_iff hold hnew).1 hkey⟩

lemma isScalar_respell (hold : x.IsKey old) (hnew : x.IsKey new) (key : Text) :
    (respell old new key).isScalar = key.isScalar := by
  rw [respell]
  split_ifs with h
  · rw [h, hold.isScalar, hnew.isScalar]
  · rfl

lemma unknown_respelled_iff (hold : x.IsKey old) (hnew : x.IsKey new)
    (hfresh : new ∉ fields.map Prod.fst) (hmem : (key, value) ∈ fields) :
    Unknown (respelled old new fields) (respell old new key) ↔ Unknown fields key :=
  (carries_respelled hold hnew hfresh).unknown_iff (respell_injOn hfresh) hmem (mem_respelled hmem)

lemma unknownKeys_respelled (hold : x.IsKey old) (hnew : x.IsKey new)
    (hfresh : new ∉ fields.map Prod.fst) :
    unknownKeys (entriesOf (respelled old new fields)) =
      (unknownKeys (entriesOf fields)).map (·.renamed (respell old new)) := by
  have hfilter : (fields.filter fun m => Unknown (respelled old new fields) (respell old new m.1)) =
      fields.filter fun m => Unknown fields m.1 :=
    List.filter_congr fun m hm => decide_eq_decide.2 (unknown_respelled_iff hold hnew hfresh hm)
  rw [unknownKeys_eq, unknownKeys_eq, ← hfilter, List.map_map]
  conv_lhs => rw [respelled, List.filter_map, List.map_map]
  rfl

/-- **The spelling of a key** matters for its name in a report only. -/
lemma validate_respelled (hnodup : (fields.map Prod.fst).Nodup) (hold : x.IsKey old)
    (hnew : x.IsKey new) (hfresh : new ∉ fields.map Prod.fst) :
    validate (.ofJson (.object (respelled old new fields))) =
      (validate (.ofJson (.object fields))).mapError (List.map (·.renamed (respell old new))) := by
  have hnodup' : ((respelled old new fields).map Prod.fst).Nodup := by
    rw [keys_respelled]
    exact hnodup.map_on (respell_injOn hfresh)
  have hunknown : (∀ m ∈ respelled old new fields, ¬ Unknown (respelled old new fields) m.1) ↔
      ∀ m ∈ fields, ¬ Unknown fields m.1 := by
    conv_lhs => rw [respelled, List.forall_mem_map]
    exact forall₂_congr fun m hm => not_congr (unknown_respelled_iff hold hnew hfresh hm)
  have hscalar : (respelled old new fields).all (·.1.isScalar) = fields.all (·.1.isScalar) := by
    rw [respelled, List.all_map]
    exact congrArg fields.all (funext fun m => isScalar_respell hold hnew m.1)
  obtain ⟨settings, h, h'⟩ | ⟨h, h'⟩ | ⟨h, h'⟩ :=
    (carries_respelled hold hnew hfresh).validate_cases hnodup hnodup' hunknown hscalar
  · rw [h, h']
    rfl
  · rw [h, h']
    rfl
  · rw [h, h', Except.mapError, List.map_append, unknownKeys_respelled hold hnew hfresh]

/-! ## Settings that are written out -/

/-- What a setting is set to, as a JSON value. -/
def json (settings : Settings) : Setting → Json
  | .host => .string settings.host
  | .port => .int settings.port
  | .debug => .bool settings.debug
  | .logLevel => .string settings.logLevel.name
  | .keywordCase => .string settings.keywordCase.name

/-- The members of an object that writes out all the settings, under given keys. -/
def members (settings : Settings) (keys : Setting → Text) : List (Text × Json) :=
  Setting.all.map fun x => (keys x, settings.json x)

variable {settings : Settings} {keys : Setting → Text}

/-- **A value that is written out is read back.** -/
lemma read_json (hport : 1 ≤ settings.port ∧ settings.port ≤ 65535) (x : Setting) :
    x.read (.ofJson (settings.json x)) = .ok (settings.get x) := by
  cases x with
  | host => rfl
  | port =>
      change readPort (.int settings.port) = .ok settings.port
      rw [readPort, readInteger]
      simp only [not_lt.2 hport.1, not_lt.2 hport.2, if_false]
  | debug => rfl
  | logLevel =>
      change readLogLevel (.text (Text.ofString settings.logLevel.name)) = .ok settings.logLevel
      cases settings.logLevel <;> rfl
  | keywordCase =>
      change readKeywordCase (.text (Text.ofString settings.keywordCase.name)) =
        .ok settings.keywordCase
      cases settings.keywordCase <;> rfl

lemma members_keys (settings : Settings) (keys : Setting → Text) :
    (settings.members keys).map Prod.fst = Setting.all.map keys := by
  rw [members, List.map_map]
  rfl

/-- Each setting that is written out is offered under its key. -/
lemma offers_members (hkeys : ∀ x : Setting, x.IsKey (keys x)) (x : Setting) :
    Offers (settings.members keys) x (keys x) (settings.json x) := by
  refine offers_iff.2 ⟨hkeys x, List.mem_map_of_mem x.mem_all, ?_⟩
  rw [or_iff_not_imp_right, not_not, members_keys]
  intro hmem
  obtain ⟨y, -, hy⟩ := List.mem_map.1 hmem
  obtain rfl : y = x := (hkeys y).unique (.inl hy)
  exact hy

/-- **Settings that are written out are read back.** -/
lemma validate_members (hport : 1 ≤ settings.port ∧ settings.port ≤ 65535)
    (hkeys : ∀ x : Setting, x.IsKey (keys x)) :
    validate (.ofJson (.object (settings.members keys))) = .ok settings := by
  have hinj : Function.Injective keys := fun x y h => (hkeys x).unique (h ▸ hkeys y)
  have hnodup : ((settings.members keys).map Prod.fst).Nodup := by
    rw [members_keys]
    exact Setting.nodup_all.map hinj
  refine (validate_object_eq_ok_iff hnodup).2 ⟨fun x => ?_, fun m hm => ?_⟩
  · exact (settingOf_eq_iff hnodup).2 (.value (offers_members hkeys x) (read_json hport x))
  · obtain ⟨x, -, rfl⟩ := List.mem_map.1 hm
    exact (not_unknown_iff hm).2 ⟨x, _, offers_members hkeys x⟩

/-- **Validation does not depend on how an object is written.**  Its members may come in any order,
which only orders the unknown keys of a report; a key that is there in one of its spellings may be
spelled in the other way, which only changes its name in a report; and settings that were accepted
are accepted as they are when they are written out, under either spelling of each key. -/
theorem validate_object_invariant (hnodup : (fields.map Prod.fst).Nodup) :
    (∀ fields', fields.Perm fields' →
        SameButOrder (validate (.ofJson (.object fields)))
          (validate (.ofJson (.object fields')))) ∧
      (∀ (x : Setting) (old new : Text), x.IsKey old → x.IsKey new →
        new ∉ fields.map Prod.fst →
          validate (.ofJson (.object (respelled old new fields))) =
            (validate (.ofJson (.object fields))).mapError
              (List.map (·.renamed (respell old new)))) ∧
      ∀ settings, validate (.ofJson (.object fields)) = .ok settings →
        ∀ keys : Setting → Text, (∀ x : Setting, x.IsKey (keys x)) →
          validate (.ofJson (.object (settings.members keys))) = .ok settings := by
  refine ⟨fun fields' hperm => validate_perm hnodup hperm,
    fun x old new hold hnew hfresh => validate_respelled hnodup hold hnew hfresh,
    fun settings h keys hkeys => validate_members ?_ hkeys⟩
  have hport : Reads fields .port (.ok settings.port) :=
    (settingOf_eq_iff hnodup).1 (((validate_object_eq_ok_iff hnodup).1 h).1 .port)
  exact hport.port_bounds

/-- An object with a setting under the other spelling of its key, which cannot be read, and with
unknown keys around it. -/
def strayObject : List (Text × Json) :=
  [("zz", .null), ("log_level", .string "LOUD"), ("port", .bool true), ("a", .int 1)]

/-- An object that says some settings in unusual ways, with half a surrogate pair for a host. -/
def looseObject : List (Text × Json) :=
  [("debug", .string "On"), ("keyword_case", .string "insensitive"), ("port", .string " 8_0 "),
    ("host", .string [.surrogate ⟨0, by decide⟩])]

/-- What it says. -/
def looseSettings : Settings :=
  ⟨[.surrogate ⟨0, by decide⟩], 80, true, .warning, .insensitive⟩

theorem validate_object_invariant_stray :
    (strayObject.map Prod.fst).Nodup ∧ Text.ofString "log-level" ∉ strayObject.map Prod.fst ∧
      SameButOrder (validate (.ofJson (.object strayObject)))
        (validate (.ofJson (.object strayObject.reverse))) ∧
      validate (.ofJson (.object (respelled "log_level" "log-level" strayObject))) =
        .error [⟨some (.name "log-level"), .notALogLevel⟩, ⟨some (.name "zz"), .unknownKey⟩,
          ⟨some (.name "a"), .unknownKey⟩] ∧
      (looseObject.map Prod.fst).Nodup ∧
      validate (.ofJson (.object looseObject)) = .ok looseSettings ∧
      validate (.ofJson (.object (looseSettings.members Setting.key))) = .ok looseSettings := by
  have hstray : (strayObject.map Prod.fst).Nodup := by decide
  have hfresh : Text.ofString "log-level" ∉ strayObject.map Prod.fst := by decide
  have hloose : (looseObject.map Prod.fst).Nodup := by decide
  have haccepted : validate (.ofJson (.object looseObject)) = .ok looseSettings := by rfl
  refine ⟨hstray, hfresh, ?reordered, ?respelled, hloose, haccepted, ?written⟩
  case reordered =>
    exact (validate_object_invariant hstray).1 _ (List.reverse_perm _).symm
  case respelled =>
    exact (validate_object_invariant hstray).2.1 .logLevel _ _ (by decide) (by decide) hfresh
  case written =>
    exact (validate_object_invariant hloose).2.2 _ haccepted _ fun x => .inl rfl

end Settings

end SqlFrontEnd
