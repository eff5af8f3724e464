import Mathlib
import SqlFrontEnd.Proofs.CommandLine.Stages
import SqlFrontEnd.Proofs.Yaml.Construction

/-!
# Loading settings

Nearly all that can be wrong with a configuration file is a configuration error, which a run
complains of.  Three faults are not: octets that are not UTF-8, collections that are nested too
deeply for the stack, and a part of a text that says what it is to be and cannot be that.  They are
passed over by all that would report them, and end the run.

* `Settings.Legible` — octets without those faults, told from their text alone.
* `Settings.Breaks` — the first two faults, with what ends the run.
* `Settings.Answered` — loading has come to settings or to a configuration error.
* `Invocation.configPath` — the configuration file that a run looks for.
* **`load_answered`** — loading, and every run that loads, comes to an answer on legible files, and
  is ended by the first two faults.
* `not_answered_twoFiles` — two files on which neither comes to an answer.
-/

namespace SqlFrontEnd

namespace Settings

/-- Octets from which it can be told what is configured or what is wrong with that: they are UTF-8,
the stack suffices for their text, and its parts denote something. -/
structure Legible (libraries : Libraries) (octets : List UInt8) : Prop where
  text : ∃ text, Text.Utf8.decode octets = .ok text ∧
    libraries.exhausted? (Text.unifyNewlines text) = none ∧ Yaml.Legible (Text.unifyNewlines text)

/-- Octets that end what loads settings from them. -/
inductive Breaks (libraries : Libraries) (octets : List UInt8) : Failure → Prop
  /-- They are not UTF-8. -/
  | undecodable {part : Text.Utf8.Malformed} (h : Text.Utf8.decode octets = .error part) :
      Breaks libraries octets (.undecodable part)
  /-- The stack does not suffice for their text. -/
  | exhausted {text : List Char} {wording : String} (hdecode : Text.Utf8.decode octets = .ok text)
      (h : libraries.exhausted? (Text.unifyNewlines text) = some wording) :
      Breaks libraries octets (.exhausted wording)

/-- Loading has come to an answer: to settings, or to a configuration error. -/
def Answered (result : Except LoadError Settings) : Prop :=
  (∃ settings, result = .ok settings) ∨ ∃ error, result = .error (.config error)

variable {libraries : Libraries} {files : FileSystem} {path : Path} {octets : List UInt8}

lemma answered_iff {result : Except LoadError Settings} :
    Answered result ↔ ∀ cause, result ≠ .error (.failure cause) := by
  rcases result with (error | cause) | settings <;> simp [Answered]

/-! ## Octets -/

/-- **Legible octets** give settings or a configuration error. -/
lemma Legible.answered (h : Legible libraries octets) :
    Answered (ofOctets libraries path octets) := by
  obtain ⟨text, hdecode, hstack, hlegible⟩ := h.text
  have hread := Yaml.constructs_read hlegible
  rw [answered_iff]
  intro cause heq
  rw [ofOctets, hdecode] at heq
  dsimp only at heq
  rw [ofText, hstack] at heq
  generalize Yaml.Document.read (Text.unifyNewlines text) = result at hread heq
  cases hread with
  | malformed => cases heq
  | ok =>
      dsimp only at heq
      split at heq
      · cases heq
      · split at heq <;> cases heq

lemma Breaks.ofOctets_eq {cause : Failure} (h : Breaks libraries octets cause) :
    ofOctets libraries path octets = .error (.failure cause) := by
  cases h with
  | undecodable h => rw [ofOctets, h]
  | exhausted hdecode h =>
      rw [ofOctets, hdecode]
      dsimp only
      rw [ofText, h]

/-! ## Files -/

lemma load_of_content (hnull : path.hasNull = false) (h : files.content path = .ok octets) :
    load libraries files path = ofOctets libraries path octets := by
  rw [load, hnull, if_neg Bool.false_ne_true, h]

/-- **Loading comes to an answer** where there is nothing to read, or something legible. -/
lemma answered_load (hnull : path.hasNull = false)
    (h : ∀ octets, files.content path = .ok octets → Legible libraries octets) :
    Answered (load libraries files path) := by
  cases hcontent : files.content path with
  | error error =>
      rw [load, hnull, if_neg Bool.false_ne_true, hcontent]
      exact .inr ⟨_, rfl⟩
  | ok octets =>
      rw [load_of_content hnull hcontent]
      exact (h octets hcontent).answered

/-! ## The configuration file of a directory -/

variable {directory : Path}

lemma ofDirectory_of_regular (h : files.Regular (directory.child fileName)) :
    ofDirectory libraries files directory = load libraries files (directory.child fileName) := by
  rw [ofDirectory, find, FileSystem.isFile_eq_true_iff.2 h]

/-- A directory without such a file has the settings that hold by default. -/
lemma ofDirectory_of_missing (hnone : ¬ files.Regular (directory.child fileName))
    (hanswers : ∀ error, ¬ files.Refuses (directory.child fileName) error) :
    ofDirectory libraries files directory = .ok default := by
  rw [ofDirectory, find, FileSystem.isFile_eq_false hnone hanswers]

end Settings

namespace CommandLine

open Settings

variable {around : Surroundings} {invocation : Invocation}

/-- The configuration file that a run looks for: the one that was named, or the one of the working
directory. -/
def Invocation.configPath (invocation : Invocation) (around : Surroundings) : Path :=
  invocation.request.config.getD (around.directory.child Settings.fileName)

/-- The settings of a run are those of its configuration file, if it was named or is a regular
file. -/
lemma settingsOf_eq_load
    (h : invocation.request.config = none → around.files.Regular (invocation.configPath around)) :
    settingsOf around invocation.request.config =
      load around.libraries around.files (invocation.configPath around) := by
  revert h
  unfold Invocation.configPath
  cases invocation.request.config with
  | none => exact fun h => ofDirectory_of_regular (h rfl)
  | some path => exact fun _ => rfl

/-- The settings of a run come to an answer where loading its configuration file does. -/
lemma answered_settingsOf (hload : Answered
      (load around.libraries around.files (invocation.configPath around)))
    (hanswers : invocation.request.config = none →
      ∀ error, ¬ around.files.Refuses (invocation.configPath around) error) :
    Answered (settingsOf around invocation.request.config) := by
  by_cases h : invocation.request.config = none →
      around.files.Regular (invocation.configPath around)
  · rw [settingsOf_eq_load h]
    exact hload
  · obtain ⟨hconfig, hnone⟩ := Classical.not_imp.1 h
    have hanswers := hanswers hconfig
    rw [Invocation.configPath, hconfig] at hnone hanswers
    rw [hconfig]
    exact .inl ⟨_, ofDirectory_of_missing hnone hanswers⟩

/-- **Loading comes to an answer on legible files**: it returns settings or a configuration error,
whatever else is in the file system.  A run that looks for that file then has settings, or complains
of the configuration error; if the file was not named, this takes a system that tells whether it is
there.  A file that is not UTF-8, or is nested too deeply, ends loading and the runs that load
it. -/
theorem load_answered (around : Surroundings) {path : Path} (hnull : path.hasNull = false) :
    ((∀ octets, around.files.content path = .ok octets → Legible around.libraries octets) →
      Answered (load around.libraries around.files path) ∧
      ∀ words invocation, Invocation.ofWords words = .ok invocation →
        invocation.configPath around = path →
        (invocation.request.config = none → ∀ error, ¬ around.files.Refuses path error) →
        (∃ settings, settingsOf around invocation.request.config = .ok settings) ∨
        ∃ error report, settingsOf around invocation.request.config = .error (.config error) ∧
          run words around = .ok report ∧ report.Complains (.config error)) ∧
    ∀ octets cause, around.files.content path = .ok octets →
      Breaks around.libraries octets cause →
      load around.libraries around.files path = .error (.failure cause) ∧
      ∀ words invocation, Invocation.ofWords words = .ok invocation →
        invocation.configPath around = path →
        (invocation.request.config = none → around.files.Regular path) →
        run words around = .error cause := by
  constructor
  · intro hlegible
    have hload := answered_load hnull hlegible
    refine ⟨hload, ?_⟩
    rintro words invocation hwords rfl hanswers
    refine (answered_settingsOf hload hanswers).imp id ?_
    rintro ⟨error, hsettings⟩
    exact ⟨error, _, hsettings, run_of_configError hwords hsettings,
      Report.complains_ofComplaint _ _⟩
  · intro octets cause hcontent hbreaks
    have hload : load around.libraries around.files path = .error (.failure cause) := by
      rw [load_of_content hnull hcontent, hbreaks.ofOctets_eq]
    refine ⟨hload, ?_⟩
    rintro words invocation hwords rfl hregular
    exact run_of_failure hwords ((settingsOf_eq_load hregular).trans hload)

/-! ## Runs on fixed files -/

/-- Surroundings of a folder whose configuration file holds given octets. -/
def configured (octets : List UInt8) : Surroundings := folder [([Settings.fileName], .file octets)]

/-- The configuration file of that folder. -/
def configuredPath : Path := ⟨"/", [Settings.fileName]⟩

/-- A text of one port, which is too large. -/
def portText : List Char := "port: 70000\n".toList

/-- The text denotes a mapping of a word to an integer. -/
lemma legible_portText : Yaml.Legible portText where
  scannable := Yaml.scannable_of_not_mem (by decide) (by decide)
  tree := by
    let key : Yaml.Tree := .scalar ⟨none, none⟩ (Text.ofString "port") true
    let value : Yaml.Tree := .scalar ⟨none, none⟩ (Text.ofString "70000") true
    have htokens : Yaml.tokens portText = .ok [.blockMappingStart, .key,
        .scalar (Text.ofString "port") true, .value, .scalar (Text.ofString "70000") true,
        .blockEnd, .streamEnd] := by decide +kernel
    intro ts tree hts htree
    obtain rfl := Except.ok.inj (htokens.symm.trans hts)
    have hdocument : Yaml.Tree.document [.blockMappingStart, .key,
        .scalar (Text.ofString "port") true, .value, .scalar (Text.ofString "70000") true,
        .blockEnd, .streamEnd] = .ok (some (.mapping ⟨none, none⟩ [(key, value)])) := by rfl
    obtain rfl := Option.some.inj (Except.ok.inj (hdocument.symm.trans htree))
    have hkey : key.Legible := .scalar fun kind hkind => by
      obtain rfl : Yaml.Kind.text = kind := Option.some.inj hkind
      exact .any (by decide)
    have hvalue : value.Legible := .scalar fun kind hkind => by
      obtain rfl : Yaml.Kind.int = kind := Option.some.inj hkind
      have hdigits : Literal.Digits 10 "70000".toList :=
        ⟨by decide, List.all_eq_true.1 (by decide)⟩
      have hwrites : Yaml.WritesInteger "70000".toList := by
        refine .decimal (by decide) fun part hpart => ?_
        obtain rfl := List.mem_singleton.1 hpart
        exact ⟨hdigits, by decide⟩
      have hsign : [] ∈ Yaml.signs := by decide
      exact .int hsign hwrites (by decide)
    refine .mapping (fun kind hkind => ?_) ?_ ?_
    · obtain rfl : Yaml.Kind.mapping = kind := Option.some.inj hkind
      rfl
    · exact List.forall_mem_singleton.2 hkey
    · exact List.forall_mem_singleton.2 hvalue

/-- A run complains of the port. -/
theorem load_answered_port :
    ∃ report, run ["tokenize"] (configured (Text.Utf8.encode portText)) = .ok report ∧
      report.Complains (.config (.invalid configuredPath
        [⟨some (.name (Text.ofString "port")), .portTooLarge⟩] "")) := by
  have hcontent : (configured (Text.Utf8.encode portText)).files.content configuredPath =
      .ok (Text.Utf8.encode portText) := by decide +kernel
  have hregular : (configured (Text.Utf8.encode portText)).files.Regular configuredPath :=
    ⟨by decide, by decide +kernel⟩
  have hsettings : settingsOf (configured (Text.Utf8.encode portText)) none =
      .error (.config (.invalid configuredPath
        [⟨some (.name (Text.ofString "port")), .portTooLarge⟩] "")) := by decide +kernel
  have hunified : Text.unifyNewlines portText = portText := by decide
  have hlegible : Legible quietLibraries (Text.Utf8.encode portText) :=
    ⟨portText, Text.Utf8.decode_encode _, rfl, hunified.symm ▸ legible_portText⟩
  have hnull : configuredPath.hasNull = false := by decide
  obtain ⟨-, hruns⟩ := (load_answered (configured (Text.Utf8.encode portText)) hnull).1
    fun octets h => by
      obtain rfl := Except.ok.inj (hcontent.symm.trans h)
      exact hlegible
  obtain ⟨settings, h⟩ | ⟨error, report, h, hrun, hreport⟩ := hruns ["tokenize"]
    ⟨none, .tokenize {}⟩ (by decide +kernel) rfl fun _ => hregular.not_refuses
  · cases hsettings.symm.trans h
  · obtain rfl := LoadError.config.inj (Except.error.inj (hsettings.symm.trans h))
    exact ⟨report, hrun, hreport⟩

/-- Octets in the configuration file of the folder end what loads them. -/
structure Ends (octets : List UInt8) (cause : Failure) : Prop where
  not_answered : ¬ Answered (load quietLibraries (configured octets).files configuredPath)
  run_eq : ∀ words ∈ [["tokenize"], ["serve"]], run words (configured octets) = .error cause

lemma ends_configured {octets : List UInt8} {cause : Failure}
    (hregular : (configured octets).files.Regular configuredPath)
    (hload : load quietLibraries (configured octets).files configuredPath =
      .error (.failure cause)) : Ends octets cause := by
  refine ⟨fun h => answered_iff.1 h cause hload, ?_⟩
  have htokenize : Invocation.ofWords ["tokenize"] = .ok ⟨none, .tokenize {}⟩ := by decide +kernel
  have hserve : Invocation.ofWords ["serve"] = .ok ⟨none, .serve {}⟩ := by decide +kernel
  have hsettings : settingsOf (configured octets) none = .error (.failure cause) :=
    (ofDirectory_of_regular hregular).trans hload
  exact List.forall_mem_cons.2 ⟨run_of_failure htokenize hsettings,
    List.forall_mem_singleton.2 (run_of_failure hserve hsettings)⟩

/-- **Two configuration files without an answer**: an octet that begins nothing, and a word that is
to be an integer. -/
theorem not_answered_twoFiles :
    Ends [0xFF] (.undecodable ⟨.invalidStart, 0, 1, 0xFF⟩) ∧
      Ends (Text.Utf8.encode "port: !!int x\n".toList)
        (.scalar (.notAnInteger 10 (Text.ofString "x"))) := by
  constructor
  · exact ends_configured ⟨by decide, by decide +kernel⟩ (by decide +kernel)
  · exact ends_configured ⟨by decide, by decide +kernel⟩ (by decide +kernel)

end CommandLine

end SqlFrontEnd
