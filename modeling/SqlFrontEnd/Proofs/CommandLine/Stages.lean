import Mathlib
import SqlFrontEnd.CommandLine.Run
import SqlFrontEnd.Files.Tree
import SqlFrontEnd.Proofs.CommandLine.Words
import SqlFrontEnd.Proofs.Files.Limits

/-!
# The stages of a run

A run that prints tokens comes through four stages: it loads its settings, it looks for its file, it
reads and decodes what it has found, and it wants more of that than blanks.  What each stage fails
on is said here without the run.  The run complains of the first stage that fails, and of nothing
else; where none fails it prints the tokens of its source.

One answer of the system is passed on by the run, and ends it: that it does not tell whether the
name is that of a regular file.

* `Report.Complains`, `Report.Presents` — reports that are nothing but a complaint, and reports of
  tokens.
* `SourceText`, `Unreadable` — the text that a request names, and why it may name none.
* `Fails`, `FirstFailure` — the stages that fail, and the first of them; `FirstFailure.unique`.
* `source_cases`, `run_of_settings` — the run, stage by stage.
* **`run_tokenize`** — every run that prints tokens.
* `folder` — surroundings of given files, for runs on fixed inputs.
-/

namespace SqlFrontEnd.CommandLine

/-! ## Reports -/

/-- A report that is nothing but a complaint. -/
structure Report.Complains (report : Report) (complaint : Complaint) : Prop where
  exit_eq : report.exit = 1
  output_eq : report.output = []
  standardError_eq : ∀ time, report.standardError time = "Error: " ++ complaint.message ++ "\n"

/-- A report of tokens: the output is their records or their lines, and nothing besides.  The exit
status tells whether there are faults. -/
structure Report.Presents (report : Report) (json : Bool) (tokens : List Token) : Prop where
  output_eq : report.output =
    if json then Text.ofString ((records tokens).render (.indented 2) ++ "\n")
    else tokens.flatMap fun t => t.shown ++ [.char '\n']
  exit_eq : report.exit = if ∃ t ∈ tokens, t.isError = true then 1 else 0

lemma Report.complains_ofComplaint (level : LogLevel) (complaint : Complaint) :
    (Report.ofComplaint level complaint).Complains complaint :=
  ⟨rfl, rfl, fun _ => String.empty_append⟩

lemma presents_tokenizeReport (level : LogLevel) (policy : KeywordCase) (json : Bool)
    (source : Text) :
    (tokenizeReport level policy json source).Presents json (tokenize policy source) where
  output_eq := rfl
  exit_eq := by simp [tokenizeReport, hasErrors]

/-! ## What a request names -/

/-- The text that a name stands for: that of standard input, or that in the regular file of the
name.  The lines of a file end with line feeds, and so do those of standard input if it unifies
them. -/
inductive SourceText (around : Surroundings) (file : String) : Text → Prop
  | input {octets : List UInt8} {text : Text} (hfile : file = standardInput)
      (hoctets : around.input.octets = .ok octets)
      (hdecode : around.input.policy.decode octets = .ok text) :
      SourceText around file (if around.input.unifies then Text.unifyBreaks text else text)
  | file {octets : List UInt8} {chars : List Char} (hfile : file ≠ standardInput)
      (hcontent : around.files.Content (Path.ofString file) octets)
      (hdecode : Text.Utf8.decode octets = .ok chars) :
      SourceText around file (Text.ofChars (Text.unifyNewlines chars))

/-- A name that stands for something that cannot be read, or is not UTF-8, with the complaint of
it. -/
inductive Unreadable (around : Surroundings) (file : String) : Complaint → Prop
  | input {error : FileError} (hfile : file = standardInput)
      (herror : around.input.octets = .error error) :
      Unreadable around file (.unreadableInput error)
  | inputText {octets : List UInt8} {part : Text.Utf8.Malformed} (hfile : file = standardInput)
      (hoctets : around.input.octets = .ok octets)
      (hdecode : around.input.policy.decode octets = .error part) :
      Unreadable around file (.undecodableInput part)
  | file {error : FileError} (hfile : file ≠ standardInput)
      (hregular : around.files.Regular (Path.ofString file))
      (herror : around.files.content (Path.ofString file) = .error error) :
      Unreadable around file (.unreadableFile (Path.ofString file) error)
  | fileText {octets : List UInt8} {part : Text.Utf8.Malformed} (hfile : file ≠ standardInput)
      (hcontent : around.files.Content (Path.ofString file) octets)
      (hdecode : Text.Utf8.decode octets = .error part) :
      Unreadable around file (.undecodableFile (Path.ofString file) part)

variable {around : Surroundings} {file : String}

lemma SourceText.unique {text text' : Text} (h : SourceText around file text)
    (h' : SourceText around file text') : text = text' := by
  cases h with
  | input hfile hoctets hdecode =>
      cases h' with
      | input _ hoctets' hdecode' =>
          obtain rfl := Except.ok.inj (hoctets.symm.trans hoctets')
          obtain rfl := Except.ok.inj (hdecode.symm.trans hdecode')
          rfl
      | file hfile' => exact absurd hfile hfile'
  | file hfile hcontent hdecode =>
      cases h' with
      | input hfile' => exact absurd hfile' hfile
      | file _ hcontent' hdecode' =>
          obtain rfl := hcontent.unique hcontent'
          obtain rfl := Except.ok.inj (hdecode.symm.trans hdecode')
          rfl

/-! ## The source of a request -/

/-- A text that is named makes a source unless there are only blanks in it. -/
lemma SourceText.sourceOf_eq {text : Text} (h : SourceText around file text) :
    sourceOf around file =
      if Text.isBlankText text then .error (.complaint .blankSource) else .ok text := by
  cases h with
  | input hfile hoctets hdecode =>
      rw [sourceOf, if_pos hfile, inputSource, hoctets]
      dsimp only
      rw [hdecode]
  | file hfile hcontent hdecode =>
      rw [sourceOf, if_neg hfile, fileSource, FileSystem.isFile_eq_true_iff.2 hcontent.regular]
      dsimp only
      rw [hcontent.content_eq]
      dsimp only
      rw [hdecode]

/-- What cannot be read is complained of. -/
lemma Unreadable.sourceOf_eq {complaint : Complaint} (h : Unreadable around file complaint) :
    sourceOf around file = .error (.complaint complaint) := by
  cases h with
  | input hfile herror => rw [sourceOf, if_pos hfile, inputSource, herror]
  | inputText hfile hoctets hdecode =>
      rw [sourceOf, if_pos hfile, inputSource, hoctets]
      dsimp only
      rw [hdecode]
  | file hfile hregular herror =>
      rw [sourceOf, if_neg hfile, fileSource, FileSystem.isFile_eq_true_iff.2 hregular]
      dsimp only
      rw [herror]
  | fileText hfile hcontent hdecode =>
      rw [sourceOf, if_neg hfile, fileSource, FileSystem.isFile_eq_true_iff.2 hcontent.regular]
      dsimp only
      rw [hcontent.content_eq]
      dsimp only
      rw [hdecode]

/-- A name that is not one of a regular file is complained of, where the system tells so. -/
lemma sourceOf_of_missing (hfile : file ≠ standardInput)
    (hmissing : ¬ around.files.Regular (Path.ofString file))
    (hanswers : ∀ error, ¬ around.files.Refuses (Path.ofString file) error) :
    sourceOf around file = .error (.complaint (.noSuchFile (Path.ofString file))) := by
  rw [sourceOf, if_neg hfile, fileSource, FileSystem.isFile_eq_false hmissing hanswers]

/-- Where the system does not tell, the run ends. -/
lemma sourceOf_of_refuses {error : FileError} (hfile : file ≠ standardInput)
    (hrefuses : around.files.Refuses (Path.ofString file) error) :
    sourceOf around file = .error (.failure (.file error (Path.ofString file))) := by
  rw [sourceOf, if_neg hfile, fileSource, FileSystem.isFile_eq_error_iff.2 hrefuses]

/-- **What a name stands for**: nothing, something unreadable, or a text. -/
lemma source_cases (around : Surroundings) (file : String) :
    (file ≠ standardInput ∧ ¬ around.files.Regular (Path.ofString file)) ∨
      (∃ complaint, Unreadable around file complaint) ∨ ∃ text, SourceText around file text := by
  by_cases hfile : file = standardInput
  · cases hoctets : around.input.octets with
    | error error => exact .inr (.inl ⟨_, .input hfile hoctets⟩)
    | ok octets =>
        cases hdecode : around.input.policy.decode octets with
        | error part => exact .inr (.inl ⟨_, .inputText hfile hoctets hdecode⟩)
        | ok text => exact .inr (.inr ⟨_, .input hfile hoctets hdecode⟩)
  · by_cases hregular : around.files.Regular (Path.ofString file)
    swap
    · exact .inl ⟨hfile, hregular⟩
    cases hcontent : around.files.content (Path.ofString file) with
    | error error => exact .inr (.inl ⟨_, .file hfile hregular hcontent⟩)
    | ok octets =>
        cases hdecode : Text.Utf8.decode octets with
        | error part => exact .inr (.inl ⟨_, .fileText hfile ⟨hregular, hcontent⟩ hdecode⟩)
        | ok chars => exact .inr (.inr ⟨_, .file hfile ⟨hregular, hcontent⟩ hdecode⟩)

/-! ## Stages -/

/-- The stages of a run that prints tokens. -/
inductive Stage where
  | settings | file | reading | content
deriving DecidableEq, Repr

/-- The number of stages that come before one. -/
def Stage.place : Stage → ℕ
  | .settings => 0
  | .file => 1
  | .reading => 2
  | .content => 3

lemma Stage.place_injective : Function.Injective Stage.place := by
  intro s s' h
  cases s <;> cases s' <;> first | rfl | cases h

/-- A stage fails, and gives reason to complain. -/
inductive Fails (around : Surroundings) (request : TokenizeRequest) : Stage → Complaint → Prop
  /-- There is something wrong with the configuration file. -/
  | settings {error : ConfigError} (h : settingsOf around request.config = .error (.config error)) :
      Fails around request .settings (.config error)
  /-- The name is not that of a regular file. -/
  | file (hfile : request.file ≠ standardInput)
      (h : ¬ around.files.Regular (Path.ofString request.file)) :
      Fails around request .file (.noSuchFile (Path.ofString request.file))
  /-- What is named cannot be read as UTF-8. -/
  | reading {complaint : Complaint} (h : Unreadable around request.file complaint) :
      Fails around request .reading complaint
  /-- What is named holds nothing but blanks. -/
  | content {text : Text} (htext : SourceText around request.file text)
      (h : Text.isBlankText text = true) : Fails around request .content .blankSource

/-- The first stage that fails. -/
structure FirstFailure (around : Surroundings) (request : TokenizeRequest) (stage : Stage)
    (complaint : Complaint) : Prop where
  fails : Fails around request stage complaint
  not_fails : ∀ {earlier complaint'}, earlier.place < stage.place →
    ¬ Fails around request earlier complaint'

variable {request : TokenizeRequest} {stage stage' : Stage} {complaint complaint' : Complaint}

lemma Unreadable.unique (h : Unreadable around file complaint)
    (h' : Unreadable around file complaint') : complaint = complaint' := by
  have heq := h.sourceOf_eq
  rw [h'.sourceOf_eq] at heq
  cases heq
  rfl

lemma Unreadable.not_sourceText (h : Unreadable around file complaint) (text : Text) :
    ¬ SourceText around file text := by
  intro htext
  cases h with
  | input hfile herror =>
      cases htext with
      | input _ hoctets => rw [herror] at hoctets; cases hoctets
      | file hfile' => exact hfile' hfile
  | inputText hfile hoctets hdecode =>
      cases htext with
      | input _ hoctets' hdecode' =>
          obtain rfl := Except.ok.inj (hoctets.symm.trans hoctets')
          rw [hdecode] at hdecode'
          cases hdecode'
      | file hfile' => exact hfile' hfile
  | file hfile _ herror =>
      cases htext with
      | input hfile' => exact hfile hfile'
      | file _ hcontent => rw [hcontent.content_eq] at herror; cases herror
  | fileText hfile hcontent hdecode =>
      cases htext with
      | input hfile' => exact hfile hfile'
      | file _ hcontent' hdecode' =>
          obtain rfl := hcontent.unique hcontent'
          rw [hdecode] at hdecode'
          cases hdecode'

/-- A name that stands for something is standard input or one of a regular file. -/
lemma Unreadable.regular (h : Unreadable around file complaint) (hfile : file ≠ standardInput) :
    around.files.Regular (Path.ofString file) := by
  cases h with
  | input hfile' | inputText hfile' => exact absurd hfile' hfile
  | file _ hregular => exact hregular
  | fileText _ hcontent => exact hcontent.regular

lemma SourceText.regular {text : Text} (h : SourceText around file text)
    (hfile : file ≠ standardInput) : around.files.Regular (Path.ofString file) := by
  cases h with
  | input hfile' => exact absurd hfile' hfile
  | file _ hcontent => exact hcontent.regular

namespace Fails

lemma unique (h : Fails around request stage complaint)
    (h' : Fails around request stage complaint') : complaint = complaint' := by
  cases h with
  | settings h =>
      cases h' with
      | settings h' => rw [h] at h'; cases h'; rfl
  | file => cases h'; rfl
  | reading h =>
      cases h' with
      | reading h' => exact h.unique h'
  | content => cases h'; rfl

lemma ne_settings {settings : Settings} (h : Fails around request stage complaint)
    (hsettings : settingsOf around request.config = .ok settings) : stage ≠ .settings := by
  rintro rfl
  cases h with
  | settings h => rw [hsettings] at h; cases h

lemma ne_file (h : Fails around request stage complaint)
    (hregular : request.file ≠ standardInput →
      around.files.Regular (Path.ofString request.file)) : stage ≠ .file := by
  rintro rfl
  cases h with
  | file hfile h => exact h (hregular hfile)

lemma ne_reading {text : Text} (h : Fails around request stage complaint)
    (htext : SourceText around request.file text) : stage ≠ .reading := by
  rintro rfl
  cases h with
  | reading h => exact h.not_sourceText text htext

lemma ne_content {text : Text} (h : Fails around request stage complaint)
    (htext : SourceText around request.file text) (hblank : ¬ Text.isBlankText text = true) :
    stage ≠ .content := by
  rintro rfl
  cases h with
  | content htext' h => exact hblank (htext.unique htext' ▸ h)

end Fails

/-- There is one first failure at most. -/
lemma FirstFailure.unique (h : FirstFailure around request stage complaint)
    (h' : FirstFailure around request stage' complaint') :
    stage = stage' ∧ complaint = complaint' := by
  have hle : stage.place ≤ stage'.place := Nat.not_lt.1 fun hlt => h.not_fails hlt h'.fails
  have hge : stage'.place ≤ stage.place := Nat.not_lt.1 fun hlt => h'.not_fails hlt h.fails
  obtain rfl : stage = stage' := Stage.place_injective (Nat.le_antisymm hle hge)
  exact ⟨rfl, h.fails.unique h'.fails⟩

/-! ## The run, stage by stage -/

/-- A run that comes to no answer about its settings ends there. -/
lemma run_of_failure {words : List String} {invocation : Invocation} {cause : Failure}
    (hwords : Invocation.ofWords words = .ok invocation)
    (hsettings : settingsOf around invocation.request.config = .error (.failure cause)) :
    run words around = .error cause := by
  simp only [run, hwords, Invocation.run, hsettings]

/-- A run without settings complains of the configuration file. -/
lemma run_of_configError {words : List String} {invocation : Invocation} {error : ConfigError}
    (hwords : Invocation.ofWords words = .ok invocation)
    (hsettings : settingsOf around invocation.request.config = .error (.config error)) :
    run words around = .ok (.ofComplaint .warning (.config error)) := by
  simp only [run, hwords, Invocation.run, hsettings]

/-- A run with settings does what was asked for. -/
lemma run_of_settings {words : List String} {level : Option LogLevel} {settings : Settings}
    (hwords : Invocation.ofWords words = .ok ⟨level, .tokenize request⟩)
    (hsettings : settingsOf around request.config = .ok settings) :
    run words around = runTokenize around settings (level.getD settings.logLevel) request := by
  simp only [run, hwords, Invocation.run, Request.config, hsettings]

/-! ## All stages -/

/-- Behind the settings, a source fails at the first stage that does, and else is what the request
names. -/
lemma sourceOf_cases {settings : Settings}
    (hsettings : settingsOf around request.config = .ok settings)
    (hanswers : request.file ≠ standardInput →
      ∀ error, ¬ around.files.Refuses (Path.ofString request.file) error) :
    (∃ stage complaint, FirstFailure around request stage complaint ∧
        sourceOf around request.file = .error (.complaint complaint)) ∨
      ((∀ stage complaint, ¬ Fails around request stage complaint) ∧
        ∃ text, SourceText around request.file text ∧ sourceOf around request.file = .ok text) := by
  obtain ⟨hfile, hmissing⟩ | ⟨complaint, hunreadable⟩ | ⟨text, htext⟩ :=
    source_cases around request.file
  · refine .inl ⟨.file, _, ⟨.file hfile hmissing, fun {earlier _} hlt h => ?_⟩,
      sourceOf_of_missing hfile hmissing (hanswers hfile)⟩
    cases earlier with
    | settings => exact h.ne_settings hsettings rfl
    | _ => exact absurd hlt (by decide)
  · refine .inl ⟨.reading, _, ⟨.reading hunreadable, fun {earlier _} hlt h => ?_⟩,
      hunreadable.sourceOf_eq⟩
    cases earlier with
    | settings => exact h.ne_settings hsettings rfl
    | file => exact h.ne_file hunreadable.regular rfl
    | _ => exact absurd hlt (by decide)
  · rw [htext.sourceOf_eq]
    split
    · next hblank =>
      refine .inl ⟨.content, _, ⟨.content htext hblank, fun {earlier _} hlt h => ?_⟩, rfl⟩
      cases earlier with
      | settings => exact h.ne_settings hsettings rfl
      | file => exact h.ne_file htext.regular rfl
      | reading => exact h.ne_reading htext rfl
      | content => exact absurd hlt (by decide)
    · next hblank =>
      refine .inr ⟨fun stage complaint h => ?_, _, htext, rfl⟩
      cases stage with
      | settings => exact h.ne_settings hsettings rfl
      | file => exact h.ne_file htext.regular rfl
      | reading => exact h.ne_reading htext rfl
      | content => exact h.ne_content htext hblank rfl

/-- **Every run that prints tokens** ends with a report, if its settings can be told from a fault in
the configuration file and the system tells whether its name is that of a regular file.  It
complains of the first stage that fails, and presents the tokens of its source where none does. -/
theorem run_tokenize (around : Surroundings) {words : List String} {level : Option LogLevel}
    {request : TokenizeRequest} (hwords : Invocation.ofWords words = .ok ⟨level, .tokenize request⟩)
    (hsettings : ∀ cause, settingsOf around request.config ≠ .error (.failure cause))
    (hanswers : request.file ≠ standardInput →
      ∀ error, ¬ around.files.Refuses (Path.ofString request.file) error) :
    ∃ report, run words around = .ok report ∧ (report.exit = 0 ∨ report.exit = 1) ∧
      ((∃ stage complaint, Fails around request stage complaint) →
        ∃ stage complaint, FirstFailure around request stage complaint ∧
          report.Complains complaint) ∧
      ((∀ stage complaint, ¬ Fails around request stage complaint) →
        ∃ settings text, settingsOf around request.config = .ok settings ∧
          SourceText around request.file text ∧
          report.Presents request.json
            (tokenize (request.keywordCase.getD settings.keywordCase) text)) := by
  cases hsettled : settingsOf around request.config with
  | error error =>
      cases error with
      | failure cause => exact absurd hsettled (hsettings cause)
      | config error =>
          have hfirst : FirstFailure around request .settings (.config error) :=
            ⟨.settings hsettled, fun hlt => absurd hlt (Nat.not_lt_zero _)⟩
          refine ⟨_, run_of_configError hwords hsettled, .inr rfl, fun _ => ?_, fun h => ?_⟩
          · exact ⟨.settings, _, hfirst, Report.complains_ofComplaint _ _⟩
          · exact absurd hfirst.fails (h _ _)
  | ok settings =>
      rw [run_of_settings hwords hsettled, runTokenize]
      obtain ⟨stage, complaint, hfirst, hsource⟩ | ⟨hnone, text, htext, hsource⟩ :=
        sourceOf_cases hsettled hanswers
      · rw [hsource]
        refine ⟨_, rfl, .inr rfl, fun _ => ?_, fun h => absurd hfirst.fails (h _ _)⟩
        exact ⟨stage, complaint, hfirst, Report.complains_ofComplaint _ _⟩
      · rw [hsource]
        have hpresents := presents_tokenizeReport (level.getD settings.logLevel)
          (request.keywordCase.getD settings.keywordCase) request.json text
        refine ⟨_, rfl, ?_, ?_, fun _ => ?_⟩
        · rw [hpresents.exit_eq]
          exact (ite_eq_or_eq _ _ _).symm
        · rintro ⟨stage, complaint, hfails⟩
          exact absurd hfails (hnone stage complaint)
        · exact ⟨settings, text, rfl, htext, hpresents⟩

/-! ## Runs on fixed inputs -/

/-- Libraries that have nothing to add. -/
def quietLibraries : Libraries := ⟨fun _ => "", fun _ _ => "", fun _ => none⟩

/-- Surroundings of given files below the root, and of nothing on standard input. -/
def folder (entries : List (List String × FileEntry)) : Surroundings where
  files := (FileTree.below [] entries).system
  directory := ⟨"/", []⟩
  input := ⟨.ok [], .strict, false⟩
  libraries := quietLibraries

/-- Surroundings of no files, and of octets on standard input, which is read as it is. -/
def typed (octets : List UInt8) : Surroundings :=
  { folder [] with input := ⟨.ok octets, .strict, false⟩ }

/-- A folder with a source of two lines, the first of which ends with a carriage return too, and
with a configuration file. -/
def configuredFolder : Surroundings :=
  folder [(["query.sql"], .file (Text.Utf8.encode "select\r\na".toList)),
    (["lexer.yaml"], .file (Text.Utf8.encode "keyword-case: insensitive\n".toList))]

/-- The tokens of the source are presented as records, under the policy of the configuration
file. -/
theorem run_tokenize_configuredFolder :
    ∃ report, run (tokenizeWords (some .info) true none (some "lexer.yaml") "query.sql")
        configuredFolder = .ok report ∧
      report.Presents true (tokenize .insensitive (Text.ofString "select\na")) := by
  let request : TokenizeRequest := ⟨"query.sql", true, none, some (Path.ofString "lexer.yaml")⟩
  have hsettings : settingsOf configuredFolder request.config =
      .ok { Settings.default with keywordCase := .insensitive } := by decide +kernel
  have hcontent : configuredFolder.files.Content (Path.ofString "query.sql")
      (Text.Utf8.encode "select\r\na".toList) := ⟨⟨by decide, by decide +kernel⟩, by decide +kernel⟩
  have hunified : Text.ofString "select\na" =
      Text.ofChars (Text.unifyNewlines "select\r\na".toList) := by decide
  have htext : SourceText configuredFolder request.file (Text.ofString "select\na") := by
    rw [hunified]
    exact .file (by decide) hcontent (Text.Utf8.decode_encode _)
  obtain ⟨report, hrun, -, -, hpresents⟩ := run_tokenize configuredFolder
    (ofWords_tokenizeWords (some .info) true none (some "lexer.yaml") "query.sql")
    (fun cause h => absurd (hsettings.symm.trans h) (by simp))
    fun _ => hcontent.regular.not_refuses
  have hnone (stage : Stage) (complaint : Complaint) :
      ¬ Fails configuredFolder request stage complaint := by
    intro h
    cases stage with
    | settings => exact h.ne_settings hsettings rfl
    | file => exact h.ne_file htext.regular rfl
    | reading => exact h.ne_reading htext rfl
    | content => exact h.ne_content htext (by decide) rfl
  obtain ⟨settings, text, hsettled, hsource, hreport⟩ := hpresents hnone
  obtain rfl := Except.ok.inj (hsettings.symm.trans hsettled)
  obtain rfl := htext.unique hsource
  exact ⟨report, hrun, hreport⟩

/-- **Three things that are not so**: a name within the limits that ends a run, carriage returns on
standard input that stay, and a name with a slash behind it that is complained of. -/
theorem not_always_reported :
    (run (tokenizeWords none false none none "vault/query.sql")
        (folder [(["vault"], .lockedDirectory)]) =
      .error (.file .permissionDenied ⟨"", ["vault", "query.sql"]⟩) ∧
      (Path.ofString "vault/query.sql").Fits ∧
      settingsOf (folder [(["vault"], .lockedDirectory)]) none = .ok Settings.default) ∧
    (run ["tokenize"] (typed [0x27, 0x61, 0x0D, 0x62, 0x27]) =
        .ok (tokenizeReport .warning .sensitive false (Text.ofString "'a\rb'")) ∧
      tokenize .sensitive (Text.ofString "'a\rb'") ≠
        tokenize .sensitive (Text.unifyBreaks (Text.ofString "'a\rb'"))) ∧
    run (tokenizeWords none false none none "query.sql/")
        (folder [(["query.sql"], .file [0x61])]) =
      .ok (tokenizeReport .warning .sensitive false (Text.ofString "a")) := by
  refine ⟨⟨?locked, ⟨by decide, by decide⟩, by decide +kernel⟩, ⟨?typed, by decide +kernel⟩,
    ?slash⟩
  case locked =>
    have hsettings : settingsOf (folder [(["vault"], .lockedDirectory)]) none =
        .ok Settings.default := by decide +kernel
    rw [run_of_settings (ofWords_tokenizeWords none false none none "vault/query.sql") hsettings]
    decide +kernel
  case typed =>
    have hwords : Invocation.ofWords ["tokenize"] = .ok ⟨none, .tokenize {}⟩ := by decide +kernel
    have hsettings : settingsOf (typed [0x27, 0x61, 0x0D, 0x62, 0x27]) none =
        .ok Settings.default := by decide +kernel
    rw [run_of_settings hwords hsettings]
    decide +kernel
  case slash =>
    have hsettings : settingsOf (folder [(["query.sql"], .file [0x61])]) none =
        .ok Settings.default := by decide +kernel
    rw [run_of_settings (ofWords_tokenizeWords none false none none "query.sql/") hsettings]
    decide +kernel

end SqlFrontEnd.CommandLine
