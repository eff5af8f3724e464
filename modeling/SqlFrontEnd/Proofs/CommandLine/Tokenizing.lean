import Mathlib
import SqlFrontEnd.CommandLine.Run
import SqlFrontEnd.Proofs.Text.Utf8

/-!
# Printing the tokens of a file

A run that prints the tokens of a file as records goes through every stage of the program: it reads
its command line, finds no settings, reads and decodes the file, and reports on the source.  Each
stage is settled by a lemma, so the run is their chain.

* `NamesFile`, `namesFile_of_head?` — the words that are taken for the name of a file.
* `ofWords_jsonWords` — reading the command line.
* `Holds`, `sourceOf_file` — reading the file.
* **`run_jsonWords`** — the run complains of a blank source and reports on every other.
-/

namespace SqlFrontEnd

namespace Arguments

variable {ι : Type}

/-- A word with a role comes before the words behind it. -/
lemma items_cons {forms : List (OptionForm ι)} {word : String} {role : Role ι} {words : List String}
    {found : List (Item ι)} (hword : word ≠ "--") (hrole : roleOf forms word = .ok role)
    (hfound : items forms words = .ok found) :
    items forms (word :: words) = .ok (⟨word, role⟩ :: found) := by
  rw [items, if_neg hword, hrole, hfound]
  rfl

end Arguments

namespace CommandLine

open Arguments

/-- A word that is taken for the name of a file: it is neither the separator nor standard input, the
command takes it for no option, and the program finds nothing ambiguous in it. -/
structure NamesFile (word : String) : Prop where
  ne_separator : word ≠ "--"
  ne_input : word ≠ standardInput
  operand : roleOf tokenizeGrammar.forms word = .ok .operand
  unambiguous : ∃ role, roleOf programGrammar.forms word = .ok role

/-- A word that does not start with a dash names a file. -/
lemma namesFile_of_head? {word : String} (h : word.toList.head? ≠ some '-') : NamesFile word where
  ne_separator := by rintro rfl; exact h rfl
  ne_input := by rintro rfl; exact h rfl
  operand := by
    rw [roleOf]
    split
    · next heq => simp [heq] at h
    · rfl
  unambiguous := by
    refine ⟨.operand, ?_⟩
    rw [roleOf]
    split
    · next heq => simp [heq] at h
    · rfl

/-- The words that ask for the tokens of a file as records, under a policy. -/
def jsonWords (policy : KeywordCase) (file : String) : List String :=
  ["tokenize", "--json", "--keyword-case", policy.name, file]

lemma read_tokenizeGrammar (policy : KeywordCase) {file : String} (h : NamesFile file) :
    tokenizeGrammar.read {} (jsonWords policy file).tail =
      .ok ({ file := file, json := true, keywordCase := some policy }, []) := by
  have hitems : items tokenizeGrammar.forms (jsonWords policy file).tail =
      .ok [⟨"--json", .option ⟨.json, ["--json"], false⟩ .nothing⟩,
        ⟨"--keyword-case", .option ⟨.keywordCase, ["--keyword-case"], true⟩ .nothing⟩,
        ⟨policy.name, .operand⟩, ⟨file, .operand⟩] := by
    refine items_cons (by decide) rfl (items_cons (by decide) rfl ?_)
    refine items_cons ?_ ?_ (items_cons h.ne_separator h.operand rfl)
    · cases policy <;> decide
    · cases policy <;> rfl
  rw [Grammar.read, hitems]
  cases policy <;> rfl

/-- The command line asks for what its words say. -/
lemma ofWords_jsonWords (policy : KeywordCase) {file : String} (h : NamesFile file) :
    Invocation.ofWords (jsonWords policy file) =
      .ok ⟨none, .tokenize { file := file, json := true, keywordCase := some policy }⟩ := by
  obtain ⟨role, hrole⟩ := h.unambiguous
  have hitems : items programGrammar.forms (jsonWords policy file) =
      .ok [⟨"tokenize", .operand⟩, ⟨"--json", .unknown⟩, ⟨"--keyword-case", .unknown⟩,
        ⟨policy.name, .operand⟩, ⟨file, role⟩] := by
    refine items_cons (by decide) rfl (items_cons (by decide) rfl (items_cons (by decide) rfl ?_))
    refine items_cons ?_ ?_ (items_cons h.ne_separator hrole rfl)
    · cases policy <;> decide
    · cases policy <;> rfl
  have hcommand : readCommand "tokenize" (jsonWords policy file).tail =
      .ok (.tokenize { file := file, json := true, keywordCase := some policy }, []) := by
    rw [readCommand, read_tokenizeGrammar policy h]
    rfl
  have hread : programGrammar.read {} (jsonWords policy file) =
      .ok ({ request := some (.tokenize
        { file := file, json := true, keywordCase := some policy }) }, []) := by
    rw [Grammar.read, hitems]
    change (readCommand "tokenize" (jsonWords policy file).tail).map _ >>= _ = _
    rw [hcommand]
    rfl
  rw [Invocation.ofWords, hread]
  rfl

/-- Surroundings in which a file holds a source, and no settings are found. -/
structure Holds (around : Surroundings) (file : String) (source : List Char) : Prop where
  isFile : around.files.isFile (Path.ofString file) = .ok true
  content : around.files.content (Path.ofString file) = .ok (Text.Utf8.encode source)
  noSettings : around.files.isFile (around.directory.child Settings.fileName) = .ok false

/-- The source of a file is what the file holds, unless it is all blank. -/
lemma sourceOf_file {around : Surroundings} {file : String} {source : List Char}
    (hfile : NamesFile file) (hholds : Holds around file source) (hreturn : '\r' ∉ source) :
    sourceOf around file = if source.all Text.isBlank then .error (.complaint .blankSource)
      else .ok (Text.ofChars source) := by
  have hsource : fileSource around.files (Path.ofString file) = .ok (Text.ofChars source) := by
    simp only [fileSource, hholds.isFile, hholds.content, Text.Utf8.decode_encode,
      Text.unifyNewlines_of_not_mem hreturn]
  rw [sourceOf, if_neg hfile.ne_input, hsource]
  dsimp only
  rw [Text.isBlankText_ofChars]

/-- **A run that prints the tokens of a file as records**: it complains of a blank source, and
reports on every other. -/
theorem run_jsonWords (policy : KeywordCase) {around : Surroundings} {file : String}
    {source : List Char} (hfile : NamesFile file) (hholds : Holds around file source)
    (hreturn : '\r' ∉ source) :
    run (jsonWords policy file) around =
      .ok (if source.all Text.isBlank then .ofComplaint .warning .blankSource
        else tokenizeReport .warning policy true (Text.ofChars source)) := by
  have hsettings : settingsOf around none = .ok Settings.default := by
    simp only [settingsOf, Settings.ofDirectory, Settings.find, hholds.noSettings]
  simp only [run, ofWords_jsonWords policy hfile, Invocation.run, Request.config, hsettings,
    runTokenize, sourceOf_file hfile hholds hreturn]
  cases source.all Text.isBlank <;> rfl

end CommandLine

end SqlFrontEnd
