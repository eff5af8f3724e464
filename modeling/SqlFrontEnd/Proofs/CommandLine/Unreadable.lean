import Mathlib
import SqlFrontEnd.Proofs.CommandLine.Stages

/-!
# Names of no readable file

Whatever else a name may be that of, if it is not that of a file with text in it, a run complains of
it.  One answer is not thought of: that the system does not tell whether there is such a file, since
the name is beyond the limits, say, or behind a locked directory.  The answer is given to the test
for a regular file, which the run makes before it minds any error, and so it ends the run.

* `exists_complaint` — a name on which the system answers.
* **`run_unreadable`** — the names that are complained of, and what becomes of the others.
* `run_long_name` — names that are too long, in an empty folder.
-/

namespace SqlFrontEnd.CommandLine

variable {around : Surroundings} {file : String}

/-- A name of no readable file gives reason to complain, where the system answers. -/
lemma exists_complaint (hfile : file ≠ standardInput)
    (hunreadable : ∀ octets text, around.files.Content (Path.ofString file) octets →
      Text.Utf8.decode octets ≠ .ok text)
    (hanswers : ∀ error, ¬ around.files.Refuses (Path.ofString file) error) :
    ∃ complaint, sourceOf around file = .error (.complaint complaint) := by
  obtain ⟨-, hmissing⟩ | ⟨complaint, hcomplaint⟩ | ⟨text, htext⟩ := source_cases around file
  · exact ⟨_, sourceOf_of_missing hfile hmissing hanswers⟩
  · exact ⟨complaint, hcomplaint.sourceOf_eq⟩
  · cases htext with
    | input hinput => exact absurd hinput hfile
    | file _ hcontent hdecode => exact absurd hdecode (hunreadable _ _ hcontent)

/-- **The names of no readable file** are complained of where the system tells whether there is a
regular file; where it does not, the run ends with what the system says. -/
theorem run_unreadable (around : Surroundings) {words : List String} {level : Option LogLevel}
    {request : TokenizeRequest} (hwords : Invocation.ofWords words = .ok ⟨level, .tokenize request⟩)
    (hconfig : request.config = none)
    (hnone : around.files.isFile (around.directory.child Settings.fileName) = .ok false)
    (hfile : request.file ≠ standardInput)
    (hunreadable : ∀ octets text, around.files.Content (Path.ofString request.file) octets →
      Text.Utf8.decode octets ≠ .ok text) :
    let path := Path.ofString request.file
    ((∃ report complaint, run words around = .ok report ∧ report.Complains complaint) ↔
      ∀ error, ¬ around.files.Refuses path error) ∧
    ∀ error, around.files.Refuses path error → run words around = .error (.file error path) := by
  intro path
  have hsettings : settingsOf around request.config = .ok Settings.default := by
    simp only [hconfig, settingsOf, Settings.ofDirectory, Settings.find, hnone]
  have hrun := run_of_settings hwords hsettings
  have hends (error : FileError) (hrefuses : around.files.Refuses path error) :
      run words around = .error (.file error path) := by
    rw [hrun, runTokenize, sourceOf_of_refuses hfile hrefuses]
  refine ⟨⟨?_, fun hanswers => ?_⟩, hends⟩
  · rintro ⟨report, complaint, hreport, -⟩ error hrefuses
    rw [hends error hrefuses] at hreport
    cases hreport
  · obtain ⟨complaint, hsource⟩ := exists_complaint hfile hunreadable hanswers
    rw [hrun, runTokenize, hsource]
    exact ⟨_, complaint, rfl, Report.complains_ofComplaint _ complaint⟩

/-- A regular file is no way to another. -/
theorem run_unreadable_below_file :
    ∃ report complaint,
      run (tokenizeWords none false none none "notes.txt/query.sql")
        (folder [(["notes.txt"], .file [])]) = .ok report ∧ report.Complains complaint := by
  have hregular : (folder [(["notes.txt"], .file [])]).files.regular
      (Path.ofString "notes.txt/query.sql") = .error .notADirectory := by decide
  refine (run_unreadable (folder [(["notes.txt"], .file [])])
    (ofWords_tokenizeWords none false none none "notes.txt/query.sql") rfl (by decide) (by decide)
      ?_).1.2 ?_
  · rintro octets text ⟨⟨-, hfound⟩, -⟩
    rw [hregular] at hfound
    cases hfound
  · rintro error ⟨-, hrefused, hnowhere⟩
    obtain rfl := Except.error.inj (hregular.symm.trans hrefused)
    cases hnowhere

/-- In an empty folder nothing has a name that is too long, but asking for it ends the run. -/
lemma run_long_name {name : String} (hslash : '/' ∉ name.toList) (hzero : '\x00' ∉ name.toList)
    (hlong : FileTree.maxName < (Text.Utf8.encode name.toList).length) :
    name ≠ standardInput ∧
    (∀ octets, ¬ (folder []).files.Content (Path.ofString name) octets) ∧
    run (tokenizeWords none false none none name) (folder []) =
      .error (.file .nameTooLong ⟨"", [name]⟩) := by
  have hroot : FileTree.entry? ⟨[], []⟩ [] = some .directory := rfl
  obtain ⟨hpath, htooLong⟩ := FileTree.tooLong_name hroot hslash hlong
  have hnull : (Path.ofString name).hasNull = false := by
    rw [hpath]
    simp [Path.hasNull, hzero]
  have hfile : name ≠ standardInput := by
    rintro rfl
    exact absurd hlong (by decide)
  have hrefuses : (folder []).files.Refuses (Path.ofString name) .nameTooLong :=
    FileTree.refuses_iff.2 ⟨hnull, .inl ⟨rfl, htooLong⟩⟩
  have hsettings : settingsOf (folder []) none = .ok Settings.default := by decide
  refine ⟨hfile, fun octets hcontent => hcontent.regular.not_refuses _ hrefuses, ?_⟩
  rw [run_of_settings (ofWords_tokenizeWords none false none none name) hsettings, runTokenize,
    sourceOf_of_refuses hfile hrefuses, hpath]

/-- The shortest name that is too long. -/
def longName : String := String.ofList (List.replicate 256 'a')

/-- **A name that is too long** is that of no file, and ends the run all the same. -/
theorem run_longName :
    (folder []).files.isFile ((folder []).directory.child Settings.fileName) = .ok false ∧
    longName ≠ standardInput ∧
    (∀ octets, ¬ (folder []).files.Content (Path.ofString longName) octets) ∧
    run (tokenizeWords none false none none longName) (folder []) =
      .error (.file .nameTooLong ⟨"", [longName]⟩) := by
  have hlist : longName.toList = List.replicate 256 'a' := String.toList_ofList
  have hplain {c : Char} (hc : c ≠ 'a') : c ∉ longName.toList := by
    rw [hlist]
    exact fun h => hc (List.eq_of_mem_replicate h)
  have hlength : (Text.Utf8.encode longName.toList).length = 256 := by
    rw [hlist, Text.Utf8.encode, List.length_flatMap, List.map_replicate, List.sum_replicate]
    rfl
  exact ⟨by decide, run_long_name (hplain (by decide)) (hplain (by decide)) (hlength ▸ by decide)⟩

end SqlFrontEnd.CommandLine
