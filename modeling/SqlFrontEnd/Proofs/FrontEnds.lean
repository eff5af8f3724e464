import Mathlib
import SqlFrontEnd.Proofs.CommandLine.Stages
import SqlFrontEnd.Proofs.CommandLine.Tokenizing
import SqlFrontEnd.Proofs.Json.Sorting
import SqlFrontEnd.Proofs.Lexing.Reference
import SqlFrontEnd.Proofs.Token.Serialization
import SqlFrontEnd.Proofs.Web.BodyForms
import SqlFrontEnd.Proofs.Web.View

/-!
# The front ends agree

The tokens of a source can be had from the command line, from the site and on the page.  All three
refuse a source of blanks alone.  Of every other they present the same records, in their own ways:
as an indented array, as an array whose objects are ordered by name, and as the rows of a table.
The exit status, the answer and the summary tell alike whether there are faults.

* `isScalar_of_mem_tokenize` — lexemes hold no lone halves if the source holds none.
* `Refused`, `Presented` — what the three front ends do with a source.
* `readWithin?_output`, `value?_sourceResponse` — what is read of the output and of the answer.
* `exit_eq_one_iff`, `hasMember_record_iff` — where faults show.
* **`frontEnds_agree`** — the front ends refuse together, or present the same.
-/

namespace SqlFrontEnd

open Json (SameMembers HasMember readWithin? Readable)

/-! ## Lexemes -/

/-- **Lexemes hold no lone halves** if the source holds none. -/
lemma isScalar_of_mem_tokenize {policy : KeywordCase} {source : Text} (h : source.isScalar = true)
    {t : Token} (ht : t ∈ tokenize policy source) : t.lexeme.isScalar = true := by
  obtain ⟨a, segment, b, hsegs, hgives⟩ := Lexing.exists_gives_of_mem ht
  have hsegment : segment.text.isScalar = true := by
    have hflatten := Lexing.segments_flatten source
    rw [hsegs, List.flatMap_append, List.flatMap_cons] at hflatten
    rw [Text.isScalar, List.all_eq_true] at h ⊢
    intro c hc
    refine h c ?_
    rw [← hflatten]
    simp [hc]
  rw [hgives.lexeme_eq]
  split
  · exact Text.isScalar_ofChars _
  · exact hsegment

/-! ## What the front ends do -/

/-- The value that is read in the body of a response. -/
def Web.Response.value? (response : Web.Response) : Option Json :=
  (response.text false).bind fun text => readWithin? none (Text.ofString text)

/-- All front ends refuse a source as blank. -/
structure Refused (report : CommandLine.Report) (response : Web.Response)
    (view : Web.Component) : Prop where
  exit_eq : report.exit = 1
  output_eq : report.output = []
  errors_eq : report.errors = "Error: please enter SQL-like code.\n"
  status_eq : response.status = 400
  value?_eq : response.value? = some (.object [("error", .string "Please enter SQL-like code.")])
  view_eq : view = .wrap .division []
    (.text .paragraph [.style [("color", "#666")]] "Please enter SQL-like code.")

/-- The words of a summary with given counts. -/
def countsText (total faults : ℕ) : Text :=
  Text.ofString (Decimal.text total ++ " token(s), " ++ Decimal.text faults ++ " error(s)")

/-- All front ends present the records of tokens, and tell alike whether there are faults. -/
structure Presented (tokens : List Token) (report : CommandLine.Report) (response : Web.Response)
    (view : Web.Component) : Prop where
  output : readWithin? none report.output = some (records tokens)
  status_eq : response.status = 200
  answer : ∃ items, response.value? = some (.array items) ∧
    List.Forall₂ SameMembers items (tokens.map Token.record) ∧
      (report.exit = 1 ↔ ∃ item ∈ items, HasMember item "type" (.string "ERROR"))
  rows : view.rows.mapM Web.rowRecord? = some (tokens.map Token.record)
  summary : ∃ total faults, view.summary? = some (countsText total faults) ∧
    total = view.rows.length ∧ faults = view.rows.countP Web.isFaultRow ∧
      (report.exit = 1 ↔ 1 ≤ faults)

/-! ## Output and answer -/

lemma readable_tokenize (policy : KeywordCase) (source : List Char) :
    Readable none (records (tokenize policy (Text.ofChars source))) :=
  readable_records (fun _ ht => isScalar_of_mem_tokenize (Text.isScalar_ofChars source) ht)
    fun t _ => ⟨Json.fits_none t.line, Json.fits_none t.column⟩

/-- A text with the end of a line behind it is read as the value that it is the text of. -/
lemma readWithin?_line {v : Json} (h : Readable none v) (layout : Json.Layout) :
    readWithin? none (Text.ofString (v.render layout ++ "\n")) = some v := by
  have hspace : ∀ c ∈ ['\n'], Json.isSpace c = true := by simp [Json.isSpace]
  have hread := Json.readWithin?_renderAt h layout hspace
  rw [Text.ofString, String.toList_append, Json.render, String.toList_ofList]
  exact hread

/-- The output is read as the records. -/
lemma readWithin?_output (level : LogLevel) (policy : KeywordCase) (source : List Char) :
    readWithin? none (CommandLine.tokenizeReport level policy true (Text.ofChars source)).output =
      some (records (tokenize policy (Text.ofChars source))) :=
  readWithin?_line (readable_tokenize policy source) (.indented 2)

/-- The body of a response is read as what was sent, in order of the names. -/
lemma value?_of_content {response : Web.Response} {v : Json} (h : response.content = some v)
    (hv : Readable none v) : response.value? = some v.sortKeys := by
  rw [Web.Response.value?, Web.Response.text, h, Option.map_some, Option.bind_some,
    if_neg Bool.false_ne_true, readWithin?_line hv.sortKeys]

lemma sameMembers_record (t : Token) : SameMembers t.record.sortKeys t.record := by
  refine Json.sameMembers_sortKeys ?_
  simp [Json.sortKeys]

/-! ## Faults -/

/-- Only faults are named so. -/
lemma TokenKind.name_eq_iff {kind : TokenKind} : kind.name = "ERROR" ↔ kind = .error := by
  have hall : ∀ kind ∈ all, kind.name = "ERROR" ↔ kind = .error := by decide
  exact hall kind (mem_all kind)

/-- The record of a token has the type of a fault just where the token is one. -/
lemma hasMember_record_iff (t : Token) :
    t.record.HasMember "type" (.string "ERROR") ↔ t.isError = true := by
  have hnames : Text.ofString "type" ≠ Text.ofString "lexeme" ∧
      Text.ofString "type" ≠ Text.ofString "line" ∧
        Text.ofString "type" ≠ Text.ofString "column" := by decide
  have hname : Text.ofString "ERROR" = Text.ofString t.kind.name ↔ t.kind.name = "ERROR" := by
    refine ⟨fun h => ?_, fun h => by rw [h]⟩
    rw [← Text.asString_ofString t.kind.name, ← h, Text.asString_ofString]
  simp [HasMember, Token.record, hnames, hname, TokenKind.name_eq_iff, Token.isError]

/-- The exit status tells whether there are faults. -/
lemma exit_eq_one_iff (level : LogLevel) (policy : KeywordCase) (json : Bool) (source : Text) :
    (CommandLine.tokenizeReport level policy json source).exit = 1 ↔
      ∃ t ∈ tokenize policy source, t.isError = true := by
  simp [CommandLine.tokenizeReport, hasErrors]

/-! ## Agreement -/

/-- Where there is nothing to analyse, all refuse. -/
lemma refused_of_blank (policy : KeywordCase) {source : List Char}
    (h : source.all Text.isBlank = true) :
    Refused (.ofComplaint .warning .blankSource) (Web.sourceResponse policy source)
      (Web.tokenView policy (some (Text.ofChars source))) where
  exit_eq := rfl
  output_eq := rfl
  errors_eq := by decide
  status_eq := by rw [Web.sourceResponse, if_pos h]
  value?_eq := by
    have hreadable : Readable none
        (.object [(Text.ofString "error", .string "Please enter SQL-like code.")]) := by
      refine .object (List.nodup_singleton _) ?_ ?_
      · exact List.forall_mem_singleton.2 (Text.isScalar_ofChars _)
      · exact List.forall_mem_singleton.2 (.string (Text.isScalar_ofChars _))
    rw [Web.sourceResponse, if_pos h, value?_of_content rfl hreadable]
    simp [Json.sortKeys, Json.sortKeysFields]
  view_eq := by
    rw [Web.tokenView, Text.isBlankText_ofChars, if_pos h]
    rfl

/-- Where there is something to analyse, all present the same. -/
lemma presented_of_not_blank (level : LogLevel) (policy : KeywordCase) {source : List Char}
    (h : source.all Text.isBlank = false) :
    Presented (tokenize policy (Text.ofChars source))
      (CommandLine.tokenizeReport level policy true (Text.ofChars source))
      (Web.sourceResponse policy source) (Web.tokenView policy (some (Text.ofChars source))) := by
  have hview : Web.tokenView policy (some (Text.ofChars source)) =
      Web.resultView (tokenize policy (Text.ofChars source)) := by
    rw [Web.tokenView, Text.isBlankText_ofChars, h]
    rfl
  have hresponse : Web.sourceResponse policy source =
      { status := 200, content := some (records (tokenize policy (Text.ofChars source))) } := by
    rw [Web.sourceResponse, h]
    rfl
  rw [hresponse, hview]
  refine ⟨readWithin?_output level policy source, rfl, ?answer, ?rows, ?summary⟩
  case answer =>
    refine ⟨(tokenize policy (Text.ofChars source)).map fun t => t.record.sortKeys, ?_, ?_, ?_⟩
    · rw [value?_of_content rfl (readable_tokenize policy source), records, Json.sortKeys,
        Json.sortKeysItems_eq_map, List.map_map]
      rfl
    · rw [List.forall₂_map_left_iff, List.forall₂_map_right_iff, List.forall₂_same]
      exact fun t _ => sameMembers_record t
    · rw [exit_eq_one_iff]
      simp only [List.mem_map, exists_exists_and_eq_and, (sameMembers_record _).hasMember_iff,
        hasMember_record_iff]
  case rows => exact Web.mapM_rowRecord? _
  case summary =>
    refine ⟨_, _, rfl, ?_, (Web.countP_isFaultRow _).symm, ?_⟩
    · rw [Web.rows_resultView, List.length_map]
    · rw [exit_eq_one_iff, errorCount, Nat.one_le_iff_ne_zero, ← Nat.pos_iff_ne_zero,
        List.countP_pos_iff]

/-- **The front ends agree.**  From a file without carriage returns, in a posted text and on the
page, a source is refused by all if it is blank, and presented by all with the same records if it is
not. -/
theorem frontEnds_agree (policy : KeywordCase) {source : List Char} (hreturn : '\r' ∉ source)
    {file : String} (hfile : CommandLine.NamesFile file) {around : CommandLine.Surroundings}
    (hholds : CommandLine.Holds around file source) :
    ∃ report, CommandLine.run ["tokenize", "--json", "--keyword-case", policy.name, file] around =
        .ok report ∧
      let request := Web.post "text/plain" (Text.Utf8.encode source)
      let response := (Web.respond policy request).response
      let view := Web.tokenView policy (some (Text.ofChars source))
      if source.all Text.isBlank then Refused report response view
      else Presented (tokenize policy (Text.ofChars source)) report response view := by
  refine ⟨_, CommandLine.run_jsonWords policy hfile hholds hreturn, ?_⟩
  intro request response view
  have hresponse : response = Web.sourceResponse policy source := by
    rw [← Web.response_analyze_plain, ← Web.respond_post]
  rw [hresponse]
  cases hblank : source.all Text.isBlank with
  | true => exact refused_of_blank policy hblank
  | false => exact presented_of_not_blank .warning policy hblank

/-- A query with a word in small letters and a character that starts nothing. -/
def queryText : List Char := "select a\n§".toList

/-- A folder with nothing but a file that holds the query. -/
def queryFolder : CommandLine.Surroundings :=
  CommandLine.folder [(["query.sql"], .file (Text.Utf8.encode queryText))]

/-- The query is presented by all, with its fault. -/
theorem frontEnds_agree_query :
    ∃ report, CommandLine.run ["tokenize", "--json", "--keyword-case", "insensitive", "query.sql"]
        queryFolder = .ok report ∧
      Presented (tokenize .insensitive (Text.ofChars queryText)) report
        (Web.respond .insensitive (Web.post "text/plain" (Text.Utf8.encode queryText))).response
        (Web.tokenView .insensitive (some (Text.ofChars queryText))) := by
  have hholds : CommandLine.Holds queryFolder "query.sql" queryText :=
    ⟨by decide +kernel, by decide +kernel, by decide +kernel⟩
  obtain ⟨report, hrun, hagree⟩ := frontEnds_agree .insensitive (by decide)
    (CommandLine.namesFile_of_head? (by decide)) hholds
  exact ⟨report, hrun, hagree⟩

end SqlFrontEnd
