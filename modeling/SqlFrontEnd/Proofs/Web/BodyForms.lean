import Mathlib
import SqlFrontEnd.Proofs.Json.Spelling
import SqlFrontEnd.Proofs.Text.Utf8
import SqlFrontEnd.Web.Site

/-!
# The forms of a posted source

A source may be posted as plain text, as a JSON string, or as a JSON object with the source as a
member.  The analysis depends on the source only, so it is enough that all three bodies are read as
the same source.  UTF-8 is read back, and so is JSON, however it is spelled: its text begins in
ASCII and holds no null character from which one could guess another encoding.

* `post` — the requests in question.
* `source?_plain`, `source?_json` — what is read of their bodies.
* `analyze_congr` — the analysis depends on the source only.
* `sourceResponse` — what belongs to a source: a refusal if all its characters are blank, else the
  records of its tokens.
* **`respond_bodyForms`** — all forms have that response.
-/

namespace SqlFrontEnd.Web

open Json (WritesText WritesMember SpellsText SpellsChar Space)

/-- A request that posts a body for analysis. -/
def post (contentType : String) (body : List UInt8) : Request where
  methodName := "POST"
  target := analysisPath
  contentType := some contentType
  body := body

/-! ## Reading bodies -/

/-- The media type is what was declared. -/
lemma mediaType_post {contentType : String}
    (h : (Text.trimBy Request.isHeaderBlank (contentType.toList.takeWhile (· != ';'))).map
      Char.toLower = contentType.toList) (body : List UInt8) :
    (post contentType body).mediaType = contentType.toList := h

lemma isJson_post_plain (body : List UInt8) : (post "text/plain" body).isJson = false := by
  rw [Request.isJson, mediaType_post (by decide)]
  decide

lemma isJson_post_json (body : List UInt8) : (post "application/json" body).isJson = true := by
  rw [Request.isJson, mediaType_post (by decide)]
  decide

/-- Plain text is read back. -/
lemma source?_plain (source : List Char) :
    (post "text/plain" (Text.Utf8.encode source)).source? = some (Text.ofChars source) := by
  rw [Request.source?, isJson_post_plain, if_neg Bool.false_ne_true, post,
    Text.Utf8.decodeLossy_encode]

/-- What a body holds is what its text is read as. -/
lemma source?_json {body : List UInt8} {text : Text} {v : Json}
    (hdecode : Text.decodeDetected? body = some text) (hread : Json.read? text = some v) :
    (post "application/json" body).source? = sourceOf? v := by
  rw [Request.source?, isJson_post_json, if_pos rfl, post, hdecode, Option.bind_some, hread,
    Option.bind_some]

/-- A text that writes a source posts it. -/
lemma source?_of_writesText {source text : List Char} (h : WritesText source text) :
    (post "application/json" (Text.Utf8.encode text)).source? = some (Text.ofChars source) :=
  source?_json h.detectable.decodeDetected? (Json.readWithin?_of_writesText h)

/-- So does one that writes an object with the source as a member. -/
lemma source?_of_writesMember {source text : List Char}
    (h : WritesMember "source".toList source text) :
    (post "application/json" (Text.Utf8.encode text)).source? = some (Text.ofChars source) :=
  source?_json h.detectable.decodeDetected? (Json.readWithin?_of_writesMember h)

/-! ## Responses -/

/-- What is posted for analysis is analysed. -/
lemma respond_post (policy : KeywordCase) (contentType : String) (body : List UInt8) :
    respond policy (post contentType body) = analyze policy (post contentType body) := by
  have hdestination : Destination.ofTarget (post contentType body).target = .analysis := by
    change Destination.ofTarget analysisPath = .analysis
    decide
  have hmethod : (post contentType body).method = .post := by
    change Method.ofName "POST" = .post
    decide
  unfold respond
  rw [hdestination, hmethod]

/-- The analysis depends on the source only. -/
lemma analyze_congr (policy : KeywordCase) {request other : Request}
    (h : request.source? = other.source?) : analyze policy request = analyze policy other := by
  rw [analyze, analyze, h]

/-- The response to a source: a refusal where there are blanks only, else the records of its
tokens. -/
def sourceResponse (policy : KeywordCase) (source : List Char) : Response :=
  if source.all Text.isBlank then
    { status := 400, content := some (.object [("error", .string "Please enter SQL-like code.")]) }
  else { status := 200, content := some (records (tokenize policy (Text.ofChars source))) }

/-- A source that is posted as plain text gets its response. -/
lemma response_analyze_plain (policy : KeywordCase) (source : List Char) :
    (analyze policy (post "text/plain" (Text.Utf8.encode source))).response =
      sourceResponse policy source := by
  rw [analyze, source?_plain, sourceResponse]
  dsimp only
  rw [Text.isBlankText_ofChars]
  cases source.all Text.isBlank <;> rfl

/-- **All forms of a posted source have one outcome**, with the response that belongs to the source.
A body in JSON may be spelled in any way, and it may come in any encoding in which it is read as the
source or as an object that has it. -/
theorem respond_bodyForms (policy : KeywordCase) (source : List Char) :
    let plain := respond policy (post "text/plain" (Text.Utf8.encode source))
    let posted (body : List UInt8) := respond policy (post "application/json" body)
    plain.response = sourceResponse policy source ∧
    (∀ text, WritesText source text → posted (Text.Utf8.encode text) = plain) ∧
    (∀ text, WritesMember "source".toList source text → posted (Text.Utf8.encode text) = plain) ∧
    ∀ body text v, Text.decodeDetected? body = some text → Json.read? text = some v →
      (v = .string (Text.ofChars source) ∨
        v.field? "source" = some (.string (Text.ofChars source))) → posted body = plain := by
  intro plain posted
  have hsame {body : List UInt8}
      (h : (post "application/json" body).source? = some (Text.ofChars source)) :
      posted body = plain := by
    simp only [posted, plain, respond_post]
    exact analyze_congr policy (h.trans (source?_plain source).symm)
  refine ⟨?_, fun text h => hsame (source?_of_writesText h),
    fun text h => hsame (source?_of_writesMember h), fun body text v hdecode hread h => hsame ?_⟩
  · simp only [plain, respond_post]
    exact response_analyze_plain policy source
  · rw [source?_json hdecode hread]
    obtain rfl | hfield := h
    · rfl
    · cases v with
      | object fields => simp only [sourceOf?, hfield]
      | null | bool | int | real | string | array => cases hfield

/-- A source with a quote, a slash, and a character in two halves. -/
def oddSource : List Char := "'é\"/😀".toList

/-- The source by itself, in ASCII. -/
def quotedBody : List Char := "\"'\\u00e9\\\"/\\ud83d\\ude00\"".toList

/-- The source as a member, in ASCII, with a space behind the colon. -/
def asciiBody : List Char := "\x7b\"source\": \"'\\u00e9\\\"/\\ud83d\\ude00\"\x7d".toList

/-- The source by itself, not in ASCII, with its slash behind a backslash. -/
def rawBody : List Char := " \"'é\\\"\\/😀\"\n".toList

/-- The source may be posted in each of three spellings. -/
theorem respond_bodyForms_oddSource :
    ∀ body ∈ [quotedBody, asciiBody, rawBody],
      respond .sensitive (post "application/json" (Text.Utf8.encode body)) =
        respond .sensitive (post "text/plain" (Text.Utf8.encode oddSource)) := by
  obtain ⟨-, htext, hmember, -⟩ := respond_bodyForms .sensitive oddSource
  have hspace : ∀ c ∈ [' ', '\n'], Space [c] := by simp [Space, Json.isSpace]
  have hblank : Space [' '] := hspace _ (by decide)
  refine List.forall_mem_cons.2 ⟨htext _ ?quoted, List.forall_mem_cons.2 ⟨hmember _ ?ascii,
    List.forall_mem_singleton.2 (htext _ ?raw)⟩⟩
  case quoted =>
    have hwrites := Json.writesText_quotedText oddSource
    have hbody : Json.quotedText (Text.ofChars oddSource) = quotedBody := by decide +kernel
    rwa [hbody] at hwrites
  case ascii =>
    have hwrites := Json.writesMember_quotedText "source".toList oddSource hblank
    have hbody : '\x7b' :: (Json.quotedText (Text.ofChars "source".toList) ++
        ':' :: ([' '] ++ Json.quotedText (Text.ofChars oddSource) ++ ['\x7d'])) = asciiBody := by
      decide +kernel
    rwa [hbody] at hwrites
  case raw =>
    have hitself (c : Char) (h : c ≠ '"' ∧ c ≠ '\\' ∧ 0x20 ≤ c.toNat) : SpellsChar c [c] :=
      .itself h.1 h.2.1 h.2.2
    have hspelled : SpellsText oddSource "'é\\\"\\/😀".toList := by
      refine .cons (hitself '\'' (by decide)) (.cons (hitself 'é' (by decide)) ?_)
      refine .cons (.letter (by decide)) (.cons (.letter (by decide)) ?_)
      exact .cons (hitself '😀' (by decide)) .nil
    exact @WritesText.mk oddSource [' '] _ ['\n'] hblank (hspace _ (by decide)) hspelled

end SqlFrontEnd.Web
