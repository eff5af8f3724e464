import SqlFrontEnd.Json.Reader
import SqlFrontEnd.Lexing.Segment
import SqlFrontEnd.Text.Wide
import SqlFrontEnd.Token.Record
import SqlFrontEnd.Web.Exchange
import SqlFrontEnd.Web.Page
import SqlFrontEnd.Web.Target

/-!
# The site

Under one path the site tells the tokens of a source that is posted to it; under every other path it
has the page.  A source is posted as plain text, as a JSON string, or as a JSON object with the
source as a member.

* `Request.source?`: the source that a request posts.
* `analyze`: the tokens of a posted source, or why there are none.
* `respond`: the response to any request.
-/

namespace SqlFrontEnd.Web

/-- The source that a JSON value holds: the value itself, or a member of it. -/
def sourceOf? : Json → Option Text
  | .string source => some source
  | value =>
    match value.field? "source" with
    | some (.string source) => some source
    | _ => none

/-- The source that a request posts.  Plain text is UTF-8 whatever is declared, and what is not
decodable of it is replaced. -/
def Request.source? (request : Request) : Option Text :=
  if request.isJson then
    (Text.decodeDetected? request.body).bind fun text => (Json.read? text).bind sourceOf?
  else some (Text.ofChars (Text.Utf8.decodeLossy request.body))

/-- A response, and what it leaves in the log. -/
structure Outcome where
  response : Response
  log : List LogLine := []
deriving Repr

/-- A line of the log of the site. -/
def siteLog (message : String) : LogLine := ⟨.info, "sqlcompiler.webui.app", message⟩

/-- A value that tells what is wrong. -/
def errorValue (message : String) : Json := .object [("error", .string message)]

/-- What is wrong with a body that holds no source. -/
def noSourceMessage : String :=
  "Request body must be a JSON string or an object with a 'source' string."

/-- The analysis of a posted source. -/
def analyze (policy : KeywordCase) (request : Request) : Outcome :=
  match request.source? with
  | none =>
    ⟨{ status := 400, content := some (errorValue noSourceMessage) },
      [siteLog ("Rejected analyze request: " ++ noSourceMessage)]⟩
  | some source =>
    if Text.isBlankText source then
      ⟨{ status := 400, content := some (errorValue blankPrompt) },
        [siteLog "Rejected analyze request with blank source"]⟩
    else
      let tokens := tokenize policy source
      ⟨{ status := 200, content := some (records tokens) },
        [siteLog ("Analyzed " ++ Decimal.text source.length ++ " character(s): " ++
          summary tokens)]⟩

/-- The response to a request for the analysis by a method that does not post. -/
def analysisResponse (method : Method) : Response :=
  let methods := ["GET", "HEAD", "OPTIONS", "POST"]
  let refusal := errorValue "Use POST to submit source code."
  match method with
  | .get | .head => { status := 405, allow := some ["POST"], content := some refusal }
  | .options => { status := 200, allow := some methods }
  | .post | .other => { status := 405, allow := some methods }

/-- The response to a request for the page. -/
def pageResponse (method : Method) : Response :=
  let methods := ["GET", "HEAD", "OPTIONS"]
  match method with
  | .get | .head => { status := 200 }
  | .options => { status := 200, allow := some methods }
  | .post | .other => { status := 405, allow := some methods }

/-- The response to a request that would lead to the analysis with single slashes.  Whoever posts is
sent there; everyone else gets what they would get of the page. -/
def nearAnalysisResponse (method : Method) : Response :=
  let methods := ["GET", "HEAD", "OPTIONS", "POST"]
  match method with
  | .get | .head => { status := 200 }
  | .options => { status := 200, allow := some methods }
  | .post => { status := 308 }
  | .other => { status := 405, allow := some methods }

/-- The response to a request for a file.  There is none, but whoever does not ask for it gets what
they would get of the page. -/
def fileResponse (method : Method) : Response :=
  match method with
  | .get | .head => { status := 404 }
  | .options | .post | .other => pageResponse method

/-- The response to a request for the bare address.  Whoever may see the page is sent there. -/
def bareResponse (method : Method) : Response :=
  match method with
  | .get | .head | .options => { status := 308 }
  | .post | .other => { status := 404 }

/-- The response to a request. -/
def respond (policy : KeywordCase) (request : Request) : Outcome :=
  match Destination.ofTarget request.target, request.method with
  | .analysis, .post => analyze policy request
  | .analysis, method => { response := analysisResponse method }
  | .page, method => { response := pageResponse method }
  | .nearAnalysis, method => { response := nearAnalysisResponse method }
  | .file, method => { response := fileResponse method }
  | .bare, method => { response := bareResponse method }
  | .nowhere, _ => { response := { status := 404 } }

end SqlFrontEnd.Web
