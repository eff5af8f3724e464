import SqlFrontEnd.Json.Writer
import SqlFrontEnd.Log
import SqlFrontEnd.Text.Blank
import SqlFrontEnd.Text.Upper

/-!
# Requests and responses

* `Method`: the methods that make a difference.
* `Request`, `Request.isJson`: a request, and what its body is.
* `Request.fault?`: why a request cannot be sent.
* `Response`, `Response.text`: a response and the text of its body.
-/

namespace SqlFrontEnd.Web

/-- The method of a request. -/
inductive Method where
  | get | head | options | post
  /-- Any other method. -/
  | other
deriving DecidableEq, Repr

namespace Method

/-- The method of a given name, in any case. -/
def ofName (name : String) : Method :=
  match (Text.upper name).asString with
  | "GET" => get
  | "HEAD" => head
  | "OPTIONS" => options
  | "POST" => post
  | _ => other

end Method

/-- A request. -/
structure Request where
  methodName : String
  /-- The path that was asked for, through its query. -/
  target : String
  /-- The declared type of the body, through its parameters. -/
  contentType : Option String
  body : List UInt8
deriving Repr

/-- Why a request cannot be sent. -/
inductive RequestFault where
  /-- A line ends within a header. -/
  | lineEndInHeader
deriving DecidableEq, Repr

/-- The wording of a fault. -/
def RequestFault.message : RequestFault → String
  | lineEndInHeader => "Header values must not contain newline characters."

namespace Request

/-- The fault of a request that cannot be sent. -/
def fault? (request : Request) : Option RequestFault :=
  if (request.contentType.getD "").toList.any fun c => c == '\n' || c == '\r' then
    some .lineEndInHeader
  else none

/-- The method of a request. -/
def method (request : Request) : Method := .ofName request.methodName

/-- Tests for a request to whose response no body belongs.  Here the case of the name matters. -/
def wantsHeadOnly (request : Request) : Bool := request.methodName == "HEAD"

/-- Tests for a blank of ASCII, as may surround a media type. -/
def isHeaderBlank (c : Char) : Bool := Text.isBlank c && decide (c.toNat < 0x80)

/-- The media type of the body, in lower case. -/
def mediaType (request : Request) : List Char :=
  (Text.trimBy isHeaderBlank ((request.contentType.getD "").toList.takeWhile (· != ';'))).map
    Char.toLower

/-- Tests for a body that is declared to be JSON. -/
def isJson (request : Request) : Bool :=
  let media := request.mediaType
  media == "application/json".toList ||
    ("application/".toList.isPrefixOf media && "+json".toList.isSuffixOf media)

end Request

/-- A response. -/
structure Response where
  status : Nat
  /-- The names of the methods that are allowed, where the response tells them. -/
  allow : Option (List String) := none
  /-- The value that is sent, if the response is one of JSON. -/
  content : Option Json := none
deriving Repr

/-- The text of the body of a response of JSON: one line, with the members of objects in order of
their names, or nothing where no body belongs. -/
def Response.text (response : Response) (headOnly : Bool) : Option String :=
  response.content.map fun value =>
    if headOnly then "" else value.sortKeys.render .compact ++ "\n"

end SqlFrontEnd.Web
