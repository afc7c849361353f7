import MusicianGraph.Http.Query
import MusicianGraph.Json.Reader
import MusicianGraph.Failure
import MusicianGraph.Schema.Field
import MusicianGraph.Http.Percent

/-! # Requests and responses

The body of a request is read as JSON if it is declared as such. What is wrong with the data of a
request is answered all at once; such an answer repeats the wrong values, so it cannot be given if
one of them holds a number that JSON does not have. A body that cannot be taken apart at all is
answered as a bad request. -/

namespace MusicianGraph

structure Request where
  method : String
  /-- The path as it was sent, with percent encoding. -/
  path : String
  query : String := ""
  /-- The text of the body; a request without a body has an empty one. -/
  body : String := ""
  contentType : Option String := none
  /-- The scheme and the host that the request was sent to. -/
  origin : String := ""
deriving DecidableEq, Repr

/-- What a response carries. -/
inductive Content where
  | json (v : Value)
  | text (s : String)

structure Response where
  status : Nat
  content : Content
  /-- Where a redirection leads. -/
  location : Option String := none
  /-- The method that the path admits. -/
  allow : Option String := none
  /-- The failure that was not handled, if there was one. -/
  raised : Option Failure := none

namespace Response

/-- An answer of data. -/
def ok (v : Value) : Response := { status := 200, content := .json v }

/-- The answer when something was made. -/
def created (v : Value) : Response := { status := 201, content := .json v }

/-- An answer that only says why the request failed. -/
def detail (status : Nat) (v : Value) : Response :=
  { status, content := .json (.object [("detail", v)]) }

/-- There is no such thing. -/
def notFound (message : String) : Response := detail 404 (.text message)

/-- The request asks for something that is refused. -/
def badRequest (f : Failure) : Response := detail 400 (.text f.message)

/-- Something failed that is not handled. -/
def failed (f : Failure) : Response :=
  { status := 500, content := .text "Internal Server Error", raised := some f }

/-- The data of the request is wrong. -/
def invalid (problems : List Problem) : Response :=
  if problems.all fun p => p.input.isWritable then
    detail 422 (.list (problems.map Problem.dump))
  else failed .notJson

end Response

namespace Problem

/-- A problem in the data of a request: where a model is wanted, any object will do that has the
fields. -/
def inRequest (p : Problem) : Problem :=
  match p.issue with
  | .notModel _ => { p with issue := .notFields }
  | _ => p

end Problem

namespace Request

variable {α : Type}

/-- The media type that a content type names, in lowercase. -/
def mediaType (contentType : String) : List Char :=
  (stripChars ((Percent.byteChars contentType.toList).takeWhile (· != ';'))).map Char.toLower

/-- Does a content type declare JSON? Nothing declared means JSON. -/
def declaresJson (contentType : Option String) : Bool :=
  match contentType with
  | none => true
  | some t =>
      match (mediaType t).splitOn '/' with
      | [main, sub] =>
          main == "application".toList && (sub == "json".toList || "+json".toList.isSuffixOf sub)
      | _ => false

/-- What the JSON of a body may not go beyond. -/
def limits : Json.Limits where
  digits := 4300
  depth := 960

/-- A body that does not give a value. -/
inductive BodyFault where
  | wrong (p : Problem)
  /-- The body cannot be taken apart. -/
  | unreadable

/-- The characters of a body that is JSON, as it is encoded. -/
def jsonChars (body : String) : Except BodyFault (List Char) :=
  match Encoding.decode? body.toList with
  | some cs => .ok cs
  | none => .error .unreadable

/-- Read a request's body as JSON, or give the reason why there is none. A body that is not
declared as JSON is a text. -/
def payload (r : Request) : Except BodyFault Value :=
  if r.body.isEmpty then .error (.wrong ⟨[], .missing, .null⟩)
  else if declaresJson r.contentType then do
    let cs ← jsonChars r.body
    match Json.readChars limits cs with
    | .ok v => .ok v
    | .error (.malformed offset) => .error (.wrong ⟨[.index offset], .malformedBody, .object []⟩)
    | .error .beyondLimits => .error .unreadable
  else .ok (.text r.body)

/-- Read the body of a request as a model, unless it cannot be taken apart. -/
def readBody? (schema : Schema α) (r : Request) : Option (Reading α) :=
  let reading? : Option (Reading α) :=
    match r.payload with
    | .error (.wrong p) => some (.rejected [p])
    | .error .unreadable => none
    | .ok v =>
        match schema.read v with
        | .rejected problems => some (.rejected (problems.map Problem.inRequest))
        | reading => some reading
  reading?.map fun reading => reading.within (.field "body")

def readQuery (read : Query → Reading α) (r : Request) : Reading α :=
  (read (Query.ofString r.query)).within (.field "query")

end Request

end MusicianGraph
