import LetterPacks.Dispatch.Views
import LetterPacks.Json.Reading
import LetterPacks.Web.MediaType
import LetterPacks.Web.Target

/-!
# The web service

A request is answered by the first of these that applies: its path leads nowhere, its method does
not suit, its segment is not a text, its body is not marked as JSON, is too large, is malformed or
does not suit, its letter is unknown; then the letter is resolved or printed.

A response shows a body only if that body is JSON.
-/

namespace LetterPacks.Web

/-- A request, with the header that names the type of its body. -/
structure Request where
  method : String
  target : String
  contentType : Option String
  body : String

/-- A status code and the JSON of the body, if it has one. -/
structure Response where
  status : Nat
  body : Option Json

/-- A case and the party to whom a letter is sent. -/
structure PackRequest where
  caseFile : CaseFile
  party : Party
deriving DecidableEq

def PackRequest.shape : Json.Shape PackRequest :=
  .record "PackRequest"
    (.required "case" CaseFile.shape <|
      .required "party" (.choice Party.vocabulary) .nil)
    (fun (caseFile, party, _) => ⟨caseFile, party⟩)
    (fun request => (request.caseFile, request.party, ()))
    (fun _ => rfl)

def largestBody : Nat := 2097152

/-- Reads the body of a request.  What follows the value is not looked at.  An unsuitable value has
a status of its own. -/
def PackRequest.ofBody (request : Request) : Except Nat PackRequest :=
  if !namesJson request.contentType then .error 415
  else if largestBody < request.body.utf8ByteSize then .error 413
  else
    match PackRequest.shape.read request.body.toList with
    | .ok (packRequest, _) => .ok packRequest
    | .error (.unsuitable _) => .error 422
    | .error _ => .error 400

def bare (status : Nat) : Response :=
  ⟨status, none⟩

def failure (status : Nat) (message : String) : Response :=
  ⟨status, some (.record [("error", .text message)])⟩

def dispatchFailure (fault : DispatchFault) : Response :=
  failure fault.status fault.message

structure Server (σ τ : Type) where
  service : Service σ τ
  isReady : Bool

/-- A response and the states of the generator and the printer behind it. -/
structure Answer (σ τ : Type) where
  response : Response
  generator : σ
  printer : τ

namespace Server

variable {σ τ : Type}

/-- Whether the service is ready, and the number of letters it knows. -/
def readiness (server : Server σ τ) : Response :=
  let letters := server.service.catalog.letters.length
  let (status, label) := if server.isReady then (200, "ready") else (503, "initializing")
  ⟨status, some (.record [("status", .text label), ("lettersRegistered", .natural letters)])⟩

def look (server : Server σ τ) : Route → Option Response
  | .letters =>
      let names := server.service.catalog.letters.map fun letter => Json.text letter.name
      some ⟨200, some (.record [("letterIds", .list names)])⟩
  | .health =>
      some ⟨200, some (.record [("status", .text "ok"), ("service", .text "nfdiv-packs-api")])⟩
  | .ready => some server.readiness
  | .metrics => some (bare 200)
  | .resolve _ | .print _ => none

def resolve (server : Server σ τ) (text : String) (request : PackRequest) (state : σ) (queue : τ) :
    Answer σ τ :=
  match Letter.ofText text with
  | .error fault => ⟨dispatchFailure (.catalog fault), state, queue⟩
  | .ok letter =>
      let resolved := server.service.resolve letter request.party request.caseFile state
      let response := match resolved.outcome with
        | .ok pack => ⟨200, some (resolvedView letter request.party pack resolved.caseFile)⟩
        | .error fault => dispatchFailure fault
      ⟨response, resolved.generator, queue⟩

def print (server : Server σ τ) (text : String) (request : PackRequest) (state : σ) (queue : τ) :
    Answer σ τ :=
  match Letter.ofText text with
  | .error fault => ⟨dispatchFailure (.catalog fault), state, queue⟩
  | .ok letter =>
      let printed := server.service.print letter request.party request.caseFile state queue
      let response := match printed.outcome with
        | .ok receipt => ⟨202, some (printedView letter request.party receipt printed.caseFile)⟩
        | .error fault => dispatchFailure fault
      ⟨response, printed.generator, printed.printer⟩

def dispatch (server : Server σ τ) (segment : String) (prints : Bool) (request : Request)
    (state : σ) (queue : τ) : Answer σ τ :=
  match decodeSegment? segment with
  | none => ⟨bare 400, state, queue⟩
  | some text =>
      match PackRequest.ofBody request with
      | .error status => ⟨bare status, state, queue⟩
      | .ok packRequest =>
          if prints then server.print text packRequest state queue
          else server.resolve text packRequest state queue

def answer (server : Server σ τ) (request : Request) (state : σ) (queue : τ) : Answer σ τ :=
  let post (segment : String) (prints : Bool) : Answer σ τ :=
    if request.method = "POST" then server.dispatch segment prints request state queue
    else ⟨bare 405, state, queue⟩
  match Route.ofPath? (pathOf request.target) with
  | none => ⟨bare 404, state, queue⟩
  | some (.resolve segment) => post segment false
  | some (.print segment) => post segment true
  | some route =>
      match server.look route, request.method with
      | some response, "GET" => ⟨response, state, queue⟩
      | some response, "HEAD" => ⟨bare response.status, state, queue⟩
      | _, _ => ⟨bare 405, state, queue⟩

end Server

end LetterPacks.Web
