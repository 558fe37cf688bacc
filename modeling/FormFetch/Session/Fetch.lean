import FormFetch.Http.Status
import FormFetch.Markup.Document
import FormFetch.Session.Basic

/-!
# Fetching documents

One request for an XML document, with all its outcomes as one value: the document, or
a message that says what went wrong.

* `Fetched.ofAnswer` sorts the answers, `Session.fetch` is the whole operation.
-/

namespace FormFetch

open Text Http Prompt

/-- What a fetch gives. -/
structure Fetched where
  /-- The document, or the message of the failure. -/
  outcome : Except String Markup.Document
  /-- The status code, or 0 without a response. -/
  code : Nat
  /-- The response came from an OpenRosa server. -/
  openRosa : Bool

namespace Fetched

/-- A failure without a response. -/
def unanswered (url message : String) : Fetched :=
  ⟨.error s!"{message} while accessing {url}", 0, false⟩

/-- The document of a response with status 200, or what is wrong with it. -/
def document (r : Response) : Except String Markup.Document :=
  if r.status ≠ 200 then .error (Status.line r.status)
  else
    match r.content with
    | .error failure => .error failure.message
    | .ok bytes =>
      match Markup.Document.parse bytes with
      | .ok d => .ok d
      | .error fault => .error s!"Parsing failed with {fault.message}"

/-- What a response gives. -/
def ofResponse (url : String) (r : Response) : Fetched where
  outcome := (document r).mapError fun message => s!"{message} while accessing {url}"
  code := r.status
  openRosa := OpenRosa.isOpenRosa r

/-- What an answer gives. -/
def ofAnswer (url : String) : Except Failure (Option Response) → Fetched
  | .error failure => unanswered url failure.message
  | .ok none => unanswered url "Parsing failed with null"
  | .ok (some r) => ofResponse url r

/-- The document was read. -/
def isSuccess (f : Fetched) : Bool :=
  f.outcome.isOk

end Fetched

/-- What a probe finds out about a server. -/
structure Probed where
  status : Nat
  openRosa : Bool
  acceptedLength : Option Nat
  /-- Where the server sends the client instead. -/
  location : Option String
  deriving DecidableEq, Repr

/-- What a response tells a probe. -/
def Probed.ofResponse (r : Response) : Probed where
  status := r.status
  openRosa := OpenRosa.isOpenRosa r
  acceptedLength := OpenRosa.acceptedLength? r
  location := r.header? "location"

/-- What an answer tells a probe. -/
def Probed.ofAnswer (url : String) : Except Failure (Option Response) → Except Failure Probed
  | .error failure => .error failure
  | .ok none => .error (.ofKind url .io "no response received")
  | .ok (some r) => .ok (Probed.ofResponse r)

namespace Session

/-- The field that asks for XML. -/
def acceptXml : Headers :=
  Headers.insert {} "accept" (Utf8.bytes OpenRosa.xml)

/-- Fetches the XML document at an address. -/
def fetch {σ : Type} (p : Partners σ) (settings : ServerSettings) (store : Store) (url : String)
    (s : σ) : Fetched × Store × σ :=
  match validateUrl url with
  | .error failure => (.unanswered url failure.message, store, s)
  | .ok _ =>
    let ending := exchange p settings store .get acceptXml url s
    (.ofAnswer url ending.answer, ending.store, ending.state)

/-- Asks a server about itself. -/
def probe {σ : Type} (p : Partners σ) (settings : ServerSettings) (store : Store) (url : String)
    (s : σ) : Except Failure Probed × Store × σ :=
  match validateUrl url with
  | .error failure => (.error failure, store, s)
  | .ok _ =>
    let ending := exchange p settings store .head {} url s
    (Probed.ofAnswer url ending.answer, ending.store, ending.state)

end Session

end FormFetch
