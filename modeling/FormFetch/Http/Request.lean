import FormFetch.Credentials.Basic
import FormFetch.Http.Failure
import FormFetch.Http.Headers
import FormFetch.Url.Basic

/-!
# Requests

What a client asks of a server: a method, an address, header fields, credentials, a
time limit and perhaps a body.

* `Request.validate` accepts a request with a proper address and a time limit.
-/

namespace FormFetch.Http

open FormFetch.Text

/-- The methods that the client uses. -/
inductive Method where
  | get
  | head
  | post
  deriving DecidableEq, Repr

/-- The name of a method. -/
def Method.name : Method → String
  | .get => "GET"
  | .head => "HEAD"
  | .post => "POST"

/-- The time for a connection to open, in seconds. -/
def connectSeconds : Nat :=
  30

/-- The time for a whole request, in seconds. -/
def requestSeconds : Nat :=
  60

/-- What a client asks of a server. -/
structure Request where
  method : Method
  url : String
  headers : Headers := {}
  credentials : Credentials := ⟨"", "", ""⟩
  /-- The time limit in milliseconds. -/
  timeout : Nat := requestSeconds * 1000
  /-- Only a POST sends it. -/
  body : Option (List UInt8) := none
  deriving DecidableEq, Repr

namespace Request

/-- The media type of XML that is sent. -/
def xmlWithCharset : String :=
  "text/xml; charset=utf-8"

/-- A POST of an XML text. -/
def post (url : String) (body : List UInt8) : Request where
  method := .post
  url
  headers := Headers.insert {} "content-type" (Utf8.bytes xmlWithCharset)
  body := some body

/-- Gives a header field one value. -/
def withHeader (r : Request) (name : String) (value : List UInt8) : Request :=
  { r with headers := r.headers.insert name value }

/-- Gives header fields the last of the values that `headers` has for them. -/
def withHeaders (r : Request) (headers : Headers) : Request :=
  { r with headers := r.headers.insertAll headers }

/-- Presents credentials. -/
def withCredentials (r : Request) (credentials : Credentials) : Request :=
  { r with credentials }

/-- Sets the time limit, in milliseconds. -/
def withTimeout (r : Request) (timeout : Nat) : Request :=
  { r with timeout }

/-- The body that goes out. -/
def sentBody (r : Request) : Option (List UInt8) :=
  if r.method = .post then r.body else none

end Request

/-- The address of a text, which has to be an absolute `http` or `https` address. -/
def validateUrl (text : String) : Except Failure Url :=
  match Url.parse? (trimmed text) with
  | some url => .ok url
  | none => .error (.invalidUrl text)

theorem validateUrl_eq_ok_iff {text : String} {url : Url} :
    validateUrl text = .ok url ↔ Url.parse? (trimmed text) = some url := by
  unfold validateUrl
  split
  · rename_i found hfound
    rw [hfound, Except.ok.injEq, Option.some.injEq]
  · rename_i hnone
    simp [hnone]

/-- The address of a request with a proper address and a time limit. -/
def Request.validate (r : Request) : Except Failure Url :=
  match validateUrl r.url with
  | .error failure => .error failure
  | .ok url => if r.timeout = 0 then .error (.invalidTimeout r.url) else .ok url

theorem Request.validate_eq_ok_iff {r : Request} {url : Url} :
    r.validate = .ok url ↔ Url.parse? (trimmed r.url) = some url ∧ r.timeout ≠ 0 := by
  rw [← validateUrl_eq_ok_iff]
  unfold validate
  split
  · rename_i failure hfailure
    simp [hfailure]
  · rename_i found hfound
    by_cases ht : r.timeout = 0
    · simp [ht]
    · simp [hfound, ht]

end FormFetch.Http
