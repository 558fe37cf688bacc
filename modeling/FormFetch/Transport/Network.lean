import FormFetch.Http.Request
import FormFetch.Http.Response
import FormFetch.OpenRosa.Basic

/-!
# Networks

One exchange with a server, and what can go wrong below HTTP.

* `Network` is what a client needs from its surroundings.
* `Network.unreachable` is a network without any server.
-/

namespace FormFetch.Transport

open FormFetch.Http FormFetch.Text

/-- A request as it goes out. -/
structure Outgoing where
  method : Method
  url : Url
  headers : Headers
  body : Option (List UInt8)
  /-- The time limit in milliseconds. -/
  timeout : Nat
  deriving DecidableEq, Repr

/-- Why an exchange or a body breaks off. -/
structure Trouble where
  /-- The causes, the outermost first. -/
  causes : List Cause
  /-- The time limit was reached. -/
  timedOut : Bool := false
  deriving DecidableEq, Repr

/-- What one exchange brings. -/
structure Reply where
  status : Nat
  headers : Headers
  /-- The chunks of the body. -/
  body : List (Except Trouble (List UInt8))

/-- The surroundings of a client; `σ` is the type of what they remember. -/
structure Network (σ : Type) where
  /-- Sends one request and waits for its reply. -/
  exchange : Outgoing → σ → Except Trouble Reply × σ
  /-- A fresh client nonce. -/
  nonce : σ → String × σ

/-- An exchange without a response. -/
def Trouble.toFailure (t : Trouble) (url : String) : Failure :=
  if t.timedOut then .timeout url else .ofCauses url t.causes

/-- A body that breaks off. -/
def Trouble.toBodyFailure (t : Trouble) (url : String) : Failure :=
  match Failure.ofCauses url t.causes with
  | .transport url kind message causes =>
    .transport url (if t.timedOut then .timeout else kind) message causes
  | failure => failure

/-- The response of a reply to a request for `url`. -/
def Reply.toResponse (r : Reply) (url : String) : Response where
  status := r.status
  headers := r.headers
  body := some (r.body.map (·.mapError (·.toBodyFailure url)))

/-- The outermost cause of a failed exchange. -/
def sendingFailed (url : Url) : Cause where
  text := s!"error sending request for url ({url.text})"

/-- What stands between a failed connection and its request; a secure connection goes through a
tunnel. -/
def connectCauses (scheme : Url.Scheme) : List Cause :=
  match scheme with
  | .http => [⟨"client error (Connect)", none⟩]
  | .https =>
    [⟨"client error (Connect)", none⟩,
      ⟨"tunnel error: failed to create underlying connection", none⟩]

/-- A network in which no server can be reached. -/
def Network.unreachable (nonce : String) : Network Unit where
  exchange out _ :=
    (.error
      { causes := sendingFailed out.url :: connectCauses out.url.scheme ++
          [⟨"tcp connect error", none⟩,
            ⟨"Network is unreachable (os error 101)", some .other⟩] }, ())
  nonce _ := (nonce, ())

end FormFetch.Transport
