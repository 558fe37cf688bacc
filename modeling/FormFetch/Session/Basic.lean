import FormFetch.Http.Request
import FormFetch.Http.Response
import FormFetch.OpenRosa.Basic
import FormFetch.Prompt.Handler

/-!
# Sessions

A session talks to one server on behalf of one user: it has settings and a
credential store, and it is given a transport, a user to ask and a clock.

* `Session.exchange` sends a request, and once more if the user gives credentials
  after a refusal.
-/

namespace FormFetch

open Text Http Prompt

/-- What a session is set up with. -/
structure ServerSettings where
  serverUrl : String
  /-- The time limit of a request in milliseconds. -/
  timeout : Nat := requestSeconds * 1000
  deriving DecidableEq, Repr

/-- Whom a session deals with; `σ` is the type of what they remember. -/
structure Partners (σ : Type) where
  /-- Sends a request; the answer may stay out. -/
  execute : Request → σ → Except Failure (Option Response) × σ
  /-- Asks the user. -/
  ask : Question → σ → Decision × σ
  /-- The time of a request. -/
  date : σ → String × σ

namespace Session

/-- The request of a session for an address. -/
def request (settings : ServerSettings) (store : Store) (method : Method) (more : Headers)
    (url date : String) : Request :=
  ({ method, url } : Request)
    |>.withHeaders (OpenRosa.requestHeaders date)
    |>.withHeaders more
    |>.withCredentials (store.get url)
    |>.withTimeout settings.timeout

/-- Sends one request with the credentials that the store has for it. -/
def send {σ : Type} (p : Partners σ) (settings : ServerSettings) (store : Store)
    (method : Method) (more : Headers) (url : String) (s : σ) :
    Except Failure (Option Response) × σ :=
  let (date, s) := p.date s
  p.execute (request settings store method more url date) s

/-- What an exchange ends with: the answer, the store and what the partners remember. -/
structure Ending (σ : Type) where
  answer : Except Failure (Option Response)
  store : Store
  state : σ

/-- Sends a request.  A refusal asks the user for credentials, and with them the request is sent
once more; its answer is then the last word. -/
def exchange {σ : Type} (p : Partners σ) (settings : ServerSettings) (store : Store)
    (method : Method) (more : Headers) (url : String) (s : σ) : Ending σ :=
  let (answer, s) := send p settings store method more url s
  match answer with
  | .ok (some response) =>
    if isChallenge response.status then
      match Handler.onChallenge p.ask settings.serverUrl { store } url response.status s with
      | (.retry, h, s) =>
        let (answer, s) := send p settings h.store method more url s
        ⟨answer, h.store, s⟩
      | (.abandon, h, s) => ⟨answer, h.store, s⟩
    else ⟨answer, store, s⟩
  | _ => ⟨answer, store, s⟩

end Session

/-! ## Reports -/

/-- A length of time in milliseconds, in seconds from one second on. -/
def reportDuration (milliseconds : Nat) : String :=
  let part := milliseconds % 1000
  let digits := (Nat.toDigits 10 (1000 + part)).drop 1
  let fraction := dropEndWhile (· == '0') digits
  if milliseconds = 0 then "0ns"
  else if milliseconds < 1000 then s!"{milliseconds}ms"
  else if fraction.isEmpty then s!"{milliseconds / 1000}s"
  else s!"{milliseconds / 1000}.{String.ofList fraction}s"

/-- The report of settings. -/
def ServerSettings.report (settings : ServerSettings) : String :=
  let url := quoted settings.serverUrl
  let timeout := reportDuration settings.timeout
  s!"ServerSettings \x7b server_url: {url}, request_timeout: {timeout} \x7d"

/-- The report of a session. -/
def Session.report (settings : ServerSettings) (store : Store) : String :=
  s!"ClientSession \x7b settings: {settings.report}, credentials: {store.report}, .. \x7d"

/-- The report of a client of a session. -/
def Session.reportClient (settings : ServerSettings) (store : Store) : String :=
  s!"ServerClient \x7b session: {report settings store} \x7d"

end FormFetch
