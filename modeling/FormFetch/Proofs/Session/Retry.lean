import FormFetch.Proofs.Credentials.Lookup
import FormFetch.Session.Fetch

/-!
# Requests that are repeated

A refused request is repeated with what the user answers.  `Partners.recording` notes
what a session does, and `Operation.log` is what it does in one fetch or probe.

* `log_of_valid` reduces both operations to `exchange`, and `exchange_provide` is the
  exchange in which the user gives credentials.
* `retry_presents_answer_iff` says when the repeated request carries them.
-/

namespace FormFetch.Session

open Text Http Prompt

/-! ## What a session does -/

/-- What a session does with its partners. -/
inductive Event where
  | sent (r : Request)
  | asked (q : Question)
  deriving DecidableEq, Repr

section Following

variable {σ τ : Type}

/-- The first partners do what the second ones do, and remember more. -/
structure Follows (p' : Partners τ) (p : Partners σ) (view : τ → σ) : Prop where
  execute : ∀ r t, p.execute r (view t) = ((p'.execute r t).1, view (p'.execute r t).2)
  ask : ∀ q t, p.ask q (view t) = ((p'.ask q t).1, view (p'.ask q t).2)
  date : ∀ t, p.date (view t) = ((p'.date t).1, view (p'.date t).2)

variable {p' : Partners τ} {p : Partners σ} {view : τ → σ} (h : Follows p' p view)
  (settings : ServerSettings) (store : Store)

include h

theorem Follows.send (method : Method) (more : Headers) (url : String) (t : τ) :
    Session.send p settings store method more url (view t) =
      ((Session.send p' settings store method more url t).1,
        view (Session.send p' settings store method more url t).2) := by
  simp only [Session.send, h.date, h.execute]

theorem Follows.onChallenge (serverUrl url : String) (status : Nat) (t : τ) :
    Handler.onChallenge p.ask serverUrl { store } url status (view t) =
      ((Handler.onChallenge p'.ask serverUrl { store } url status t).1,
        (Handler.onChallenge p'.ask serverUrl { store } url status t).2.1,
        view (Handler.onChallenge p'.ask serverUrl { store } url status t).2.2) := by
  simp only [Handler.onChallenge, if_true, h.ask]

/-- What partners remember beside changes nothing of an exchange. -/
theorem Follows.exchange (method : Method) (more : Headers) (url : String) (t : τ) :
    Session.exchange p settings store method more url (view t) =
      ⟨(Session.exchange p' settings store method more url t).answer,
        (Session.exchange p' settings store method more url t).store,
        view (Session.exchange p' settings store method more url t).state⟩ := by
  simp only [Session.exchange, h.send]
  rcases Session.send p' settings store method more url t with ⟨answer, t₁⟩
  rcases answer with failure | _ | response
  · rfl
  · rfl
  · dsimp only
    by_cases hc : isChallenge response.status = true
    · simp only [hc, if_true, h.onChallenge]
      rcases Handler.onChallenge p'.ask settings.serverUrl { store } url response.status t₁ with
        ⟨outcome, handler, t₂⟩
      cases outcome with
      | retry => simp only [h.send]
      | abandon => rfl
    · simp only [hc, Bool.false_eq_true, if_false]

end Following

section Recording

variable {σ : Type}

/-- The same partners, and a log of what is asked of them. -/
def recording (p : Partners σ) : Partners (σ × List Event) where
  execute r s := ((p.execute r s.1).1, (p.execute r s.1).2, s.2 ++ [.sent r])
  ask q s := ((p.ask q s.1).1, (p.ask q s.1).2, s.2 ++ [.asked q])
  date s := ((p.date s.1).1, (p.date s.1).2, s.2)

variable (p : Partners σ) (settings : ServerSettings) (store : Store)

theorem follows_recording : Follows (recording p) p Prod.fst where
  execute _ _ := rfl
  ask _ _ := rfl
  date _ := rfl

theorem send_recording (method : Method) (more : Headers) (url : String) (s : σ)
    (log : List Event) :
    send (recording p) settings store method more url (s, log) =
      ((send p settings store method more url s).1, (send p settings store method more url s).2,
        log ++ [.sent (request settings store method more url (p.date s).1)]) := rfl

theorem onChallenge_recording (serverUrl url : String) (status : Nat) (s : σ)
    (log : List Event) :
    Handler.onChallenge (recording p).ask serverUrl { store } url status (s, log) =
      ((Handler.onChallenge p.ask serverUrl { store } url status s).1,
        (Handler.onChallenge p.ask serverUrl { store } url status s).2.1,
        (Handler.onChallenge p.ask serverUrl { store } url status s).2.2,
        log ++ [.asked (question store serverUrl url status)]) := by
  simp [Handler.onChallenge, recording]

/-- The log changes nothing of what a session does. -/
theorem exchange_recording (method : Method) (more : Headers) (url : String) (s : σ)
    (log : List Event) :
    let noted := exchange (recording p) settings store method more url (s, log)
    let plain := exchange p settings store method more url s
    noted.answer = plain.answer ∧ noted.store = plain.store ∧ noted.state.1 = plain.state := by
  intro noted plain
  have hplain : plain = ⟨noted.answer, noted.store, noted.state.1⟩ :=
    (follows_recording p).exchange settings store method more url (s, log)
  rw [hplain]
  exact ⟨rfl, rfl, rfl⟩

end Recording

/-- What a session offers that may ask for credentials. -/
inductive Operation where
  | fetch
  | probe
  deriving DecidableEq, Repr

namespace Operation

def method : Operation → Method
  | fetch => .get
  | probe => .head

/-- The fields of its own. -/
def fields : Operation → Headers
  | fetch => acceptXml
  | probe => {}

/-- What a session does in the course of an operation. -/
def log {σ : Type} (op : Operation) (p : Partners σ) (settings : ServerSettings) (store : Store)
    (url : String) (s : σ) : List Event :=
  match op with
  | fetch => (Session.fetch (recording p) settings store url (s, [])).2.2.2
  | probe => (Session.probe (recording p) settings store url (s, [])).2.2.2

theorem log_of_valid {σ : Type} (op : Operation) (p : Partners σ) (settings : ServerSettings)
    (store : Store) {url : String} {address : Url} (h : validateUrl url = .ok address) (s : σ) :
    op.log p settings store url s =
      (exchange (recording p) settings store op.method op.fields url (s, [])).state.2 := by
  cases op with
  | fetch => simp [log, Session.fetch, h, method, fields]
  | probe => simp [log, Session.probe, h, method, fields]

end Operation

/-! ## What the repeated request carries -/

section Retry

variable {σ : Type} {p : Partners σ} {settings : ServerSettings} {store : Store} {url : String}
  {s s₁ s₂ : σ} {response : Response} {username password : String}

/-- The key that new credentials for an address are kept under. -/
def keptKey (settings : ServerSettings) (url : String) : String :=
  addressKey (target settings.serverUrl url).1

theorem onChallenge_provide
    (h : p.ask (question store settings.serverUrl url response.status) s₁ =
      (.provide username password, s₂)) :
    Handler.onChallenge p.ask settings.serverUrl { store } url response.status s₁ =
      (.retry,
        ⟨.retrying, store.set (target settings.serverUrl url).1 username password⟩, s₂) := by
  have hq : (question store settings.serverUrl url response.status).targetUrl =
      (target settings.serverUrl url).1 := by
    simp only [question]
  simp only [Handler.onChallenge, if_true, h, Handler.decide, hq]

/-- A refusal that the user answers: the request, the question, and the request with what the
changed store has for it. -/
theorem log_exchange_provide {method : Method} {more : Headers}
    (hsend : send p settings store method more url s = (.ok (some response), s₁))
    (hstatus : isChallenge response.status = true)
    (hask : p.ask (question store settings.serverUrl url response.status) s₁ =
      (.provide username password, s₂)) :
    (exchange (recording p) settings store method more url (s, [])).state.2 =
      [.sent (request settings store method more url (p.date s).1),
        .asked (question store settings.serverUrl url response.status),
        .sent (request settings
          (store.set (target settings.serverUrl url).1 username password) method more url
          (p.date s₂).1)] := by
  have hchallenge := onChallenge_provide hask
  simp only [exchange, send_recording, hsend, hstatus, if_true, onChallenge_recording, hchallenge]
  rfl

theorem credentials_request (method : Method) (more : Headers) (date : String) :
    (request settings store method more url date).credentials = store.get url := rfl

/-- A refused request whose user gives credentials is repeated with them exactly if the key that
they are kept under leads to the requested address; else with what it was sent with at first. -/
theorem retry_presents_answer_iff (hstore : store.Reachable) {address : Url}
    (hurl : validateUrl url = .ok address) (op : Operation)
    (hsend : send p settings store op.method op.fields url s = (.ok (some response), s₁))
    (hstatus : isChallenge response.status = true)
    (hask : p.ask (question store settings.serverUrl url response.status) s₁ =
      (.provide username password, s₂)) :
    ∃ r₁ q r₂, op.log p settings store url s = [.sent r₁, .asked q, .sent r₂] ∧
      r₁.credentials = store.get url ∧
      r₂.credentials =
        (if store.Leads (keptKey settings url) (trimmed url) then
          ⟨keptKey settings url, username, password⟩
        else r₁.credentials) ∧
      (r₂.credentials.username = username ∧ r₂.credentials.password = password ↔
        store.Leads (keptKey settings url) (trimmed url) ∨
          r₁.credentials.username = username ∧ r₁.credentials.password = password) := by
  have hlog := op.log_of_valid p settings store hurl s
  rw [log_exchange_provide hsend hstatus hask] at hlog
  refine ⟨_, _, _, hlog, credentials_request .., ?_⟩
  rw [credentials_request, credentials_request, Store.get_set_eq hstore.ordered, keptKey]
  refine ⟨rfl, ?_⟩
  split
  · rename_i hleads
    simp [hleads]
  · rename_i hleads
    simp [hleads]

/-! ## A key that leads to its address -/

/-- Inside the server the key of the server leads to every address, if it is its own key and
nothing longer is kept. -/
theorem covers_keptKey_of_inside
    (h : covers (addressKey settings.serverUrl) (trimmed url) = true)
    (hkey : addressKey (addressKey settings.serverUrl) = addressKey settings.serverUrl) :
    covers (keptKey settings url) (trimmed url) = true := by
  rw [keptKey, target, if_pos h]
  dsimp only
  rw [hkey]
  exact h

/-- Outside the server an address without the device's query is covered by what is kept for it. -/
theorem covers_keptKey_of_outside
    (h : covers (addressKey settings.serverUrl) (trimmed url) = false)
    (hquery : before deviceQuery.toList url.toList = url.toList)
    (hne : addressKey url ≠ "") : covers (keptKey settings url) (trimmed url) = true := by
  rw [keptKey, target, if_neg (by rw [h]; decide)]
  dsimp only
  rw [hquery, String.ofList_toList]
  exact covers_addressKey hne

end Retry

/-! ## A server that refuses once -/

/-- Partners with fixed responses and a user who gives the same credentials every time. -/
def answering (username password : String) : Partners (List Response) where
  execute _ responses := (.ok responses.head?, responses.tail)
  ask := Prompt.fixed username password
  date responses := ("", responses)

/-- The responses of a server that refuses once. -/
def refusedOnce : List Response :=
  [{ status := 401 }, { status := 200 }]

/-- The settings of a session with this server. -/
def formServer : ServerSettings where
  serverUrl := "http://forms.example"

/-- An address on this server. -/
def formList : String :=
  "http://forms.example/v1/formList"

theorem validate_formList :
    validateUrl formList =
      .ok ⟨.http, "", none, .domain "forms.example", none, ["v1", "formList"], none, none⟩ := by
  have hparse : Url.parse? (trimmed formList) =
      some ⟨.http, "", none, .domain "forms.example", none, ["v1", "formList"], none, none⟩ := by
    decide +kernel
  exact validateUrl_eq_ok_iff.mpr hparse

/-- With nothing kept before, the repeated request carries what the user gave. -/
theorem retry_presents_answer_formList :
    ∃ r₁ q r₂, Operation.fetch.log (answering "alice" "s3cret") formServer {} formList
        refusedOnce = [.sent r₁, .asked q, .sent r₂] ∧
      r₂.credentials = ⟨"http://forms.example", "alice", "s3cret"⟩ := by
  have hsend : send (answering "alice" "s3cret") formServer {} Operation.fetch.method
      Operation.fetch.fields formList refusedOnce =
        (.ok (some { status := 401 }), [{ status := 200 }]) := rfl
  obtain ⟨r₁, q, r₂, hlog, -, hcredentials, -⟩ :=
    retry_presents_answer_iff Store.Reachable.new validate_formList .fetch hsend rfl rfl
  have hkey : keptKey formServer formList = "http://forms.example" := by
    decide +kernel
  have hleads : Store.Leads {} (keptKey formServer formList) (trimmed formList) := by
    decide +kernel
  rw [if_pos hleads, hkey] at hcredentials
  exact ⟨r₁, q, r₂, hlog, hcredentials⟩

/-- What is kept for a part of the server goes before what the user gives: the answer is kept for
the whole server, and the repeated request carries the old credentials again. -/
theorem retry_presents_old_credentials :
    let p := answering "alice" "s3cret"
    let store := ({} : Store).set "http://forms.example/v1" "bob" "old"
    store.Reachable ∧ (validateUrl formList).isOk ∧
      (send p formServer store .get acceptXml formList refusedOnce).1 =
        .ok (some { status := 401 }) ∧
      (∀ q s, p.ask q s = (.provide "alice" "s3cret", s)) ∧
      ∃ r₁ q r₂, Operation.fetch.log p formServer store formList refusedOnce =
          [.sent r₁, .asked q, .sent r₂] ∧
        r₂.credentials = ⟨"http://forms.example/v1", "bob", "old"⟩ := by
  intro p store
  have hsend : send p formServer store .get acceptXml formList refusedOnce =
      (.ok (some { status := 401 }), [{ status := 200 }]) := rfl
  have hlog := Operation.fetch.log_of_valid p formServer store validate_formList refusedOnce
  refine ⟨Store.Reachable.new.set _ _ _, by simp [validate_formList, Except.isOk, Except.toBool],
    by rw [hsend], fun _ _ => rfl, _, _, _,
    hlog.trans (log_exchange_provide hsend rfl rfl), ?_⟩
  rw [credentials_request]
  decide +kernel

end FormFetch.Session
