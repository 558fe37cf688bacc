import FormFetch.Auth.Digest
import FormFetch.Transport.Redirect

/-!
# The client

A client sends credentials as Basic authentication until a server answers with a
Digest challenge.  From then on it remembers the challenge for this server and
counts how often it has answered it.

* `present` and `answerChallenge` are the two places where the memory is used; each says
  what the client presents.
* `exchange` sends a request, and once more when its challenge is answered; `execute`
  gives the response that came back last.
* `remembers` says whether a server's challenge is known.
-/

namespace FormFetch.Transport

open FormFetch.Http FormFetch.Auth

/-- Scheme, host and port of a server. -/
abbrev Origin := Url.Scheme × Url.Host × Nat

/-- A challenge and the number of its last answer. -/
structure Remembered where
  challenge : Digest.Challenge
  count : UInt32
  deriving DecidableEq, Repr

/-- What a client knows of the servers. -/
structure Memory where
  challenges : List (Origin × Remembered) := []
  deriving DecidableEq, Repr, Inhabited

namespace Memory

/-- What is known of a server. -/
def find? (m : Memory) (origin : Origin) : Option Remembered :=
  m.challenges.lookup origin

/-- Keeps something about a server. -/
def put (m : Memory) (origin : Origin) (r : Remembered) : Memory :=
  ⟨(origin, r) :: m.challenges.filter (·.1 != origin)⟩

@[simp] theorem find?_put_self (m : Memory) (origin : Origin) (r : Remembered) :
    (m.put origin r).find? origin = some r := by
  simp [put, find?]

theorem find?_put_of_ne (m : Memory) {origin other : Origin} (r : Remembered)
    (h : other ≠ origin) : (m.put origin r).find? other = m.find? other := by
  obtain ⟨entries⟩ := m
  simp only [put, find?, List.lookup_cons, beq_eq_false_iff_ne.mpr h]
  induction entries with
  | nil => rfl
  | cons e rest ih =>
    obtain ⟨first, known⟩ := e
    by_cases hf : first = origin
    · simp [hf, List.lookup_cons, beq_eq_false_iff_ne.mpr h, ih]
    · simp [hf, List.lookup_cons, ih]

theorem find?_put_eq_some {m : Memory} {origin other : Origin} {r known : Remembered}
    (h : (m.put origin r).find? other = some known) :
    other = origin ∧ known = r ∨ other ≠ origin ∧ m.find? other = some known := by
  by_cases ho : other = origin
  · subst ho
    rw [find?_put_self] at h
    exact Or.inl ⟨rfl, (Option.some.inj h).symm⟩
  · rw [find?_put_of_ne m r ho] at h
    exact Or.inr ⟨ho, h⟩

/-- Whether the challenge of the server of an address is known. -/
def remembers (m : Memory) (url : String) : Bool :=
  match Url.parse? url with
  | some url => (m.find? url.origin).isSome
  | none => false

end Memory

/-- The number after a count; the greatest number stays. -/
def nextCount (count : UInt32) : UInt32 :=
  if count = 0xFFFFFFFF then count else count + 1

/-- What a client presents to a server. -/
inductive Presented where
  | nothing
  /-- The username and the password as they are. -/
  | basic
  /-- The `count`-th answer to a challenge. -/
  | digest (challenge : Digest.Challenge) (count : UInt32) (cnonce : String)
  deriving DecidableEq, Repr

/-- The value of the `Authorization` field of a request. -/
def Presented.text? (r : Request) (url : Url) : Presented → Option String
  | nothing => none
  | basic => some (Auth.Basic.authorization r.credentials.username r.credentials.password)
  | digest c count cnonce =>
    some (c.answer r.credentials r.method.name url.target count cnonce)

/-- What a request presents at first: nothing without credentials, an answer to the server's
challenge if one is known, and else its credentials as they are. -/
def present {σ : Type} (net : Network σ) (r : Request) (url : Url) (m : Memory) (s : σ) :
    Presented × Memory × σ :=
  if r.credentials.isPresent then
    match m.find? url.origin with
    | some known =>
      let count := nextCount known.count
      let (cnonce, s) := net.nonce s
      (.digest known.challenge count cnonce, m.put url.origin { known with count }, s)
    | none => (.basic, m, s)
  else (.nothing, m, s)

/-- What a request presents after a fresh challenge, which is kept. -/
def answerChallenge {σ : Type} (net : Network σ) (url : Url) (c : Digest.Challenge)
    (m : Memory) (s : σ) : Presented × Memory × σ :=
  let (cnonce, s) := net.nonce s
  (.digest c 1 cnonce, m.put url.origin ⟨c, 1⟩, s)

/-- Sends a request with what it presents, if that fits into a header field. -/
def send {σ : Type} (net : Network σ) (r : Request) (url : Url) (p : Presented) (s : σ) :
    Except Failure Reply × σ :=
  let go (value : Option (List UInt8)) : Except Failure Reply × σ :=
    match follow net redirectLimit (outgoing r url value) s with
    | (.ok (_, reply), s) => (.ok reply, s)
    | (.error t, s) => (.error (t.toFailure r.url), s)
  match p.text? r url with
  | none => go none
  | some text =>
    match fieldValue? text with
    | some value => go (some value)
    | none => (.error (.invalidCredentials r.url), s)

/-- The first challenge of a refusal that the client can answer. -/
def challenge? (reply : Reply) : Option Digest.Challenge :=
  if reply.status = 401 then
    ((reply.headers.getAll "www-authenticate").filterMap fieldText?).findSome?
      Digest.Challenge.parse?
  else none

/-- What a request presented and what came back. -/
structure Sending where
  presented : Presented
  outcome : Except Failure Reply

/-- The challenge that came back, if the client can answer it. -/
def Sending.challenge? (x : Sending) : Option Digest.Challenge :=
  match x.outcome with
  | .ok reply => Transport.challenge? reply
  | .error _ => none

/-- The one or two sendings of a request. -/
structure Exchange where
  first : Sending
  second : Option Sending := none

/-- What came back last. -/
def Exchange.outcome (e : Exchange) : Except Failure Reply :=
  (e.second.getD e.first).outcome

/-- Sends a valid request, and once more when its refusal can be answered. -/
def exchange {σ : Type} (net : Network σ) (r : Request) (url : Url) (m : Memory) (s : σ) :
    Exchange × Memory × σ :=
  let (p, m, s) := present net r url m s
  let (outcome, s) := send net r url p s
  let first : Sending := ⟨p, outcome⟩
  match (if r.credentials.isPresent then first.challenge? else none) with
  | none => ({ first }, m, s)
  | some c =>
    let (p, m, s) := answerChallenge net url c m s
    let (outcome, s) := send net r url p s
    ({ first, second := some ⟨p, outcome⟩ }, m, s)

/-- Executes a request. -/
def execute {σ : Type} (net : Network σ) (r : Request) (m : Memory) (s : σ) :
    Except Failure Response × Memory × σ :=
  match r.validate with
  | .error failure => (.error failure, m, s)
  | .ok url =>
    let (e, m, s) := exchange net r url m s
    (e.outcome.map (·.toResponse r.url), m, s)

end FormFetch.Transport
