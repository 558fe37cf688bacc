import FormFetch.Transport.Client

/-!
# The record of a client

A client executes one request after the other.  `record` lists what it sends in the
course of such a run: for each sending the request, what it presented and what came
back.

* `exchange_cases` says everything that one exchange can do.
* `Asked` is the condition under which a server's challenge is kept, and `Keeps` the
  invariant that ties it to the memory (`keeps_exchange`, `keeps_record`).
* `presented_of_record` says what every sending of a run presents.
-/

namespace FormFetch.Transport

open FormFetch.Http FormFetch.Auth

/-! ## One exchange -/

/-- Below the greatest number counting goes on. -/
theorem toNat_nextCount {count : UInt32} (h : count.toNat < 4294967295) :
    (nextCount count).toNat = count.toNat + 1 := by
  have hne : count ≠ 0xFFFFFFFF := by
    rintro rfl
    exact absurd h (by decide)
  simp only [nextCount, if_neg hne, UInt32.toNat_add, UInt32.toNat_ofNat]
  omega

section Exchange

variable {σ : Type} (net : Network σ) (r : Request) (url : Url) (m : Memory) (s : σ)

theorem present_of_anonymous (h : r.credentials.isPresent = false) :
    present net r url m s = (.nothing, m, s) := by
  simp [present, h]

theorem present_of_unknown (h : r.credentials.isPresent = true)
    (hm : m.find? url.origin = none) : present net r url m s = (.basic, m, s) := by
  simp [present, h, hm]

theorem present_of_known {known : Remembered} (h : r.credentials.isPresent = true)
    (hm : m.find? url.origin = some known) :
    present net r url m s =
      (.digest known.challenge (nextCount known.count) (net.nonce s).1,
        m.put url.origin { known with count := nextCount known.count }, (net.nonce s).2) := by
  simp [present, h, hm]

theorem answerChallenge_eq (c : Digest.Challenge) :
    answerChallenge net url c m s =
      (.digest c 1 (net.nonce s).1, m.put url.origin ⟨c, 1⟩, (net.nonce s).2) := rfl

variable {net r url m s} {p : Presented} {m₁ : Memory} {s₁ s₂ s₃ : σ}
  {outcome outcome' : Except Failure Reply} {c : Digest.Challenge}

theorem exchange_of_anonymous (hr : r.credentials.isPresent = false)
    (hs : send net r url .nothing s = (outcome, s₂)) :
    exchange net r url m s = ({ first := ⟨.nothing, outcome⟩ }, m, s₂) := by
  simp [exchange, present_of_anonymous net r url m s hr, hs, hr]

theorem exchange_of_unchallenged (hp : present net r url m s = (p, m₁, s₁))
    (hs : send net r url p s₁ = (outcome, s₂)) (hc : (Sending.mk p outcome).challenge? = none) :
    exchange net r url m s = ({ first := ⟨p, outcome⟩ }, m₁, s₂) := by
  simp [exchange, hp, hs, hc]

theorem exchange_of_challenged (hr : r.credentials.isPresent = true)
    (hp : present net r url m s = (p, m₁, s₁)) (hs : send net r url p s₁ = (outcome, s₂))
    (hc : (Sending.mk p outcome).challenge? = some c)
    (hs' : send net r url (.digest c 1 (net.nonce s₂).1) (net.nonce s₂).2 = (outcome', s₃)) :
    exchange net r url m s =
      ({ first := ⟨p, outcome⟩, second := some ⟨.digest c 1 (net.nonce s₂).1, outcome'⟩ },
        m₁.put url.origin ⟨c, 1⟩, s₃) := by
  simp [exchange, hp, hs, hr, hc, answerChallenge_eq, hs']

variable (net r url m s)

/-- An exchange ends with its first sending unless credentials meet a challenge; then there is a
second one, which answers that challenge. -/
theorem exchange_cases :
    ∃ p m₁ s₁ outcome s₂, present net r url m s = (p, m₁, s₁) ∧
      send net r url p s₁ = (outcome, s₂) ∧
      (exchange net r url m s = ({ first := ⟨p, outcome⟩ }, m₁, s₂) ∧
          (r.credentials.isPresent = true → (Sending.mk p outcome).challenge? = none) ∨
        ∃ c p' m₂ s₃ outcome' s₄, r.credentials.isPresent = true ∧
          (Sending.mk p outcome).challenge? = some c ∧
          answerChallenge net url c m₁ s₂ = (p', m₂, s₃) ∧
          send net r url p' s₃ = (outcome', s₄) ∧
          exchange net r url m s =
            ({ first := ⟨p, outcome⟩, second := some ⟨p', outcome'⟩ }, m₂, s₄)) := by
  rcases hp : present net r url m s with ⟨p, m₁, s₁⟩
  rcases ho : send net r url p s₁ with ⟨outcome, s₂⟩
  refine ⟨p, m₁, s₁, outcome, s₂, rfl, ho, ?_⟩
  by_cases hr : r.credentials.isPresent = true
  · cases hc : (Sending.mk p outcome).challenge? with
    | none => exact Or.inl ⟨exchange_of_unchallenged hp ho hc, fun _ => rfl⟩
    | some c =>
      rcases ho' : send net r url (.digest c 1 (net.nonce s₂).1) (net.nonce s₂).2 with
        ⟨outcome', s₄⟩
      exact Or.inr ⟨c, _, _, _, outcome', s₄, hr, rfl, answerChallenge_eq .., ho',
        exchange_of_challenged hr hp ho hc ho'⟩
  · have hr' : r.credentials.isPresent = false := by simpa using hr
    rw [present_of_anonymous net r url m s hr'] at hp
    obtain ⟨rfl, rfl, rfl⟩ := hp
    exact Or.inl ⟨exchange_of_anonymous hr' ho, fun h => absurd h hr⟩

end Exchange

/-! ## Runs -/

/-- The sendings of an exchange in order. -/
def Exchange.sendings (e : Exchange) : List Sending :=
  e.first :: e.second.toList

/-- A sending in the course of a run. -/
structure Sent where
  request : Request
  url : Url
  sending : Sending

/-- The sendings of one execution: none if the request is not valid. -/
def sent {σ : Type} (net : Network σ) (r : Request) (m : Memory) (s : σ) : List Sent :=
  match r.validate with
  | .error _ => []
  | .ok url => (exchange net r url m s).1.sendings.map fun sending => ⟨r, url, sending⟩

/-- Executes requests one after the other: all their sendings in order, the memory at the end and
what the surroundings remember. -/
def record {σ : Type} (net : Network σ) : List Request → Memory → σ → List Sent × Memory × σ
  | [], m, s => ([], m, s)
  | r :: rest, m, s =>
    let (_, m', s') := execute net r m s
    let (log, last) := record net rest m' s'
    (sent net r m s ++ log, last)

theorem execute_of_invalid {σ : Type} (net : Network σ) {r : Request} {failure : Failure}
    (h : r.validate = .error failure) (m : Memory) (s : σ) :
    execute net r m s = (.error failure, m, s) := by
  simp [execute, h]

theorem execute_of_valid {σ : Type} (net : Network σ) {r : Request} {url : Url}
    (h : r.validate = .ok url) (m : Memory) (s : σ) :
    execute net r m s =
      ((exchange net r url m s).1.outcome.map (·.toResponse r.url),
        (exchange net r url m s).2) := by
  simp [execute, h]

theorem sent_of_valid {σ : Type} (net : Network σ) {r : Request} {url : Url}
    (h : r.validate = .ok url) (m : Memory) (s : σ) :
    sent net r m s =
      (exchange net r url m s).1.sendings.map fun sending => ⟨r, url, sending⟩ := by
  simp [sent, h]

/-! ## Which challenges are kept -/

/-- The answer to a digest challenge. -/
def Presented.isDigest : Presented → Bool
  | digest .. => true
  | nothing | basic => false

/-- Some refusal from a server had a challenge that the client can answer. -/
def Challenged (log : List Sent) (origin : Origin) : Prop :=
  ∃ x ∈ log, x.url.origin = origin ∧ x.sending.challenge?.isSome

/-- Some request with credentials got such a refusal from a server. -/
def Asked (log : List Sent) (origin : Origin) : Prop :=
  ∃ x ∈ log, x.url.origin = origin ∧ x.request.credentials.isPresent ∧
    x.sending.challenge?.isSome

/-- The memory knows the servers that have asked for an answer, and no others. -/
def Keeps (log : List Sent) (m : Memory) : Prop :=
  ∀ origin, (m.find? origin).isSome ↔ Asked log origin

/-- What a sending presents after the sendings `log`. -/
def Apt (log : List Sent) (x : Sent) : Prop :=
  (x.sending.presented = .basic ↔
      x.request.credentials.isPresent ∧ ¬Asked log x.url.origin) ∧
    (x.sending.presented.isDigest ↔
      x.request.credentials.isPresent ∧ Asked log x.url.origin)

theorem asked_append {log more : List Sent} {origin : Origin} :
    Asked (log ++ more) origin ↔ Asked log origin ∨ Asked more origin := by
  simp only [Asked, List.mem_append, or_and_right, exists_or]

theorem asked_singleton {x : Sent} {origin : Origin} :
    Asked [x] origin ↔ x.url.origin = origin ∧ x.request.credentials.isPresent ∧
      x.sending.challenge?.isSome := by
  simp [Asked]

theorem keeps_nil : Keeps [] {} := by
  intro origin
  simp [Memory.find?, Asked]

/-- A challenge takes the place of what was known of its server. -/
theorem Keeps.put {log : List Sent} {m : Memory} {x : Sent} (h : Keeps log m) (k : Remembered)
    (hx : Asked [x] x.url.origin) : Keeps (log ++ [x]) (m.put x.url.origin k) := by
  intro origin
  rw [asked_append]
  by_cases ho : origin = x.url.origin
  · subst ho
    simp [hx]
  · rw [Memory.find?_put_of_ne m k ho, h origin]
    have hne : ¬Asked [x] origin := fun ha => ho (asked_singleton.mp ha).1.symm
    simp [hne]

/-- Whatever else comes from a server that has asked changes nothing. -/
theorem Keeps.append {log : List Sent} {m : Memory} {y : Sent} (h : Keeps log m)
    (hy : Asked log y.url.origin) : Keeps (log ++ [y]) m := by
  intro origin
  rw [h origin, asked_append]
  constructor
  · exact Or.inl
  · rintro (ha | hy')
    · exact ha
    · exact (asked_singleton.mp hy').1 ▸ hy

/-- What is presented at first counts up, but neither learns nor forgets a server. -/
theorem isSome_find?_present {σ : Type} (net : Network σ) (r : Request) (url : Url) (m : Memory)
    (s : σ) (origin : Origin) :
    ((present net r url m s).2.1.find? origin).isSome = (m.find? origin).isSome := by
  by_cases hr : r.credentials.isPresent = true
  · cases hm : m.find? url.origin with
    | none => rw [present_of_unknown net r url m s hr hm]
    | some known =>
      rw [present_of_known net r url m s hr hm]
      by_cases ho : origin = url.origin
      · subst ho
        simp [hm]
      · simp [Memory.find?_put_of_ne m _ ho]
  · rw [present_of_anonymous net r url m s (by simpa using hr)]

/-- The first sending of an exchange presents what its server has asked for. -/
theorem apt_present {σ : Type} (net : Network σ) (r : Request) (url : Url) {m : Memory}
    (s : σ) {log : List Sent} (h : Keeps log m) (outcome : Except Failure Reply) :
    Apt log ⟨r, url, (present net r url m s).1, outcome⟩ := by
  unfold Apt
  rw [← h url.origin]
  by_cases hr : r.credentials.isPresent = true
  · cases hm : m.find? url.origin with
    | none => simp [present_of_unknown net r url m s hr hm, hr, Presented.isDigest]
    | some known => simp [present_of_known net r url m s hr hm, hr, Presented.isDigest]
  · simp [present_of_anonymous net r url m s (by simpa using hr), hr, Presented.isDigest]

/-- Each sending is apt after those before it. -/
def AptFrom (log : List Sent) : List Sent → Prop
  | [] => True
  | x :: rest => Apt log x ∧ AptFrom (log ++ [x]) rest

theorem aptFrom_append {log xs ys : List Sent} :
    AptFrom log (xs ++ ys) ↔ AptFrom log xs ∧ AptFrom (log ++ xs) ys := by
  induction xs generalizing log with
  | nil => simp [AptFrom]
  | cons x rest ih => simp [AptFrom, ih, and_assoc]

theorem AptFrom.apt {log before after : List Sent} {x : Sent}
    (h : AptFrom log (before ++ x :: after)) : Apt (log ++ before) x :=
  (aptFrom_append.mp h).2.1

/-- One exchange keeps the invariant, and all its sendings are apt. -/
theorem keeps_exchange {σ : Type} (net : Network σ) (r : Request) (url : Url) {m : Memory}
    (s : σ) {log : List Sent} (h : Keeps log m) :
    AptFrom log ((exchange net r url m s).1.sendings.map (⟨r, url, ·⟩)) ∧
      Keeps (log ++ (exchange net r url m s).1.sendings.map (⟨r, url, ·⟩))
        (exchange net r url m s).2.1 := by
  obtain ⟨p, m₁, s₁, outcome, s₂, hp, -, hcase⟩ := exchange_cases net r url m s
  have hfirst : Apt log ⟨r, url, p, outcome⟩ := by
    simpa only [hp] using apt_present net r url s h outcome
  have hsome : ∀ origin, (m₁.find? origin).isSome = (m.find? origin).isSome := by
    intro origin
    simpa only [hp] using isSome_find?_present net r url m s origin
  rcases hcase with ⟨he, hno⟩ | ⟨c, p', m₂, s₃, outcome', s₄, hr, hc, ha, -, he⟩
  · rw [he]
    refine ⟨⟨hfirst, trivial⟩, fun origin => ?_⟩
    have hnot : ¬Asked [⟨r, url, p, outcome⟩] origin := by
      rintro ⟨x, hx, -, hr, hc⟩
      simp only [List.mem_singleton] at hx
      subst hx
      simp [hno hr] at hc
    simp only [hsome origin, h origin, Exchange.sendings, Option.toList_none, List.map_cons,
      List.map_nil, asked_append, hnot, or_false]
  · rw [he]
    -- The challenge came with the first sending, so it counts for the second one.
    have hx : Asked [⟨r, url, p, outcome⟩] url.origin :=
      asked_singleton.mpr ⟨rfl, hr, by simp [hc]⟩
    rw [answerChallenge_eq] at ha
    obtain ⟨rfl, rfl, rfl⟩ := ha
    have hm₁ : Keeps log m₁ := fun origin => by rw [hsome origin, h origin]
    have hm₂ := hm₁.put (x := ⟨r, url, p, outcome⟩) ⟨c, 1⟩ hx
    refine ⟨⟨hfirst, ⟨?_, ?_⟩, trivial⟩, ?_⟩
    · simp [asked_append, hx]
    · simp [asked_append, hx, hr, Presented.isDigest]
    · have hm := hm₂.append (y := ⟨r, url, .digest c 1 (net.nonce s₂).1, outcome'⟩)
        (asked_append.mpr (Or.inr hx))
      simpa [Exchange.sendings] using hm

/-- A whole run keeps the invariant, and all its sendings are apt. -/
theorem keeps_record {σ : Type} (net : Network σ) (rs : List Request) {m : Memory} (s : σ)
    {log : List Sent} (h : Keeps log m) :
    AptFrom log (record net rs m s).1 ∧
      Keeps (log ++ (record net rs m s).1) (record net rs m s).2.1 := by
  induction rs generalizing log m s with
  | nil => simpa [record, AptFrom] using h
  | cons r rest ih =>
    cases hv : r.validate with
    | error failure =>
      simpa [record, execute_of_invalid net hv, sent, hv] using ih s h
    | ok url =>
      obtain ⟨hapt, hkeeps⟩ := keeps_exchange net r url s h
      have hrest := ih (exchange net r url m s).2.2 hkeeps
      simp only [record, execute_of_valid net hv, sent_of_valid net hv]
      exact ⟨aptFrom_append.mpr ⟨hapt, hrest.1⟩, by simpa using hrest.2⟩

/-- What a client presents follows from what it has seen: Basic credentials as long as no request
with credentials has been asked for an answer, and the answer to a challenge from then on.  The
challenges of anonymous requests do not count. -/
theorem presented_of_record {σ : Type} (net : Network σ) (rs : List Request) (s : σ)
    (i : Fin (record net rs {} s).1.length) :
    let log := (record net rs {} s).1
    let x := log.get i
    (x.sending.presented = .basic ↔
        x.request.credentials.isPresent ∧ ¬Asked (log.take i) x.url.origin) ∧
      (x.sending.presented.isDigest ↔
        x.request.credentials.isPresent ∧ Asked (log.take i) x.url.origin) := by
  intro log x
  have hsplit : log = log.take i ++ x :: log.drop (i + 1) := by
    simp [log, x]
  have hapt : AptFrom [] log := (keeps_record net rs s keeps_nil).1
  rw [hsplit] at hapt
  exact hapt.apt

/-! ## A server whose replies are fixed -/

/-- Servers that give fixed replies one after the other. -/
def scripted : Network (List Reply) where
  exchange _ replies :=
    (match replies.head? with
      | some reply => .ok reply
      | none => .error { causes := [] }, replies.tail)
  nonce replies := ("00112233445566778899aabbccddeeff", replies)

/-- A refusal with a challenge. -/
def refusal (challenge : String) : Reply :=
  ⟨401, .ofList [("www-authenticate", Text.Utf8.bytes challenge)], []⟩

/-- A request for a list of forms. -/
def listRequest (username password : String) : Request where
  method := .get
  url := "http://forms.example/formList"
  credentials := ⟨"http://forms.example", username, password⟩

/-- The address of `listRequest`. -/
def listUrl : Url :=
  ⟨.http, "", none, .domain "forms.example", none, ["formList"], none, none⟩

theorem validate_listRequest (username password : String) :
    (listRequest username password).validate = .ok listUrl := by
  have hparse : Url.parse? (Text.trimmed "http://forms.example/formList") = some listUrl := by
    decide +kernel
  exact Request.validate_eq_ok_iff.mpr ⟨hparse, (by decide : requestSeconds * 1000 ≠ 0)⟩

/-- The replies of a server that challenges once. -/
def challengeOnce : List Reply :=
  [refusal "Digest realm=\"forms\", nonce=\"n\", qop=\"auth\"", ⟨200, {}, []⟩]

/-- The challenge of an anonymous request is forgotten: the request after it presents its
credentials as they are to the server that asked for an answer. -/
theorem basic_after_challenge :
    ∃ x y,
      (record scripted [listRequest "" "", listRequest "alice" "s3cret"] {} challengeOnce).1 =
        [x, y] ∧
      Challenged [x] y.url.origin ∧ y.request.credentials.isPresent ∧
      y.sending.presented = .basic := by
  have hseen :
      (record scripted [listRequest "" "", listRequest "alice" "s3cret"] {}
        challengeOnce).1.map (fun z => (z.request.credentials.isPresent, z.url.origin,
          z.sending.challenge?.isSome, z.sending.presented)) =
        [(false, (.http, .domain "forms.example", 80), true, .nothing),
          (true, (.http, .domain "forms.example", 80), false, .basic)] := by
    decide +kernel
  simp only [List.map_eq_cons_iff, List.map_eq_nil_iff, Prod.mk.injEq] at hseen
  obtain ⟨x, _, h, ⟨-, hox, hc, -⟩, y, _, rfl, ⟨hy, hoy, -, hbasic⟩, rfl⟩ := hseen
  exact ⟨x, y, h, ⟨x, by simp, by rw [hox, hoy], hc⟩, hy, hbasic⟩

end FormFetch.Transport
