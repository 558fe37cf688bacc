import FormFetch.Proofs.Auth.Digest
import FormFetch.Proofs.Transport.Record
import FormFetch.Proofs.Url.Target

/-!
# A server that asks for Digest authentication

A reference server (RFC 7616): it has a demand, reads the answers to it strictly and
recomputes the proof of the password.

* `Demand` is what the server asks for; `challenge?_text` says that a client reads it as
  it is meant.
* `Demand.admits?` is the check of a request.  `admits?_answer` and
  `admits?_of_other_nonce` are the two cases of an answer, `admits?_basic` is the case of
  plain credentials.
* `Server.network` is the server with its memory.
-/

namespace FormFetch.Transport

open FormFetch.Http FormFetch.Auth
open FormFetch.Text (Utf8.bytes Utf8.string? sameIgnoringCase)

/-! ## Demands -/

/-- What a server asks for. -/
structure Demand where
  realm : String
  nonce : String
  opaqueValue : Option String
  algorithm : Digest.Algorithm
  /-- The qualities of protection on offer, in the form of RFC 7616. -/
  qop : Option String
  deriving DecidableEq, Repr

/-- Text of printable ASCII characters. -/
def Visible (text : String) : Prop :=
  ∀ c ∈ text.toList, isVisible c = true

instance (text : String) : Decidable (Visible text) :=
  decidable_of_iff (text.toList.all isVisible = true) List.all_eq_true

namespace Demand

/-- A demand that can be sent and answered: everything is printable, and `auth` is among the
qualities on offer, which only a plain algorithm can do without. -/
structure Proper (d : Demand) : Prop where
  realm : Visible d.realm
  nonce : Visible d.nonce
  opaqueValue : ∀ text, d.opaqueValue = some text → Visible text
  qop : ∀ options, d.qop = some options →
    Visible options ∧ Digest.Challenge.listsAuth options = true
  session : d.algorithm.isSession = true → d.qop.isSome = true

/-- The parameters of the demand. -/
def params (d : Demand) : List (String × Param.Written) :=
  [("realm", .quoted d.realm), ("nonce", .quoted d.nonce),
    ("algorithm", .token d.algorithm.name)] ++
  (match d.opaqueValue with
    | some text => [("opaque", .quoted text)]
    | none => []) ++
  (match d.qop with
    | some options => [("qop", .quoted options)]
    | none => [])

/-- The value of the `WWW-Authenticate` field. -/
def text (d : Demand) : String :=
  String.ofList ("Digest ".toList ++ Param.writeAll d.params)

/-- The demand as a client is to understand it. -/
def challenge (d : Demand) : Digest.Challenge where
  realm := d.realm
  nonce := d.nonce
  opaqueValue := d.opaqueValue
  algorithm := d.algorithm
  offersAuth := d.qop.isSome
  stale := false

theorem mem_params {d : Demand} {p : String × Param.Written} (hp : p ∈ d.params) :
    p = ("realm", .quoted d.realm) ∨ p = ("nonce", .quoted d.nonce) ∨
      p = ("algorithm", .token d.algorithm.name) ∨
      (∃ text, d.opaqueValue = some text ∧ p = ("opaque", .quoted text)) ∨
      ∃ options, d.qop = some options ∧ p = ("qop", .quoted options) := by
  simp only [params, List.mem_append, List.mem_cons, List.not_mem_nil, or_false] at hp
  rcases hp with ((rfl | rfl | rfl) | hp) | hp
  · simp
  · simp
  · simp
  · split at hp
    · rename_i text htext
      exact Or.inr (Or.inr (Or.inr (Or.inl ⟨text, htext, List.mem_singleton.mp hp⟩)))
    · cases hp
  · split at hp
    · rename_i options hoptions
      exact Or.inr (Or.inr (Or.inr (Or.inr ⟨options, hoptions, List.mem_singleton.mp hp⟩)))
    · cases hp

/-- The names of the parameters are in lower case and printable. -/
theorem name_of_mem_params {d : Demand} {p : String × Param.Written} (hp : p ∈ d.params) :
    p.1 ≠ "" ∧ p.1.toList.all Param.isNameChar = true ∧ Visible p.1 := by
  have hnames : ∀ name ∈ ["realm", "nonce", "algorithm", "opaque", "qop"],
      name ≠ "" ∧ name.toList.all Param.isNameChar = true ∧ Visible name := by
    decide
  refine hnames p.1 ?_
  rcases mem_params hp with rfl | rfl | rfl | ⟨text, -, rfl⟩ | ⟨options, -, rfl⟩ <;> simp

theorem readable_of_mem_params {d : Demand} {p : String × Param.Written} (hp : p ∈ d.params) :
    Param.Readable p := by
  obtain ⟨hne, hname, -⟩ := name_of_mem_params hp
  refine ⟨hne, hname, ?_⟩
  rcases mem_params hp with rfl | rfl | rfl | ⟨text, -, rfl⟩ | ⟨options, -, rfl⟩
  · trivial
  · trivial
  · exact Digest.bareText_algorithm d.algorithm
  · trivial
  · trivial

/-- A client reads the parameters of a demand as they are meant. -/
theorem ofParams?_params {d : Demand} (h : d.Proper) :
    Digest.Challenge.ofParams? (d.params.map fun p => (p.1, p.2.text)) = some d.challenge := by
  have halgorithm := Digest.ofName?_name d.algorithm
  obtain ⟨realm, nonce, opaqueValue, algorithm, qop⟩ := d
  cases opaqueValue with
  | none =>
    cases qop with
    | none =>
      simp [Digest.Challenge.ofParams?, params, challenge, Param.lookup, Param.Written.text,
        halgorithm]
    | some options =>
      simp [Digest.Challenge.ofParams?, params, challenge, Param.lookup, Param.Written.text,
        halgorithm, (h.qop options rfl).2]
  | some text =>
    cases qop with
    | none =>
      simp [Digest.Challenge.ofParams?, params, challenge, Param.lookup, Param.Written.text,
        halgorithm]
    | some options =>
      simp [Digest.Challenge.ofParams?, params, challenge, Param.lookup, Param.Written.text,
        halgorithm, (h.qop options rfl).2]

theorem visible_of_mem_params {d : Demand} (h : d.Proper) {p : String × Param.Written}
    (hp : p ∈ d.params) : Visible p.2.text := by
  have halgorithm : ∀ a : Digest.Algorithm, Visible a.name := by
    intro a
    cases a <;> decide
  rcases mem_params hp with rfl | rfl | rfl | ⟨text, ho, rfl⟩ | ⟨options, hq, rfl⟩
  · exact h.realm
  · exact h.nonce
  · exact halgorithm d.algorithm
  · exact h.opaqueValue text ho
  · exact (h.qop options hq).1

theorem visible_text {d : Demand} (h : d.Proper) : Visible d.text := by
  have hscheme : ∀ c ∈ "Digest ".toList, isVisible c = true :=
    List.all_eq_true.mp (by decide)
  have hparams : ∀ c ∈ Param.writeAll d.params, isVisible c = true :=
    Param.forall_mem_writeAll (List.all_eq_true.mp (by decide))
      (fun p hp => (name_of_mem_params hp).2.2)
      fun p hp => visible_of_mem_params h hp
  unfold Visible Demand.text
  rw [String.toList_ofList]
  exact List.forall_mem_append.mpr ⟨hscheme, hparams⟩

theorem parse?_text {d : Demand} (h : d.Proper) :
    Digest.Challenge.parse? d.text = some d.challenge := by
  have hne : d.params ≠ [] := List.cons_ne_nil _ _
  unfold Demand.text
  rw [Digest.parse?_writeAll hne fun p hp => readable_of_mem_params hp]
  exact ofParams?_params h

/-- A client understands the refusal of a server. -/
theorem challenge?_text {d : Demand} (h : d.Proper) :
    challenge? (refusal d.text) = some d.challenge := by
  have hheaders : (refusal d.text).headers =
      Headers.append {} "www-authenticate" (Utf8.bytes d.text) := by
    rw [refusal, Headers.ofList, List.foldl_cons, List.foldl_nil]
  have hstatus : (refusal d.text).status = 401 := rfl
  rw [challenge?, if_pos hstatus, hheaders, Headers.getAll_append, if_pos rfl]
  simp [Headers.getAll, fieldText?_bytes (visible_text h), parse?_text h]

end Demand

/-! ## Checks -/

/-- The text of the `Authorization` field; several values count as one with commas between them. -/
def authorization? (headers : Headers) : Option String :=
  match headers.getAll "authorization" with
  | [] => none
  | values => Utf8.string? ([0x2C, 0x20].intercalate values)

/-- The number of a nonce count, which has eight hexadecimal digits. -/
def countOf? (text : String) : Option Nat :=
  if text.length = 8 then Bytes.hexNumber? text.toList else none

namespace Demand

/-- The proof of the password that a request has to carry, with the nonce count and the client
nonce as they were sent. -/
def proof (d : Demand) (username password method target count cnonce : String) : String :=
  let plain := d.algorithm.hash s!"{username}:{d.realm}:{password}"
  let secret :=
    if d.algorithm.isSession then d.algorithm.hash s!"{plain}:{d.nonce}:{cnonce}" else plain
  let request := d.algorithm.hash s!"{method}:{target}"
  if d.qop.isSome then
    d.algorithm.hash s!"{secret}:{d.nonce}:{count}:{cnonce}:auth:{request}"
  else d.algorithm.hash s!"{secret}:{d.nonce}:{request}"

/-- The parameters of an answer belong to the demand and to the request. -/
def concerns (d : Demand) (out : Outgoing) (params : List (String × String)) : Bool :=
  params.lookup "realm" == some d.realm && params.lookup "nonce" == some d.nonce &&
    params.lookup "uri" == some out.url.target && params.lookup "opaque" == d.opaqueValue &&
    (params.lookup "algorithm").elim (some .md5) Digest.Algorithm.ofName? == some d.algorithm

/-- Checks the parameters of an answer after a request with the nonce count `last` and gives the
nonce count after it. -/
def verify? (d : Demand) (password? : String → Option String) (last : Nat) (out : Outgoing)
    (params : List (String × String)) : Option Nat := do
  let username ← params.lookup "username"
  let password ← password? username
  let response ← params.lookup "response"
  if !d.concerns out params then none
  else if d.qop.isSome then
    let count ← params.lookup "nc"
    let number ← countOf? count
    let cnonce ← params.lookup "cnonce"
    if params.lookup "qop" = some "auth" ∧ last < number ∧
        response = d.proof username password out.method.name out.url.target count cnonce then
      some number
    else none
  else if response = d.proof username password out.method.name out.url.target "" "" then some last
  else none

/-- Checks a request; parameters that occur twice are not accepted. -/
def admits? (d : Demand) (password? : String → Option String) (last : Nat) (out : Outgoing) :
    Option Nat := do
  let text ← authorization? out.headers
  let (scheme, params) ← Grammar.credentials? text
  if sameIgnoringCase scheme "digest" ∧ (params.map (·.1)).Nodup then
    d.verify? password? last out params
  else none

section Admission

variable {d : Demand} {password? : String → Option String} {last : Nat} {out : Outgoing}

theorem admits?_of_none (h : authorization? out.headers = none) :
    d.admits? password? last out = none := by
  rw [admits?, h]
  rfl

/-- Credentials of another scheme are not accepted, whatever follows them. -/
theorem admits?_basic {rest : List Char}
    (h : authorization? out.headers = some (String.ofList ("Basic ".toList ++ rest))) :
    d.admits? password? last out = none := by
  have hbasic : ∀ c ∈ "Basic".toList, Grammar.isTokenChar c = true :=
    List.all_eq_true.mp (by decide)
  have htoken : Grammar.token? ("Basic".toList ++ ' ' :: rest) =
      some ("Basic".toList, ' ' :: rest) :=
    Grammar.token?_append (by decide) hbasic (Or.inr ⟨' ', rest, rfl, by decide⟩)
  have hscheme : sameIgnoringCase "Basic" "digest" = false := by
    decide
  have hsplit : "Basic ".toList ++ rest = "Basic".toList ++ ' ' :: rest := rfl
  have hread : Grammar.credentials? (String.ofList ("Basic ".toList ++ rest)) =
      (Grammar.params? rest).map fun found => ("Basic", found) := by
    rw [Grammar.credentials?, String.toList_ofList, hsplit, htoken]
    rfl
  rw [admits?, h, Option.bind_eq_bind, Option.bind_some, hread]
  cases Grammar.params? rest with
  | none => rfl
  | some params => simp [hscheme]

theorem admits?_eq_verify? {c : Digest.Challenge} {credentials : Credentials}
    {method uri cnonce : String} {count : UInt32}
    (h : authorization? out.headers = some (c.answer credentials method uri count cnonce))
    (hfit : Digest.Fit c credentials.username uri cnonce) :
    d.admits? password? last out =
      d.verify? password? last out
        (Digest.shown c credentials.username credentials.password method uri count cnonce) := by
  have hscheme : sameIgnoringCase "Digest" "digest" = true := by
    decide
  rw [admits?, h, Option.bind_eq_bind, Option.bind_some, Digest.credentials?_answer hfit]
  simp [hscheme, Digest.nodup_shown]

/-- The answer to a demand with another nonce is not accepted. -/
theorem verify?_of_other_nonce {c : Digest.Challenge} (hc : c.nonce ≠ d.nonce)
    (username password method uri : String) (count : UInt32) (cnonce : String) :
    d.verify? password? last out
      (Digest.shown c username password method uri count cnonce) = none := by
  have hconcerns : d.concerns out
      (Digest.shown c username password method uri count cnonce) = false := by
    simp [concerns, Digest.shown, Digest.Challenge.params, List.lookup_cons, Param.Written.text, hc]
  simp [verify?, hconcerns]

/-- The answer for another target is not accepted. -/
theorem verify?_of_other_target {c : Digest.Challenge} {uri : String} (hc : uri ≠ out.url.target)
    (username password method : String) (count : UInt32) (cnonce : String) :
    d.verify? password? last out
      (Digest.shown c username password method uri count cnonce) = none := by
  have hconcerns : d.concerns out
      (Digest.shown c username password method uri count cnonce) = false := by
    simp [concerns, Digest.shown, Digest.Challenge.params, List.lookup_cons, Param.Written.text, hc]
  simp [verify?, hconcerns]

/-- What a client computes is what the server expects. -/
theorem response_challenge (d : Demand) (hqop : d.qop.isSome = true)
    (username password method uri : String) (count : UInt32) (cnonce : String) :
    d.challenge.response username password method uri count cnonce =
      d.proof username password method uri (Digest.Challenge.countText count) cnonce := by
  have hoffers : d.challenge.offersAuth = true := hqop
  rw [Digest.Challenge.response, proof, if_pos hoffers, if_pos hqop]
  rfl

/-- Without a quality of protection neither count nor client nonce matters. -/
theorem response_challenge_of_plain (d : Demand) (hqop : d.qop.isSome = false)
    (hsession : d.algorithm.isSession = false) (username password method uri : String)
    (count : UInt32) (cnonce : String) :
    d.challenge.response username password method uri count cnonce =
      d.proof username password method uri "" "" := by
  have hoffers : ¬d.challenge.offersAuth = true := Bool.eq_false_iff.mp hqop
  have hplain : ¬d.challenge.algorithm.isSession = true := Bool.eq_false_iff.mp hsession
  rw [Digest.Challenge.response, proof, if_neg hoffers, if_neg (Bool.eq_false_iff.mp hqop),
    Digest.Challenge.secret, if_neg hplain, if_neg (Bool.eq_false_iff.mp hsession)]
  rfl

/-- The answer to the demand itself is accepted, if its nonce count is new. -/
theorem verify?_shown (hproper : d.Proper) {username password uri cnonce : String}
    {count : UInt32} (hpassword : password? username = some password) (hlast : last < count.toNat)
    (huri : uri = out.url.target) :
    d.verify? password? last out
      (Digest.shown d.challenge username password out.method.name uri count cnonce) =
        some (if d.qop.isSome then count.toNat else last) := by
  subst huri
  have halgorithm := Digest.ofName?_name d.algorithm
  have hcount : countOf? (Digest.Challenge.countText count) = some count.toNat := by
    rw [countOf?, if_pos (Digest.length_countText count), Digest.hexNumber?_countText]
  have hresponse := d.response_challenge
  have hplain := d.response_challenge_of_plain
  have hsession := hproper.session
  obtain ⟨realm, nonce, opaqueValue, algorithm, qop⟩ := d
  cases qop with
  | none =>
    have hnot : algorithm.isSession = false := by
      by_cases hs : algorithm.isSession = true
      · exact absurd (hsession hs) (by simp)
      · simpa using hs
    have hequal := hplain rfl hnot username password out.method.name out.url.target count cnonce
    simp only [challenge, Option.isSome_none] at hequal
    cases opaqueValue <;>
      simp [verify?, concerns, Digest.shown, Digest.Challenge.params, List.lookup_cons,
        Param.Written.text, challenge, hpassword, halgorithm, hequal]
  | some options =>
    have hequal := hresponse rfl username password out.method.name out.url.target count cnonce
    simp only [challenge, Option.isSome_some] at hequal
    cases opaqueValue <;>
      simp [verify?, concerns, Digest.shown, Digest.Challenge.params, List.lookup_cons,
        Param.Written.text, challenge, hpassword, halgorithm, hequal, hcount, hlast]

end Admission

end Demand

/-! ## The server as a network -/

/-- A request that reached a server, and what became of it. -/
structure Visit where
  request : Outgoing
  admitted : Bool
  reply : Reply

/-- What a server remembers. -/
structure Situation where
  demand : Demand
  /-- The nonce count of the request that was admitted last under the demand. -/
  last : Nat := 0
  /-- The nonces so far. -/
  issued : List String
  visits : List Visit := []
  /-- The number of client nonces so far. -/
  drawn : Nat := 0

/-- A server that asks for Digest authentication. -/
structure Server where
  origin : Origin
  /-- The passwords by username. -/
  password? : String → Option String
  /-- The reply to a request that was admitted, which may depend on all requests before. -/
  welcome : List Visit → Outgoing → Reply
  welcome_status : ∀ visits out, (welcome visits out).status ≠ 401

/-- One request is over. -/
def Situation.visit (s : Situation) (last : Nat) (v : Visit) : Situation :=
  { s with last, visits := s.visits ++ [v] }

/-- The server and the client's source of random bytes: requests are checked, and refused with the
demand. -/
def Server.network (srv : Server) (random : Nat → List UInt8) : Network Situation where
  exchange out s :=
    match s.demand.admits? srv.password? s.last out with
    | some count =>
      (.ok (srv.welcome s.visits out), s.visit count ⟨out, true, srv.welcome s.visits out⟩)
    | none =>
      (.ok (refusal s.demand.text), s.visit s.last ⟨out, false, refusal s.demand.text⟩)
  nonce s := (Digest.clientNonce (random s.drawn), { s with drawn := s.drawn + 1 })

end FormFetch.Transport
