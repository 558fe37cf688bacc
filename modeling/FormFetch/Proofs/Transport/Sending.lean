import FormFetch.Proofs.Auth.Basic
import FormFetch.Proofs.Transport.Server

/-!
# One sending to the reference server

What the server sees of a request, and what becomes of a single sending of a client.

* `getAll_authorization_outgoing` says what stands in the `Authorization` field.
* `send_nothing`, `send_basic` and `send_answer_of_other_nonce` are the sendings that are
  refused, `send_answer` is the one that is admitted.
-/

namespace FormFetch.Transport

open FormFetch.Http FormFetch.Auth
open FormFetch.Text (Utf8.bytes Utf8.string?)

/-! ## What the server sees -/

/-- What the client presents comes after the fields of the request's own, or else after the
username and password of its address. -/
theorem getAll_authorization_outgoing (r : Request) (url : Url) (value : Option (List UInt8)) :
    (outgoing r url value).headers.getAll "authorization" =
      (if r.headers.getAll "authorization" = [] then (userInfoAuthorization? url).toList
        else r.headers.getAll "authorization") ++ value.toList := by
  have hdefault : defaultHeaders.getAll "authorization" = [] := by
    decide
  have hbase : ∀ own : Headers, ((defaultHeaders.override own).override r.headers).getAll
      "authorization" =
        if r.headers.getAll "authorization" = [] then own.getAll "authorization"
        else r.headers.getAll "authorization" := by
    intro own
    rw [Headers.getAll_override, Headers.getAll_override, hdefault]
    split
    · split
      · rename_i hown
        rw [hown]
      · rfl
    · rfl
  have hvalue : (outgoing r url value).headers.getAll "authorization" =
      (outgoing r url none).headers.getAll "authorization" ++ value.toList := by
    cases value with
    | none => exact (List.append_nil _).symm
    | some value => exact Headers.getAll_append ..
  rw [hvalue]
  congr 1
  refine (hbase _).trans ?_
  cases userInfoAuthorization? url with
  | none => rfl
  | some own =>
    dsimp only
    rw [Headers.getAll_append, if_pos rfl]
    rfl

/-- An address without username and password adds nothing. -/
theorem userInfoAuthorization?_eq_none {url : Url} (hname : url.username = "")
    (hpassword : url.password = none) : userInfoAuthorization? url = none := by
  have hempty : Utf8.string? (Url.Percent.decode (Utf8.bytes "")) = some "" := by
    decide +kernel
  simp [userInfoAuthorization?, userInfo?, hname, hpassword, hempty]

/-- What an address adds is Basic. -/
theorem exists_of_userInfoAuthorization? {url : Url} {value : List UInt8}
    (h : userInfoAuthorization? url = some value) :
    ∃ name password, value = Utf8.bytes (Basic.authorization name password) := by
  obtain ⟨⟨name, password⟩, -, hvalue⟩ := Option.map_eq_some_iff.mp h
  exact ⟨name, password, hvalue.symm⟩

/-- The username and password of an address are no part of its target. -/
theorem target_outgoingUrl (url : Url) : (outgoingUrl url).target = url.target := by
  unfold outgoingUrl
  split
  · rfl
  · rfl

/-- One value counts as it is. -/
theorem authorization?_of_getAll {headers : Headers} {text : String}
    (h : headers.getAll "authorization" = [Utf8.bytes text]) :
    authorization? headers = some text := by
  rw [authorization?, h]
  have hjoin : ([0x2C, 0x20] : List UInt8).intercalate [Utf8.bytes text] = Utf8.bytes text := by
    simp [List.intercalate]
  dsimp only
  rw [hjoin]
  exact Text.Utf8.string?_bytes text

/-- Two values count as one. -/
theorem authorization?_of_two {headers : Headers} {first second : String}
    (h : headers.getAll "authorization" = [Utf8.bytes first, Utf8.bytes second]) :
    authorization? headers = some (first ++ ", " ++ second) := by
  have hjoin : ([0x2C, 0x20] : List UInt8).intercalate [Utf8.bytes first, Utf8.bytes second] =
      Utf8.bytes (first ++ ", " ++ second) := by
    rw [Text.Utf8.bytes, Text.Utf8.bytes, Text.Utf8.bytes, String.toList_append,
      String.toList_append, Text.Utf8.encode_append, Text.Utf8.encode_append]
    simp [List.intercalate]
    rfl
  rw [authorization?, h]
  dsimp only
  rw [hjoin]
  exact Text.Utf8.string?_bytes _

/-- A redirect on the same server takes the field along. -/
theorem getAll_authorization_moved {out : Outgoing} {target : Url}
    (h : sameServer out.url target = true) (status : Nat) :
    (out.moved status target).headers.getAll "authorization" =
      out.headers.getAll "authorization" := by
  have herase : (eraseAll out.headers bodyFields).getAll "authorization" =
      out.headers.getAll "authorization" := by
    simp only [eraseAll, bodyFields, List.foldl_cons, List.foldl_nil]
    rw [Headers.getAll_erase_of_ne _ (by decide), Headers.getAll_erase_of_ne _ (by decide),
      Headers.getAll_erase_of_ne _ (by decide), Headers.getAll_erase_of_ne _ (by decide)]
  have hbase : (if movesAsGet status then eraseAll out.headers bodyFields
      else out.headers).getAll "authorization" = out.headers.getAll "authorization" := by
    split
    · exact herase
    · rfl
  unfold Outgoing.moved
  dsimp only
  rw [if_pos h]
  cases referer? out.url target with
  | none => exact hbase
  | some text =>
    dsimp only
    rw [Headers.getAll_insert_of_ne _ _ (by decide)]
    exact hbase

/-! ## One sending -/

section Sending

variable {σ : Type} {net : Network σ} {r : Request} {url : Url} {p : Presented} {s s₁ s' : σ}
  {reply reply' : Reply}

theorem follow_of_stay {out : Outgoing} (h : net.exchange out s = (.ok reply, s'))
    (hstay : reply.location? out.url = none) (left : Nat) :
    follow net left out s = (.ok (out.url, reply), s') := by
  unfold follow
  rw [h]
  simp only [hstay]

theorem follow_of_moved {out : Outgoing} {target : Url}
    (h : net.exchange out s = (.ok reply, s₁))
    (hmoved : reply.location? out.url = some (.web target))
    (h' : net.exchange (out.moved reply.status target) s₁ = (.ok reply', s'))
    (hstay : reply'.location? target = none) (left : Nat) :
    follow net (left + 1) out s = (.ok (target, reply'), s') := by
  unfold follow
  rw [h]
  simp only [hmoved]
  exact follow_of_stay h' hstay left

/-- A text that fits into the field goes out, and the last reply comes back. -/
theorem send_of_follow {text : String} {last : Url} (htext : p.text? r url = some text)
    (hfit : fieldValue? text = some (Utf8.bytes text))
    (h : follow net redirectLimit (outgoing r url (some (Utf8.bytes text))) s =
      (.ok (last, reply), s')) :
    send net r url p s = (.ok reply, s') := by
  simp only [send, htext, hfit, h]

theorem send_of_text {text : String} (htext : p.text? r url = some text)
    (hfit : fieldValue? text = some (Utf8.bytes text))
    (h : net.exchange (outgoing r url (some (Utf8.bytes text))) s = (.ok reply, s'))
    (hstay : reply.location? (outgoing r url (some (Utf8.bytes text))).url = none) :
    send net r url p s = (.ok reply, s') :=
  send_of_follow htext hfit (follow_of_stay h hstay redirectLimit)

theorem send_of_nothing (htext : p.text? r url = none)
    (h : net.exchange (outgoing r url none) s = (.ok reply, s'))
    (hstay : reply.location? (outgoing r url none).url = none) :
    send net r url p s = (.ok reply, s') := by
  simp only [send, htext, follow_of_stay h hstay]

end Sending

/-! ## Requests with the right password -/

/-- The server sends nobody elsewhere after it has admitted a request. -/
def Server.Direct (srv : Server) : Prop :=
  ∀ visits out, (srv.welcome visits out).location? out.url = none

/-- The right password for a username without controls. -/
structure Entitled (srv : Server) (r : Request) : Prop where
  present : r.credentials.isPresent = true
  password : srv.password? r.credentials.username = some r.credentials.password
  username : ∀ c ∈ r.credentials.username.toList, isFieldChar c = true

/-- A request with the right password that names nobody else in its fields or in its address. -/
structure Rightful (srv : Server) (r : Request) (url : Url) : Prop extends Entitled srv r where
  fields : r.headers.getAll "authorization" = []
  name : url.username = ""
  noPassword : url.password = none

section Server

variable {srv : Server} (random : Nat → List UInt8) {r : Request} {url : Url} {s : Situation}

/-- What the server does with a refused request. -/
def Situation.refused (s : Situation) (out : Outgoing) : Situation :=
  s.visit s.last ⟨out, false, refusal s.demand.text⟩

/-- What the server does with a request that it admits. -/
def Server.admitted (srv : Server) (s : Situation) (last : Nat) (out : Outgoing) : Situation :=
  s.visit last ⟨out, true, srv.welcome s.visits out⟩

theorem exchange_of_refused {out : Outgoing}
    (h : s.demand.admits? srv.password? s.last out = none) :
    (srv.network random).exchange out s = (.ok (refusal s.demand.text), s.refused out) := by
  simp only [Server.network, h]
  rfl

theorem exchange_of_admitted {out : Outgoing} {last : Nat}
    (h : s.demand.admits? srv.password? s.last out = some last) :
    (srv.network random).exchange out s =
      (.ok (srv.welcome s.visits out), srv.admitted s last out) := by
  simp only [Server.network, h]
  rfl

theorem location?_refusal (challenge : String) (base : Url) :
    (refusal challenge).location? base = none := rfl

theorem Rightful.getAll_authorization (h : Rightful srv r url) (value : List UInt8) :
    (outgoing r url (some value)).headers.getAll "authorization" = [value] := by
  rw [getAll_authorization_outgoing, if_pos h.fields,
    userInfoAuthorization?_eq_none h.name h.noPassword]
  rfl

/-- An anonymous request is refused, also when its address has a username. -/
theorem send_nothing (hfields : r.headers.getAll "authorization" = []) :
    send (srv.network random) r url .nothing s =
      (.ok (refusal s.demand.text), s.refused (outgoing r url none)) := by
  have hget := getAll_authorization_outgoing r url none
  rw [if_pos hfields] at hget
  have hrefused : s.demand.admits? srv.password? s.last (outgoing r url none) = none := by
    cases huser : userInfoAuthorization? url with
    | none =>
      refine Demand.admits?_of_none ?_
      rw [huser] at hget
      rw [authorization?, hget]
      rfl
    | some value =>
      obtain ⟨name, password, hvalue⟩ := exists_of_userInfoAuthorization? huser
      rw [huser, hvalue] at hget
      exact Demand.admits?_basic (authorization?_of_getAll hget)
  exact send_of_nothing rfl (exchange_of_refused random hrefused) (location?_refusal _ _)

/-- Plain credentials are refused. -/
theorem send_basic (h : Rightful srv r url) :
    ∃ out, send (srv.network random) r url .basic s =
      (.ok (refusal s.demand.text), s.refused out) := by
  have hget := h.getAll_authorization
    (Utf8.bytes (Basic.authorization r.credentials.username r.credentials.password))
  have hrefused : s.demand.admits? srv.password? s.last (outgoing r url (some (Utf8.bytes
      (Basic.authorization r.credentials.username r.credentials.password)))) = none :=
    Demand.admits?_basic (authorization?_of_getAll hget)
  exact ⟨_, send_of_text rfl (Basic.fieldValue?_authorization _ _)
    (exchange_of_refused random hrefused) (location?_refusal _ _)⟩

/-! ## Answers -/

theorem isTextChar_of_visible {text : String} (h : Visible text) :
    ∀ c ∈ text.toList, Grammar.isTextChar c = true :=
  fun c hc => isFieldChar_of_isVisible (h c hc)

theorem visible_target (hv : r.validate = .ok url) : Visible url.target := by
  have hplain := Url.plain_target_of_parse? (Request.validate_eq_ok_iff.mp hv).1
  intro c hc
  have hc' := hplain c hc
  simp only [Url.Percent.inControls, Bool.or_eq_false_iff, decide_eq_false_iff_not] at hc'
  simp only [isVisible, Bool.and_eq_true, decide_eq_true_eq]
  omega

/-- The texts of an answer fit between quotes. -/
theorem Entitled.fit (h : Entitled srv r) (hv : r.validate = .ok url) {d : Demand}
    (hd : d.Proper) (bytes : List UInt8) :
    Digest.Fit d.challenge r.credentials.username url.target (Digest.clientNonce bytes) where
  username := h.username
  realm := isTextChar_of_visible hd.realm
  nonce := isTextChar_of_visible hd.nonce
  opaqueValue text ht := isTextChar_of_visible (hd.opaqueValue text ht)
  uri := isTextChar_of_visible (visible_target hv)
  cnonce := Digest.verbatim_hex bytes

/-- The answer to an earlier demand is refused. -/
theorem send_answer_of_other_nonce (h : Rightful srv r url) (hv : r.validate = .ok url)
    {d : Demand} (hd : d.Proper) (hne : d.nonce ≠ s.demand.nonce) (count : UInt32)
    (bytes : List UInt8) :
    ∃ out, send (srv.network random) r url
        (.digest d.challenge count (Digest.clientNonce bytes)) s =
      (.ok (refusal s.demand.text), s.refused out) := by
  have hfit := h.fit hv hd bytes
  have hget := h.getAll_authorization (Utf8.bytes (d.challenge.answer r.credentials
    r.method.name url.target count (Digest.clientNonce bytes)))
  have hrefused : s.demand.admits? srv.password? s.last (outgoing r url (some (Utf8.bytes
      (d.challenge.answer r.credentials r.method.name url.target count
        (Digest.clientNonce bytes))))) = none := by
    rw [Demand.admits?_eq_verify? (authorization?_of_getAll hget) hfit]
    exact Demand.verify?_of_other_nonce hne ..
  exact ⟨_, send_of_text rfl (Digest.fieldValue?_answer hfit) (exchange_of_refused random hrefused)
    (location?_refusal _ _)⟩

/-- The server admits the answer to its demand, if the nonce count of the answer is new. -/
theorem admits?_answer (h : Rightful srv r url) (hv : r.validate = .ok url)
    (hd : s.demand.Proper) {count : UInt32} (hcount : s.last < count.toNat)
    (bytes : List UInt8) :
    s.demand.admits? srv.password? s.last (outgoing r url (some (Utf8.bytes
        (s.demand.challenge.answer r.credentials r.method.name url.target count
          (Digest.clientNonce bytes))))) =
      some (if s.demand.qop.isSome then count.toNat else s.last) := by
  have hget := h.getAll_authorization (Utf8.bytes (s.demand.challenge.answer r.credentials
    r.method.name url.target count (Digest.clientNonce bytes)))
  rw [Demand.admits?_eq_verify? (authorization?_of_getAll hget) (h.fit hv hd bytes)]
  exact Demand.verify?_shown hd h.password hcount (target_outgoingUrl url).symm

/-- The answer to the demand of the server goes out, and what the server then says comes back. -/
theorem send_answer (h : Rightful srv r url) (hv : r.validate = .ok url) (hdirect : srv.Direct)
    (hd : s.demand.Proper) {count : UInt32} (hcount : s.last < count.toNat)
    (bytes : List UInt8) :
    ∃ value, send (srv.network random) r url
        (.digest s.demand.challenge count (Digest.clientNonce bytes)) s =
      (.ok (srv.welcome s.visits (outgoing r url (some value))),
        srv.admitted s (if s.demand.qop.isSome then count.toNat else s.last)
          (outgoing r url (some value))) :=
  ⟨_, send_of_text rfl (Digest.fieldValue?_answer (h.fit hv hd bytes))
    (exchange_of_admitted random (admits?_answer h hv hd hcount bytes)) (hdirect _ _)⟩

end Server

end FormFetch.Transport
