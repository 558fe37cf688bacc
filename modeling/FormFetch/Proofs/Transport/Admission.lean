import FormFetch.Proofs.Transport.Sending

/-!
# Every request is admitted

A client against the reference server: whatever the server asks for and however often it
changes its nonce, a request with the right password is admitted at its first or second
sending.

* `Through` is what one request leads to, `Tracks` the invariant that ties the client's
  memory to the server's (`Tracks.through`, `Tracks.execute`, `Tracks.renew`).
* `served_of_run` is the result for all runs.
* `not_served_without_condition` shows three requests that are not served: with
  a username in the address, with a field of its own, and after a redirect.
-/

namespace FormFetch.Transport

open FormFetch.Http FormFetch.Auth
open FormFetch.Text (Utf8.bytes)

section Server

variable {srv : Server} (random : Nat → List UInt8) {r : Request} {url : Url} {s : Situation}

/-! ## One request -/

/-- A request came through: the server has admitted it after one refusal at most, the client has
the reply to that, and it knows the demand and a nonce count that is not used yet. -/
structure Through (r : Request) (url : Url) (s : Situation) (count : UInt32)
    (x : Exchange × Memory × Situation) : Prop where
  visits : ∃ refused value reply,
    x.2.2.visits = s.visits ++ refused ++ [⟨outgoing r url (some value), true, reply⟩] ∧
      refused.length ≤ 1 ∧ (∀ v ∈ refused, v.admitted = false) ∧ x.1.outcome = .ok reply
  demand : x.2.2.demand = s.demand
  issued : x.2.2.issued = s.issued
  memory : x.2.1.find? url.origin = some ⟨s.demand.challenge, count⟩
  last : x.2.2.last ≤ count.toNat

/-- A request whose first sending answers the demand comes through at once. -/
theorem through_of_known (h : Rightful srv r url) (hv : r.validate = .ok url)
    (hdirect : srv.Direct) (hd : s.demand.Proper) {m : Memory} {count : UInt32}
    (hm : m.find? url.origin = some ⟨s.demand.challenge, count⟩)
    (hcount : s.last < (nextCount count).toNat) :
    Through r url s (nextCount count) (exchange (srv.network random) r url m s) := by
  obtain ⟨value, hsend⟩ := send_answer random (s := { s with drawn := s.drawn + 1 }) h hv hdirect
    hd hcount (random s.drawn)
  have hstatus := srv.welcome_status s.visits (outgoing r url (some value))
  rw [exchange_of_unchallenged (present_of_known _ r url m s h.present hm) hsend (if_neg hstatus)]
  refine ⟨⟨[], value, srv.welcome s.visits (outgoing r url (some value)), ?_, ?_, ?_, rfl⟩,
    rfl, rfl, ?_, ?_⟩
  · simp [Server.admitted, Situation.visit]
  · simp
  · simp
  · rw [Memory.find?_put_self]
  · show (if s.demand.qop.isSome = true then (nextCount count).toNat else s.last) ≤ _
    split
    · exact Nat.le_refl _
    · exact Nat.le_of_lt hcount

/-- A request whose first sending is refused comes through with the answer to the refusal, if the
server has not yet counted under its demand. -/
theorem through_of_refusal (h : Rightful srv r url) (hv : r.validate = .ok url)
    (hdirect : srv.Direct) (hd : s.demand.Proper) {m m₁ : Memory} {p : Presented} {drawn : Nat}
    {out : Outgoing}
    (hp : present (srv.network random) r url m s = (p, m₁, { s with drawn }))
    (hsend : send (srv.network random) r url p { s with drawn } =
      (.ok (refusal s.demand.text), Situation.refused { s with drawn } out))
    (hlast : s.last = 0) :
    Through r url s 1 (exchange (srv.network random) r url m s) := by
  have hchallenge : (Sending.mk p (.ok (refusal s.demand.text))).challenge? =
      some s.demand.challenge := Demand.challenge?_text hd
  have hcount : s.last < (1 : UInt32).toNat := by
    rw [hlast]
    decide
  obtain ⟨value, hsecond⟩ :=
    send_answer random (s := { Situation.refused { s with drawn } out with drawn := drawn + 1 })
      h hv hdirect hd hcount (random drawn)
  rw [exchange_of_challenged h.present hp hsend hchallenge hsecond]
  refine ⟨⟨[⟨out, false, refusal s.demand.text⟩], value,
    srv.welcome (Situation.refused { s with drawn } out).visits (outgoing r url (some value)),
    ?_, ?_, ?_, rfl⟩, rfl, rfl, ?_, ?_⟩
  · simp [Server.admitted, Situation.refused, Situation.visit]
  · simp
  · simp
  · rw [Memory.find?_put_self]
  · show (if s.demand.qop.isSome = true then (1 : UInt32).toNat else s.last) ≤ _
    split
    · exact Nat.le_refl _
    · exact Nat.le_of_lt hcount

/-! ## What client and server know of one another -/

/-- The invariant after `n` requests: what the client remembers is the demand of the server, with
a count that the server has not gone beyond, or an earlier demand.  As long as it is not the demand
of the server, the server has not counted. -/
structure Tracks (srv : Server) (m : Memory) (s : Situation) (n : Nat) : Prop where
  proper : s.demand.Proper
  issued : s.demand.nonce ∈ s.issued
  unknown : m.find? srv.origin = none → s.last = 0
  bound : ∀ known, m.find? srv.origin = some known → known.count.toNat ≤ n
  known : ∀ known, m.find? srv.origin = some known →
    known.challenge = s.demand.challenge ∧ s.last ≤ known.count.toNat ∨
      s.last = 0 ∧ ∃ d : Demand, d.Proper ∧ known.challenge = d.challenge ∧
        d.nonce ∈ s.issued ∧ d.nonce ≠ s.demand.nonce

/-- Under the invariant every request comes through. -/
theorem Tracks.through {n : Nat} {m : Memory} (ht : Tracks srv m s n) (hn : n < 4294967295)
    (hdirect : srv.Direct) (hv : r.validate = .ok url) (ho : url.origin = srv.origin)
    (h : Rightful srv r url) :
    ∃ count : UInt32, count.toNat ≤ n + 1 ∧
      Through r url s count (exchange (srv.network random) r url m s) := by
  have hone : (1 : UInt32).toNat ≤ n + 1 := by
    rw [UInt32.toNat_one]
    omega
  cases hm : m.find? url.origin with
  | none =>
    obtain ⟨out, hsend⟩ := send_basic random (s := s) h
    exact ⟨1, hone, through_of_refusal random h hv hdirect ht.proper
      (present_of_unknown (srv.network random) r url m s h.present hm) hsend
      (ht.unknown (ho ▸ hm))⟩
  | some known =>
    have hbound := ht.bound known (ho ▸ hm)
    rcases ht.known known (ho ▸ hm) with ⟨hc, hlast⟩ | ⟨hlast, d, hd, hc, -, hne⟩
    · obtain ⟨challenge, count⟩ := known
      obtain rfl : challenge = s.demand.challenge := hc
      dsimp only at hbound hlast
      have hnext : (nextCount count).toNat = count.toNat + 1 := toNat_nextCount (by omega)
      exact ⟨nextCount count, by omega,
        through_of_known random h hv hdirect ht.proper hm (by omega)⟩
    · obtain ⟨challenge, count⟩ := known
      obtain rfl : challenge = d.challenge := hc
      obtain ⟨out, hsend⟩ := send_answer_of_other_nonce random
        (s := { s with drawn := s.drawn + 1 }) h hv hd hne (nextCount count) (random s.drawn)
      exact ⟨1, hone, through_of_refusal random h hv hdirect ht.proper
        (present_of_known (srv.network random) r url m s h.present hm) hsend hlast⟩

/-- A request that came through leaves the client with the demand of the server. -/
theorem Tracks.of_through {n : Nat} {m : Memory} (ht : Tracks srv m s n)
    (ho : url.origin = srv.origin) {count : UInt32} (hcount : count.toNat ≤ n + 1)
    {x : Exchange × Memory × Situation} (hx : Through r url s count x) :
    Tracks srv x.2.1 x.2.2 (n + 1) := by
  have hm : x.2.1.find? srv.origin = some ⟨s.demand.challenge, count⟩ := ho ▸ hx.memory
  refine ⟨?proper, ?issued, ?unknown, ?bound, ?known⟩
  case proper =>
    rw [hx.demand]
    exact ht.proper
  case issued =>
    rw [hx.demand, hx.issued]
    exact ht.issued
  case unknown =>
    intro hnone
    rw [hm] at hnone
    cases hnone
  case bound =>
    intro known hk
    obtain rfl := Option.some.inj (hm.symm.trans hk)
    exact hcount
  case known =>
    intro known hk
    obtain rfl := Option.some.inj (hm.symm.trans hk)
    exact Or.inl ⟨by rw [hx.demand], hx.last⟩

/-- An anonymous request changes nothing but the list of visits. -/
theorem Tracks.of_anonymous {n : Nat} {m : Memory} (ht : Tracks srv m s n)
    (hr : r.credentials.isPresent = false) (hfields : r.headers.getAll "authorization" = []) :
    Tracks srv (exchange (srv.network random) r url m s).2.1
      (exchange (srv.network random) r url m s).2.2 (n + 1) := by
  rw [exchange_of_anonymous hr (send_nothing random hfields)]
  exact ⟨ht.proper, ht.issued, ht.unknown,
    fun known hk => Nat.le_succ_of_le (ht.bound known hk), ht.known⟩

end Server

/-! ## Runs -/

/-- A request as the server expects it from its clients: to itself, without a field of its own, and
anonymous or with the right password. -/
structure Admissible (srv : Server) (r : Request) : Prop where
  origin : ∀ url, r.validate = .ok url → url.origin = srv.origin
  fields : r.headers.getAll "authorization" = []
  rightful : ∀ url, r.validate = .ok url → r.credentials.isPresent = true → Rightful srv r url

/-- A client and the server after some requests, their number at the end.  Between two requests the
server may go over to a demand with a nonce that it has not used. -/
inductive Run (srv : Server) (random : Nat → List UInt8) : Memory → Situation → Nat → Prop where
  | start {d : Demand} (hd : d.Proper) :
      Run srv random {} { demand := d, issued := [d.nonce] } 0
  | renew {m : Memory} {s : Situation} {n : Nat} (h : Run srv random m s n) {d : Demand}
      (hd : d.Proper) (hnew : d.nonce ∉ s.issued) :
      Run srv random m { s with demand := d, last := 0, issued := d.nonce :: s.issued } n
  | execute {m : Memory} {s : Situation} {n : Nat} (h : Run srv random m s n) {r : Request}
      (hr : Admissible srv r) :
      Run srv random (execute (srv.network random) r m s).2.1
        (execute (srv.network random) r m s).2.2 (n + 1)

section Runs

variable {srv : Server} {random : Nat → List UInt8} {m : Memory} {s : Situation} {n : Nat}

/-- A new demand makes an earlier one of what the client remembers. -/
theorem Tracks.renew (ht : Tracks srv m s n) {d : Demand} (hd : d.Proper)
    (hnew : d.nonce ∉ s.issued) :
    Tracks srv m { s with demand := d, last := 0, issued := d.nonce :: s.issued } n := by
  refine ⟨hd, List.mem_cons_self .., fun _ => rfl, ht.bound, fun known hk => Or.inr ⟨rfl, ?_⟩⟩
  have hne : ∀ nonce ∈ s.issued, nonce ≠ d.nonce := fun nonce hmem heq => hnew (heq ▸ hmem)
  rcases ht.known known hk with ⟨hc, -⟩ | ⟨-, d', hd', hc, hmem, -⟩
  · exact ⟨s.demand, ht.proper, hc, List.mem_cons_of_mem _ ht.issued, hne _ ht.issued⟩
  · exact ⟨d', hd', hc, List.mem_cons_of_mem _ hmem, hne _ hmem⟩

/-- One request keeps the invariant. -/
theorem Tracks.execute (ht : Tracks srv m s n) (hn : n < 4294967295) (hdirect : srv.Direct)
    {r : Request} (hr : Admissible srv r) :
    Tracks srv (execute (srv.network random) r m s).2.1
      (Transport.execute (srv.network random) r m s).2.2 (n + 1) := by
  cases hv : r.validate with
  | error failure =>
    rw [execute_of_invalid _ hv]
    exact ⟨ht.proper, ht.issued, ht.unknown,
      fun known hk => Nat.le_succ_of_le (ht.bound known hk), ht.known⟩
  | ok url =>
    rw [execute_of_valid _ hv]
    by_cases hp : r.credentials.isPresent = true
    · obtain ⟨count, hcount, hx⟩ := ht.through random hn hdirect hv
        (hr.origin url hv) (hr.rightful url hv hp)
      exact ht.of_through (hr.origin url hv) hcount hx
    · exact ht.of_anonymous random (by simpa using hp) hr.fields

/-- The invariant holds in every run. -/
theorem tracks_of_run (hdirect : srv.Direct) (h : Run srv random m s n) (hn : n ≤ 4294967295) :
    Tracks srv m s n := by
  induction h with
  | @start d hd =>
    exact ⟨hd, List.mem_singleton_self _, fun _ => rfl, by simp [Memory.find?],
      by simp [Memory.find?]⟩
  | renew _ hd hnew ih => exact (ih hn).renew hd hnew
  | execute _ hr ih => exact (ih (by omega)).execute (by omega) hdirect hr

/-- A request came through: the client has sent it once or twice, and its response is the reply to
the sending that the server has admitted, the last one. -/
def Served (srv : Server) (random : Nat → List UInt8) (m : Memory) (s : Situation) (r : Request)
    (url : Url) : Prop :=
  ∃ refused value reply,
    (execute (srv.network random) r m s).2.2.visits =
        s.visits ++ refused ++ [⟨outgoing r url (some value), true, reply⟩] ∧
      refused.length ≤ 1 ∧ (∀ v ∈ refused, v.admitted = false) ∧
      (execute (srv.network random) r m s).1 = .ok (reply.toResponse r.url)

/-- Against a server that does not redirect, every request with the right password comes through,
in every run and after every change of the demand. -/
theorem served_of_run (hdirect : srv.Direct) (h : Run srv random m s n) (hn : n < 4294967295)
    {r : Request} {url : Url} (hv : r.validate = .ok url) (ho : url.origin = srv.origin)
    (hr : Rightful srv r url) : Served srv random m s r url := by
  obtain ⟨count, -, hx⟩ :=
    (tracks_of_run hdirect h (by omega)).through random hn hdirect hv ho hr
  obtain ⟨refused, value, reply, hvisits, hlength, hrefused, houtcome⟩ := hx.visits
  refine ⟨refused, value, reply, ?_, hlength, hrefused, ?_⟩
  · rw [execute_of_valid _ hv]
    exact hvisits
  · rw [execute_of_valid _ hv]
    dsimp only
    rw [houtcome]
    rfl

end Runs

/-! ## A server for one user -/

/-- A server that knows alice and has one reply for everything that it admits. -/
def greeting (reply : Reply) (h : reply.status ≠ 401) : Server where
  origin := listUrl.origin
  password? name := if name = "alice" then some "s3cret" else none
  welcome _ _ := reply
  welcome_status _ _ := h

/-- A demand that needs care between quotes. -/
def formsDemand : Demand :=
  ⟨"forms, \"new\"", "n\\1", some "o", .md5, some "auth, auth-int"⟩

theorem proper_formsDemand : formsDemand.Proper := by
  refine ⟨?_, ?_, ?_, ?_, fun _ => rfl⟩
  · decide
  · decide
  · intro text htext
    obtain rfl := Option.some.inj htext
    decide
  · intro options hoptions
    obtain rfl := Option.some.inj hoptions
    exact ⟨by decide, by decide⟩

/-- The server before the first request. -/
def opening : Situation where
  demand := formsDemand
  issued := [formsDemand.nonce]

theorem entitled_alice {reply : Reply} (h : reply.status ≠ 401) {r : Request}
    (hr : r.credentials = ⟨"http://forms.example", "alice", "s3cret"⟩) :
    Entitled (greeting reply h) r := by
  refine ⟨?_, ?_, ?_⟩
  · rw [hr]
    decide
  · rw [hr]
    rfl
  · rw [hr]
    exact List.all_eq_true.mp (by decide)

theorem rightful_listRequest {reply : Reply} (h : reply.status ≠ 401) :
    Rightful (greeting reply h) (listRequest "alice" "s3cret") listUrl where
  toEntitled := entitled_alice h rfl
  fields := rfl
  name := rfl
  noPassword := rfl

/-- The first request of alice. -/
theorem served_listRequest :
    Served (greeting ⟨200, {}, []⟩ (by decide)) (fun _ => []) {} opening
      (listRequest "alice" "s3cret") listUrl :=
  served_of_run (fun _ _ => rfl) (.start proper_formsDemand) (by decide)
    (validate_listRequest "alice" "s3cret") rfl (rightful_listRequest (by decide))

/-! ## Requests that are not served -/

section Refusals

variable {srv : Server} {random : Nat → List UInt8} {m : Memory} {s : Situation} {r : Request}
  {url : Url}

/-- Two refusals, and the request has not come through. -/
theorem not_served_of_refused (h : Entitled srv r) (hv : r.validate = .ok url)
    (hd : s.demand.Proper) (hm : m.find? url.origin = none) {out : Outgoing}
    (hfirst : send (srv.network random) r url .basic s =
      (.ok (refusal s.demand.text), s.refused out))
    (hsecond : ∃ t out', send (srv.network random) r url
      (.digest s.demand.challenge 1 (Digest.clientNonce (random s.drawn)))
        { s.refused out with drawn := s.drawn + 1 } =
      (.ok (refusal s.demand.text), Situation.refused t out')) :
    ¬Served srv random m s r url := by
  obtain ⟨t, out', hsecond⟩ := hsecond
  have he := exchange_of_challenged h.present
    (present_of_unknown (srv.network random) r url m s h.present hm) hfirst
    (Demand.challenge?_text hd) hsecond
  rintro ⟨refused, value, reply, hserved, -⟩
  rw [execute_of_valid _ hv, he] at hserved
  have hlast := congrArg List.getLast? hserved
  rw [List.getLast?_concat] at hlast
  have hrefused : (t.refused out').visits.getLast? = some ⟨out', false, refusal t.demand.text⟩ :=
    List.getLast?_concat
  rw [hrefused] at hlast
  cases hlast

/-- Where Basic credentials come first in the field, no answer is read. -/
theorem not_served_of_basic_first (h : Entitled srv r) (hv : r.validate = .ok url)
    (hd : s.demand.Proper) (hm : m.find? url.origin = none) {basic : List Char}
    (hget : ∀ value, (outgoing r url (some value)).headers.getAll "authorization" =
      [Utf8.bytes (String.ofList ("Basic ".toList ++ basic)), value]) :
    ¬Served srv random m s r url := by
  have hnone : ∀ (d : Demand) (last : Nat) (text : String),
      d.admits? srv.password? last (outgoing r url (some (Utf8.bytes text))) = none := by
    intro d last text
    have hjoin : String.ofList ("Basic ".toList ++ basic) ++ ", " ++ text =
        String.ofList ("Basic ".toList ++ (basic ++ ", ".toList ++ text.toList)) := by
      apply String.toList_inj.mp
      simp
    have hread : authorization? (outgoing r url (some (Utf8.bytes text))).headers =
        some (String.ofList ("Basic ".toList ++ (basic ++ ", ".toList ++ text.toList))) := by
      rw [authorization?_of_two (hget _), hjoin]
    exact Demand.admits?_basic hread
  have hfirst := send_of_text (s := s) (p := .basic) rfl (Basic.fieldValue?_authorization _ _)
    (exchange_of_refused random (hnone _ _ _)) (location?_refusal _ _)
  -- The answer to the refusal is right, but it stands behind the other credentials.
  exact not_served_of_refused h hv hd hm hfirst
    ⟨_, _, send_of_text rfl (Digest.fieldValue?_answer (h.fit hv hd (random s.drawn)))
      (exchange_of_refused random (hnone _ _ _)) (location?_refusal _ _)⟩

/-- Where a redirect leads to another target, the answer that goes along is refused there. -/
theorem not_served_of_moved (h : Rightful srv r url) (hv : r.validate = .ok url)
    (hd : s.demand.Proper) (hlast : s.last = 0) (hm : m.find? url.origin = none) {target : Url}
    (hmoved : ∀ visits out, (srv.welcome visits out).location? (outgoingUrl url) =
      some (.web target))
    (hsame : sameServer (outgoingUrl url) target = true)
    (htarget : url.target ≠ target.target) : ¬Served srv random m s r url := by
  have hfit := h.fit hv hd (random s.drawn)
  have hcount : s.last < (1 : UInt32).toNat := by
    rw [hlast]
    decide
  obtain ⟨text, htext⟩ : ∃ text, s.demand.challenge.answer r.credentials r.method.name url.target
      1 (Digest.clientNonce (random s.drawn)) = text := ⟨_, rfl⟩
  have hget := h.getAll_authorization (Utf8.bytes text)
  have hadmitted := admits?_answer h hv hd hcount (random s.drawn)
  rw [htext] at hadmitted
  -- The answer was computed for the target of the request.
  have hrefused : ∀ (status last : Nat), s.demand.admits? srv.password? last
      ((outgoing r url (some (Utf8.bytes text))).moved status target) = none := by
    intro status last
    have hread := authorization?_of_getAll ((getAll_authorization_moved hsame status).trans hget)
    rw [← htext] at hread
    rw [← htext, Demand.admits?_eq_verify? hread hfit]
    exact Demand.verify?_of_other_target htarget ..
  have hfield : fieldValue? text = some (Utf8.bytes text) := by
    rw [← htext]
    exact Digest.fieldValue?_answer hfit
  obtain ⟨out, hfirst⟩ := send_basic random (s := s) h
  exact not_served_of_refused h.toEntitled hv hd hm hfirst
    ⟨_, _, send_of_follow (congrArg some htext) hfield
      (follow_of_moved
        (exchange_of_admitted random (s := { s.refused out with drawn := s.drawn + 1 }) hadmitted)
        (hmoved _ _) (exchange_of_refused random (hrefused _ _)) (location?_refusal _ _) 9)⟩

end Refusals

/-- The request of alice to an address that names bob. -/
def bobsRequest : Request :=
  { listRequest "alice" "s3cret" with url := "http://bob@forms.example/formList" }

/-- The address of `bobsRequest`. -/
def bobsUrl : Url :=
  { listUrl with username := "bob" }

/-- The request of alice with a field of its own. -/
def ownRequest : Request :=
  { listRequest "alice" "s3cret" with
    headers := Headers.append {} "authorization" (Utf8.bytes "Basic eA==") }

/-- A redirect on the same server. -/
def movedReply : Reply :=
  ⟨302, .ofList [("location", Utf8.bytes "/moved")], []⟩

theorem validate_bobsRequest : bobsRequest.validate = .ok bobsUrl := by
  have hparse : Url.parse? (Text.trimmed "http://bob@forms.example/formList") = some bobsUrl := by
    decide +kernel
  exact Request.validate_eq_ok_iff.mpr ⟨hparse, by decide⟩

theorem validate_ownRequest : ownRequest.validate = .ok listUrl := by
  have hvalid := validate_listRequest "alice" "s3cret"
  rw [Request.validate_eq_ok_iff] at hvalid ⊢
  exact hvalid

/-- None of the conditions can be left out: the right password is not enough for an address with
a username, for a request with a field of its own, and for a server that redirects. -/
theorem not_served_without_condition :
    (Entitled (greeting ⟨200, {}, []⟩ (by decide)) bobsRequest ∧
      bobsRequest.headers.getAll "authorization" = [] ∧
      ¬Served (greeting ⟨200, {}, []⟩ (by decide)) (fun _ => []) {} opening bobsRequest bobsUrl) ∧
    (Entitled (greeting ⟨200, {}, []⟩ (by decide)) ownRequest ∧
      listUrl.username = "" ∧ listUrl.password = none ∧
      ¬Served (greeting ⟨200, {}, []⟩ (by decide)) (fun _ => []) {} opening ownRequest listUrl) ∧
    Rightful (greeting movedReply (by decide)) (listRequest "alice" "s3cret") listUrl ∧
      ¬Served (greeting movedReply (by decide)) (fun _ => []) {} opening
        (listRequest "alice" "s3cret") listUrl := by
  have hbob : userInfoAuthorization? bobsUrl =
      some (Utf8.bytes (String.ofList ("Basic ".toList ++ "Ym9iOg==".toList))) := by
    decide +kernel
  have hown : ownRequest.headers.getAll "authorization" =
      [Utf8.bytes (String.ofList ("Basic ".toList ++ "eA==".toList))] := by
    decide +kernel
  have hbobs : ∀ value, (outgoing bobsRequest bobsUrl (some value)).headers.getAll
      "authorization" =
        [Utf8.bytes (String.ofList ("Basic ".toList ++ "Ym9iOg==".toList)), value] := by
    intro value
    have hempty : bobsRequest.headers.getAll "authorization" = [] := rfl
    rw [getAll_authorization_outgoing, if_pos hempty, hbob]
    rfl
  have howns : ∀ value, (outgoing ownRequest listUrl (some value)).headers.getAll
      "authorization" =
        [Utf8.bytes (String.ofList ("Basic ".toList ++ "eA==".toList)), value] := by
    intro value
    rw [getAll_authorization_outgoing, hown, if_neg (List.cons_ne_nil _ _)]
    rfl
  have hmoved : movedReply.location? (outgoingUrl listUrl) =
      some (.web { listUrl with segments := ["moved"] }) := by
    decide +kernel
  refine ⟨⟨entitled_alice (by decide) rfl, rfl, ?_⟩, ⟨entitled_alice (by decide) rfl, rfl, rfl, ?_⟩,
    rightful_listRequest (by decide), ?_⟩
  · exact not_served_of_basic_first (entitled_alice (by decide) rfl) validate_bobsRequest
      proper_formsDemand rfl hbobs
  · exact not_served_of_basic_first (entitled_alice (by decide) rfl) validate_ownRequest
      proper_formsDemand rfl howns
  · exact not_served_of_moved (rightful_listRequest (by decide))
      (validate_listRequest "alice" "s3cret") proper_formsDemand rfl rfl (fun _ _ => hmoved)
      (by decide +kernel) (by decide)

end FormFetch.Transport
