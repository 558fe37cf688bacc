import FormFetch.Proofs.Auth.Digest
import FormFetch.Proofs.Transport.Interleaving
import FormFetch.Proofs.Transport.Isolation
import FormFetch.Proofs.Transport.Trail

/-!
# The effect of an execution

What one execution sends, what it gives back and what it changes in the memory, whatever is
known before and whatever the servers reply.

* `FirstChallenge` says which challenge of a refusal is answered (`challenge?_eq_some_iff`).
* `Memory.Revised` is the change of the memory: one entry, and nothing is forgotten
  (`revised_exchange`).
* `Effect` lists the four ways of an execution with a valid request (`exchange_effect`), and
  `Effect.length_eq_two_iff` says when there is a second request.
* `execute_effect` puts them together.
-/

namespace FormFetch.Transport

open FormFetch.Http FormFetch.Auth FormFetch.Text

/-! ## The challenge that is answered -/

/-- The first value of the `WWW-Authenticate` fields that holds a challenge which the client can
answer, and this challenge.  Values that are no text, have another scheme or ask for something else
are passed over. -/
def FirstChallenge (reply : Reply) (c : Digest.Challenge) : Prop :=
  ∃ before value after,
    reply.headers.getAll "www-authenticate" = before ++ value :: after ∧
    (∀ other ∈ before, (fieldText? other).bind Digest.Challenge.parse? = none) ∧
    (fieldText? value).bind Digest.Challenge.parse? = some c

theorem challenge?_eq_some_iff {reply : Reply} {c : Digest.Challenge} :
    challenge? reply = some c ↔ reply.status = 401 ∧ FirstChallenge reply c := by
  unfold challenge? FirstChallenge
  by_cases hstatus : reply.status = 401
  · rw [if_pos hstatus, ← List.head?_filterMap, List.filterMap_filterMap, List.head?_filterMap,
      List.findSome?_eq_some_iff]
    constructor
    · rintro ⟨before, value, after, hsplit, hvalue, hbefore⟩
      exact ⟨hstatus, before, value, after, hsplit, hbefore, hvalue⟩
    · rintro ⟨-, before, value, after, hsplit, hbefore, hvalue⟩
      exact ⟨before, value, after, hsplit, hvalue, hbefore⟩
  · simp [hstatus]

/-! ## The memory -/

/-- What is remembered after one more answer to the same challenge; the count stays at the
greatest number. -/
def Remembered.again (known : Remembered) : Remembered :=
  { known with count := UInt32.ofNat (min (known.count.toNat + 1) 4294967295) }

theorem nextCount_eq (count : UInt32) :
    nextCount count = UInt32.ofNat (min (count.toNat + 1) 4294967295) := by
  apply UInt32.toNat_inj.mp
  have hlt := count.toNat_lt
  have hsize : min (count.toNat + 1) 4294967295 < UInt32.size :=
    Nat.lt_of_le_of_lt (Nat.min_le_right ..) (by decide)
  rw [UInt32.toNat_ofNat_of_lt' hsize]
  by_cases hmax : count = 0xFFFFFFFF
  · rw [nextCount, if_pos hmax, hmax]
    rfl
  · have hne : count.toNat ≠ 4294967295 := fun h => hmax (UInt32.toNat_inj.mp h)
    rw [toNat_nextCount (by omega)]
    omega

/-- A memory after an execution: nothing is forgotten, and only the entry of the server of the
request is another one.  The challenge that was met is there with its first answer; if there was
none, the known challenge has one more answer, as long as there are credentials to present. -/
structure Memory.Revised (m : Memory) (r : Request) (url : Url)
    (met : Option Digest.Challenge) (after : Memory) : Prop where
  kept : ∀ origin, (m.find? origin).isSome → (after.find? origin).isSome
  others : ∀ origin, origin ≠ url.origin → after.find? origin = m.find? origin
  own : after.find? url.origin =
    match met with
    | some c => some ⟨c, 1⟩
    | none =>
      if r.credentials.username ≠ "" then (m.find? url.origin).map Remembered.again
      else m.find? url.origin

section Exchange

variable {σ : Type} (net : Network σ) (r : Request) (url : Url) (m : Memory) (s : σ)

theorem isPresent_iff {c : Credentials} : c.isPresent = true ↔ c.username ≠ "" := by
  simp [Credentials.isPresent]

theorem find?_present_self :
    (present net r url m s).2.1.find? url.origin =
      if r.credentials.username ≠ "" then (m.find? url.origin).map Remembered.again
      else m.find? url.origin := by
  by_cases hr : r.credentials.isPresent = true
  · rw [if_pos (isPresent_iff.mp hr)]
    cases hm : m.find? url.origin with
    | none =>
      rw [present_of_unknown net r url m s hr hm, hm]
      rfl
    | some known =>
      rw [present_of_known net r url m s hr hm, nextCount_eq]
      exact Memory.find?_put_self ..
  · rw [present_of_anonymous net r url m s (by simpa using hr),
      if_neg fun h => hr (isPresent_iff.mpr h)]

/-- The first sending of an exchange, and what the surroundings remember then. -/
def firstSending : Sending × σ :=
  let first := present net r url m s
  let back := send net r url first.1 first.2.2
  (⟨first.1, back.1⟩, back.2)

/-- The challenge that an exchange is going to answer: one that credentials have met. -/
def met? : Option Digest.Challenge :=
  if r.credentials.isPresent then (firstSending net r url m s).1.challenge? else none

/-- What the answer to a challenge presents. -/
def answerTo (c : Digest.Challenge) : Presented :=
  .digest c 1 (net.nonce (firstSending net r url m s).2).1

/-- The request as it goes out with what is presented. -/
def issued (p : Presented) : Outgoing :=
  (outgoing r url none).presenting (p.value? r url)

/-- The ways of an execution with a valid request: the trails of its requests, and the result. -/
inductive Effect : List (List Hop) → Except Failure Response → Prop where
  /-- What is presented at first is no header field. -/
  | unfit (hfit : ¬(firstSending net r url m s).1.presented.Fits r url) :
      Effect [] (.error (.invalidCredentials r.url))
  /-- There is nothing to answer. -/
  | answered {trail : List Hop} {ending : Except Trouble (Url × Reply)}
      (htrail : Trail (issued r url (firstSending net r url m s).1.presented) trail ending)
      (houtcome : (firstSending net r url m s).1.outcome = outcomeOf r ending)
      (hmet : met? net r url m s = none) :
      Effect [trail] ((outcomeOf r ending).map (·.toResponse r.url))
  /-- The answer is no header field. -/
  | unanswerable {trail : List Hop} {sender : Url} {reply : Reply} {c : Digest.Challenge}
      (htrail : Trail (issued r url (firstSending net r url m s).1.presented) trail
        (.ok (sender, reply)))
      (houtcome : (firstSending net r url m s).1.outcome = .ok reply)
      (hmet : met? net r url m s = some c)
      (hfit : ¬(answerTo net r url m s c).Fits r url) :
      Effect [trail] (.error (.invalidCredentials r.url))
  /-- The request goes out once more, with the answer, and its outcome is the last word. -/
  | repeated {trail again : List Hop} {sender : Url} {reply : Reply} {c : Digest.Challenge}
      {ending : Except Trouble (Url × Reply)}
      (htrail : Trail (issued r url (firstSending net r url m s).1.presented) trail
        (.ok (sender, reply)))
      (houtcome : (firstSending net r url m s).1.outcome = .ok reply)
      (hmet : met? net r url m s = some c)
      (hfit : (answerTo net r url m s c).Fits r url)
      (hagain : Trail (issued r url (answerTo net r url m s c)) again ending) :
      Effect [trail, again] ((outcomeOf r ending).map (·.toResponse r.url))

/-! ## Exchanges -/

theorem Exchange.outcome_second (first : Sending) (p : Presented)
    (outcome : Except Failure Reply) :
    (Exchange.mk first (some ⟨p, outcome⟩)).outcome = outcome := rfl

theorem exchange_of_met?_none (h : met? net r url m s = none) :
    exchange net r url m s =
      ({ first := (firstSending net r url m s).1 }, (present net r url m s).2.1,
        (firstSending net r url m s).2) := by
  unfold met? at h
  simp only [firstSending] at h ⊢
  simp only [exchange, h]

theorem exchange_of_met?_some {c : Digest.Challenge} (h : met? net r url m s = some c) :
    exchange net r url m s =
      ({ first := (firstSending net r url m s).1
         second := some ⟨answerTo net r url m s c,
          (send net r url (answerTo net r url m s c)
            (net.nonce (firstSending net r url m s).2).2).1⟩ },
        (present net r url m s).2.1.put url.origin ⟨c, 1⟩,
        (send net r url (answerTo net r url m s c)
          (net.nonce (firstSending net r url m s).2).2).2) := by
  unfold met? at h
  unfold answerTo
  simp only [firstSending] at h ⊢
  simp only [exchange, h, answerChallenge_eq]

theorem firstSending_noting (log : List Hop) :
    firstSending (noting net) r url m (s, log) =
      ((firstSending net r url m s).1, (firstSending net r url m s).2,
        log ++ hops net r url (present net r url m s).1 (present net r url m s).2.2) := by
  simp only [firstSending, present_noting, send_noting]

theorem met?_noting (log : List Hop) :
    met? (noting net) r url m (s, log) = met? net r url m s := by
  rw [met?, firstSending_noting, met?]

theorem answerTo_noting (log : List Hop) (c : Digest.Challenge) :
    answerTo (noting net) r url m (s, log) c = answerTo net r url m s c := by
  rw [answerTo, firstSending_noting, answerTo]
  rfl

variable {net r url m s}

theorem outcome_of_unfit (h : ¬(firstSending net r url m s).1.presented.Fits r url) :
    (firstSending net r url m s).1.outcome = .error (.invalidCredentials r.url) :=
  congrArg Prod.fst (send_of_unfit h _)

theorem met?_eq_some_iff {c : Digest.Challenge} :
    met? net r url m s = some c ↔ r.credentials.username ≠ "" ∧ ∃ reply,
      (firstSending net r url m s).1.outcome = .ok reply ∧ reply.status = 401 ∧
        FirstChallenge reply c := by
  unfold met?
  by_cases hr : r.credentials.isPresent = true
  · rw [if_pos hr]
    have hr := isPresent_iff.mp hr
    unfold Sending.challenge?
    cases houtcome : (firstSending net r url m s).1.outcome with
    | error failure => simp
    | ok reply => simp [hr, challenge?_eq_some_iff]
  · rw [if_neg hr]
    have hr : r.credentials.username = "" := by
      by_contra h
      exact hr (isPresent_iff.mpr h)
    simp [hr]

theorem Effect.length_le_two {trails : List (List Hop)} {result : Except Failure Response}
    (h : Effect net r url m s trails result) : trails.length ≤ 2 := by
  cases h with
  | unfit => exact Nat.zero_le 2
  | answered | unanswerable => exact Nat.le_succ 1
  | repeated => exact Nat.le_refl 2

/-- There is a second request exactly if credentials meet a challenge and the answer to it is a
header field. -/
theorem Effect.length_eq_two_iff {trails : List (List Hop)}
    {result : Except Failure Response} (h : Effect net r url m s trails result) :
    trails.length = 2 ↔ ∃ c, met? net r url m s = some c ∧
      (answerTo net r url m s c).Fits r url := by
  cases h with
  | unfit hfit =>
    constructor
    · intro hlength
      cases hlength
    · rintro ⟨c, hmet, -⟩
      obtain ⟨-, reply, houtcome, -⟩ := met?_eq_some_iff.mp hmet
      rw [outcome_of_unfit hfit] at houtcome
      cases houtcome
  | answered htrail houtcome hmet =>
    constructor
    · intro hlength
      cases hlength
    · rintro ⟨c, hsome, -⟩
      rw [hmet] at hsome
      cases hsome
  | unanswerable htrail houtcome hmet hfit =>
    constructor
    · intro hlength
      cases hlength
    · rintro ⟨c, hsome, hfits⟩
      rw [hmet] at hsome
      obtain rfl := Option.some.inj hsome
      exact absurd hfits hfit
  | repeated htrail houtcome hmet hfit hagain => exact ⟨fun _ => ⟨_, hmet, hfit⟩, fun _ => rfl⟩

variable (net r url m s)

/-- What comes back first is what the trail of the first sending ends with. -/
theorem trail_firstSending (hfit : (firstSending net r url m s).1.presented.Fits r url) :
    ∃ ending, Trail (issued r url (firstSending net r url m s).1.presented)
        (hops net r url (present net r url m s).1 (present net r url m s).2.2) ending ∧
      (firstSending net r url m s).1.outcome = outcomeOf r ending :=
  trail_hops net hfit _

/-- Without a challenge the first sending is the only one. -/
theorem effect_of_met?_none (hmet : met? net r url m s = none) :
    ∃ trails, hops net r url (present net r url m s).1 (present net r url m s).2.2 =
        trails.flatten ∧
      Effect net r url m s trails
        ((firstSending net r url m s).1.outcome.map (·.toResponse r.url)) := by
  by_cases hfit : (firstSending net r url m s).1.presented.Fits r url
  · obtain ⟨ending, htrail, houtcome⟩ := trail_firstSending net r url m s hfit
    refine ⟨[_], List.flatten_singleton.symm, ?_⟩
    rw [houtcome]
    exact .answered htrail houtcome hmet
  · rw [outcome_of_unfit hfit]
    exact ⟨[], hops_of_unfit hfit _, .unfit hfit⟩

/-- A challenge leads to a second sending. -/
theorem effect_of_met?_some {c : Digest.Challenge} (hmet : met? net r url m s = some c) (s' : σ) :
    ∃ trails, hops net r url (present net r url m s).1 (present net r url m s).2.2 ++
        hops net r url (answerTo net r url m s c) s' = trails.flatten ∧
      Effect net r url m s trails
        ((send net r url (answerTo net r url m s c) s').1.map (·.toResponse r.url)) := by
  obtain ⟨-, reply, houtcome, -⟩ := met?_eq_some_iff.mp hmet
  have hfirst : (firstSending net r url m s).1.presented.Fits r url := by
    by_contra hunfit
    rw [outcome_of_unfit hunfit] at houtcome
    cases houtcome
  obtain ⟨ending, htrail, hending⟩ := trail_firstSending net r url m s hfirst
  obtain ⟨sender, rfl⟩ : ∃ sender, ending = .ok (sender, reply) := by
    rw [houtcome] at hending
    rcases ending with t | ⟨sender, last⟩
    · cases hending
    · obtain rfl : reply = last := Except.ok.inj hending
      exact ⟨sender, rfl⟩
  by_cases hfit : (answerTo net r url m s c).Fits r url
  · obtain ⟨ending, hagain, hsend⟩ := trail_hops net hfit s'
    refine ⟨[_, _], (List.flatten_cons.trans (congrArg _ List.flatten_singleton)).symm, ?_⟩
    rw [hsend]
    exact .repeated htrail houtcome hmet hfit hagain
  · rw [hops_of_unfit hfit, List.append_nil, send_of_unfit hfit]
    exact ⟨[_], List.flatten_singleton.symm, .unanswerable htrail houtcome hmet hfit⟩

/-- Every exchange takes one of the four ways; the list changes nothing of it. -/
theorem exchange_effect (log : List Hop) :
    ∃ trails, exchange (noting net) r url m (s, log) =
        ((exchange net r url m s).1, (exchange net r url m s).2.1,
          (exchange net r url m s).2.2, log ++ trails.flatten) ∧
      Effect net r url m s trails
        ((exchange net r url m s).1.outcome.map (·.toResponse r.url)) := by
  cases hmet : met? net r url m s with
  | none =>
    obtain ⟨trails, hhops, heffect⟩ := effect_of_met?_none net r url m s hmet
    refine ⟨trails, ?_, ?_⟩
    · rw [exchange_of_met?_none _ _ _ _ _ ((met?_noting ..).trans hmet), present_noting,
        firstSending_noting, exchange_of_met?_none _ _ _ _ _ hmet, hhops]
    · rw [exchange_of_met?_none _ _ _ _ _ hmet]
      exact heffect
  | some c =>
    obtain ⟨trails, hhops, heffect⟩ := effect_of_met?_some net r url m s hmet
      (net.nonce (firstSending net r url m s).2).2
    refine ⟨trails, ?_, ?_⟩
    · rw [exchange_of_met?_some _ _ _ _ _ ((met?_noting ..).trans hmet), present_noting,
        answerTo_noting, firstSending_noting, nonce_noting, send_noting,
        exchange_of_met?_some _ _ _ _ _ hmet, ← hhops, List.append_assoc]
    · rw [exchange_of_met?_some _ _ _ _ _ hmet, Exchange.outcome_second]
      exact heffect

/-- What an exchange changes in the memory. -/
theorem revised_exchange :
    m.Revised r url (met? net r url m s) (exchange net r url m s).2.1 := by
  have hothers : ∀ origin, origin ≠ url.origin →
      (exchange net r url m s).2.1.find? origin = m.find? origin := by
    intro origin hne
    cases hmet : met? net r url m s with
    | none =>
      rw [exchange_of_met?_none _ _ _ _ _ hmet]
      exact find?_present_of_ne net r url s hne
    | some c =>
      rw [exchange_of_met?_some _ _ _ _ _ hmet]
      exact (Memory.find?_put_of_ne _ _ hne).trans (find?_present_of_ne net r url s hne)
  have hown : (exchange net r url m s).2.1.find? url.origin =
      match met? net r url m s with
      | some c => some ⟨c, 1⟩
      | none =>
        if r.credentials.username ≠ "" then (m.find? url.origin).map Remembered.again
        else m.find? url.origin := by
    cases hmet : met? net r url m s with
    | none =>
      rw [exchange_of_met?_none _ _ _ _ _ hmet]
      exact find?_present_self net r url m s
    | some c =>
      rw [exchange_of_met?_some _ _ _ _ _ hmet]
      exact Memory.find?_put_self ..
  refine ⟨?_, hothers, hown⟩
  intro origin hknown
  by_cases horigin : origin = url.origin
  · rw [horigin] at hknown ⊢
    rw [hown]
    split
    · rfl
    · split
      · rw [Option.isSome_map]
        exact hknown
      · exact hknown
  · rw [hothers origin horigin]
    exact hknown

end Exchange

/-! ## Executions -/

/-- One execution sends at most twice, and touches only what is known of its own server.

A request that is not valid does nothing.  A valid one goes out once, or once more with the first
answer to the challenge that its credentials have met, and else the same; redirects are part of the
trails.  Nothing is forgotten, and the entry of its server is that challenge with its first answer,
or the known one with one more. -/
theorem execute_effect {σ : Type} (net : Network σ) (r : Request) (m : Memory) (s : σ) :
    let ran := execute (noting net) r m (s, [])
    (ran.1, ran.2.1, ran.2.2.1) = execute net r m s ∧
    (∀ failure, r.validate = .error failure → ran = (.error failure, m, s, [])) ∧
    ∀ url, r.validate = .ok url →
      m.Revised r url (met? net r url m s) ran.2.1 ∧
      ∃ trails, ran.2.2.2 = trails.flatten ∧ Effect net r url m s trails ran.1 ∧
        trails.length ≤ 2 ∧
        (trails.length = 2 ↔ r.credentials.username ≠ "" ∧ ∃ reply c,
          (firstSending net r url m s).1.outcome = .ok reply ∧ reply.status = 401 ∧
          FirstChallenge reply c ∧ (answerTo net r url m s c).Fits r url) := by
  intro ran
  cases hvalid : r.validate with
  | error failure =>
    have hran : ran = (.error failure, m, s, []) := execute_of_invalid _ hvalid ..
    rw [hran, execute_of_invalid net hvalid]
    refine ⟨rfl, ?_, ?_⟩
    · rintro failure' hfailure
      cases hfailure
      rfl
    · rintro url hurl
      cases hurl
  | ok url =>
    obtain ⟨trails, hnoted, heffect⟩ := exchange_effect net r url m s []
    have hran : ran = ((exchange net r url m s).1.outcome.map (·.toResponse r.url),
        (exchange net r url m s).2.1, (exchange net r url m s).2.2, trails.flatten) := by
      rw [show ran = _ from execute_of_valid _ hvalid .., hnoted, List.nil_append]
    rw [hran, execute_of_valid net hvalid]
    refine ⟨rfl, ?_, ?_⟩
    · rintro failure hfailure
      cases hfailure
    · rintro url' hurl
      cases hurl
      refine ⟨revised_exchange net r url m s, trails, rfl, heffect, heffect.length_le_two, ?_⟩
      rw [heffect.length_eq_two_iff]
      simp only [met?_eq_some_iff]
      constructor
      · rintro ⟨c, ⟨hname, reply, houtcome, hstatus, hfirst⟩, hfit⟩
        exact ⟨hname, reply, c, houtcome, hstatus, hfirst, hfit⟩
      · rintro ⟨hname, reply, c, houtcome, hstatus, hfirst, hfit⟩
        exact ⟨c, ⟨hname, reply, houtcome, hstatus, hfirst⟩, hfit⟩

/-- What the answer of `listRequest` presents fits into a header field. -/
theorem fits_answerTo_challengeOnce :
    (answerTo scripted (listRequest "alice" "s3cret") listUrl {} challengeOnce listChallenge).Fits
      (listRequest "alice" "s3cret") listUrl := by
  have hcnonce : Digest.Verbatim "00112233445566778899aabbccddeeff" := by
    have hhex : "00112233445566778899aabbccddeeff" = Bytes.hex [0x00, 0x11, 0x22, 0x33, 0x44,
        0x55, 0x66, 0x77, 0x88, 0x99, 0xaa, 0xbb, 0xcc, 0xdd, 0xee, 0xff] := by
      decide +kernel
    rw [hhex]
    exact Digest.verbatim_hex _
  have hfit : Digest.Fit listChallenge "alice" listUrl.target
      "00112233445566778899aabbccddeeff" :=
    { username := List.all_eq_true.mp (by decide)
      realm := List.all_eq_true.mp (by decide)
      nonce := List.all_eq_true.mp (by decide)
      opaqueValue := fun text htext => by cases htext
      uri := List.all_eq_true.mp (by decide +kernel)
      cnonce := hcnonce }
  intro text htext
  rw [answerTo, Presented.text?] at htext
  rw [← Option.some.inj htext]
  exact Option.isSome_iff_exists.mpr ⟨_, Digest.fieldValue?_answer hfit⟩

/-- A server that refuses once is sent two requests, and its challenge is known with one answer. -/
theorem execute_effect_challengeOnce :
    (listRequest "alice" "s3cret").validate = .ok listUrl ∧
      ∃ (result : Except Failure Response) (after : Memory) (rest : List Reply)
        (trails : List (List Hop)),
        execute (noting scripted) (listRequest "alice" "s3cret") {} (challengeOnce, []) =
          (result, after, rest, trails.flatten) ∧
        trails.length = 2 ∧ after.find? listUrl.origin = some ⟨listChallenge, 1⟩ := by
  have hvalid := validate_listRequest "alice" "s3cret"
  have hmet : met? scripted (listRequest "alice" "s3cret") listUrl {} challengeOnce =
      some listChallenge := by
    decide +kernel
  obtain ⟨hname, reply, houtcome, hstatus, hfirst⟩ := (met?_eq_some_iff ..).mp hmet
  obtain ⟨-, -, hran⟩ := execute_effect scripted (listRequest "alice" "s3cret") {} challengeOnce
  obtain ⟨hrevised, trails, htrails, -, -, hlength⟩ := hran listUrl hvalid
  generalize execute (noting scripted) (listRequest "alice" "s3cret") {} (challengeOnce, []) = ran
    at hrevised htrails ⊢
  obtain ⟨result, after, rest, log⟩ := ran
  obtain rfl : log = trails.flatten := htrails
  refine ⟨hvalid, result, after, rest, trails, rfl, ?_, ?_⟩
  · exact hlength.mpr ⟨hname, reply, listChallenge, houtcome, hstatus, hfirst,
      fits_answerTo_challengeOnce⟩
  · rw [hrevised.own, hmet]

end FormFetch.Transport
