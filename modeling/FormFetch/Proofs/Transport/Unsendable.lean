import FormFetch.Proofs.Auth.Characters
import FormFetch.Proofs.Transport.Overlap
import FormFetch.Proofs.Transport.Sending

/-!
# Credentials that cannot be sent

A username with a control character cannot stand in an answer to a challenge.  Nothing else can
keep an answer back, whatever a server has sent before, and Basic credentials always go out.

* `sendable_run` is the invariant: everything that is remembered was read from a header field,
  so that it can be written into one.
* `fits_first_iff` and `fits_answerTo_iff` say which of the two sendings of an execution go out.
* `Effect.isRefused_iff` and `Effect.of_refused` are one execution, and `refused_iff` is a client
  whose executions overlap.
-/

namespace FormFetch.Transport

open FormFetch.Http FormFetch.Auth FormFetch.Text

/-! ## What can be sent -/

/-- A control character other than the tab. -/
def HasControl (text : String) : Prop :=
  ∃ ch ∈ text.toList, ch.toNat < 0x20 ∧ ch ≠ '\t' ∨ ch.toNat = 0x7F

theorem not_hasControl_iff {text : String} :
    ¬HasControl text ↔ ∀ ch ∈ text.toList, isFieldChar ch = true := by
  have hchar : ∀ ch : Char, isFieldChar ch = true ↔
      ¬(ch.toNat < 0x20 ∧ ch ≠ '\t' ∨ ch.toNat = 0x7F) := by
    intro ch
    simp only [isFieldChar, Bool.or_eq_true, Bool.and_eq_true, beq_iff_eq, bne_iff_ne,
      decide_eq_true_eq]
    by_cases htab : ch = '\t'
    · subst htab
      decide
    · simp only [htab, false_or, ne_eq, not_false_eq_true, and_true]
      omega
  simp only [HasControl, hchar, not_exists, not_and]

/-- The client nonces of a network are random bytes in hexadecimal. -/
def Network.NoncesInHex {σ : Type} (net : Network σ) : Prop :=
  ∀ s, ∃ random, (net.nonce s).1 = Digest.clientNonce random

/-- Everything that is remembered can be written into a header field. -/
def Memory.Sendable (m : Memory) : Prop :=
  ∀ origin known, m.find? origin = some known → known.challenge.Sendable

theorem sendable_of_challenge? {reply : Reply} {c : Digest.Challenge}
    (h : challenge? reply = some c) : c.Sendable := by
  obtain ⟨-, value, -, hread⟩ := exists_of_challenge? h
  obtain ⟨text, htext, hparse⟩ := Option.bind_eq_some_iff.mp hread
  exact Digest.sendable_of_parse? hparse (isFieldChar_of_fieldText? htext)

/-- Whatever the servers send, what is remembered of it can be sent back. -/
theorem sendable_run {ι σ : Type} [DecidableEq ι] (net : Network σ) (tasks : ι → Task σ)
    (schedule : List ι) : (run net tasks schedule).memory.Sendable := by
  intro origin known hknown
  rw [← client_watch] at hknown
  obtain ⟨x, -, -, -, out, reply, -, hc⟩ := (sourced_watch schedule).known origin known hknown
  exact sendable_of_challenge? hc

section Fits

variable {r : Request} {url : Url}

theorem fits_nothing : Presented.nothing.Fits r url := by
  intro text htext
  cases htext

/-- Basic credentials fit, whatever they are. -/
theorem fits_basic : Presented.basic.Fits r url := by
  intro text htext
  obtain rfl := Option.some.inj htext
  rw [Basic.fieldValue?_authorization]
  rfl

/-- An answer fits unless the username has a control character. -/
theorem fits_digest_iff (hvalid : r.validate = .ok url) {c : Digest.Challenge} (hc : c.Sendable)
    (count : UInt32) {cnonce : String} (hcnonce : ∃ random, cnonce = Digest.clientNonce random) :
    (Presented.digest c count cnonce).Fits r url ↔ ¬HasControl r.credentials.username := by
  obtain ⟨random, rfl⟩ := hcnonce
  have huri : ∀ ch ∈ url.target.toList, isFieldChar ch = true :=
    fun ch hch => isFieldChar_of_isVisible (visible_target hvalid ch hch)
  have hiff : (fieldValue? (c.answer r.credentials r.method.name url.target count
      (Digest.clientNonce random))).isSome ↔
        ∀ ch ∈ r.credentials.username.toList, isFieldChar ch = true :=
    Digest.isSome_fieldValue?_answer_iff hc huri (Digest.verbatim_hex random)
  rw [not_hasControl_iff, ← hiff]
  constructor
  · exact fun hfits => hfits _ rfl
  · intro hsome text htext
    obtain rfl := Option.some.inj htext
    exact hsome

end Fits

section Sendings

variable {σ : Type} {net : Network σ} {r : Request} {url : Url} {m : Memory} {s : σ}

/-- What is presented at first fits unless it is an answer and the username has a control
character. -/
theorem fits_first_iff (hnonces : net.NoncesInHex) (hvalid : r.validate = .ok url)
    (hm : m.Sendable) :
    (firstSending net r url m s).1.presented.Fits r url ↔
      ¬(r.credentials.username ≠ "" ∧ HasControl r.credentials.username ∧
        (m.find? url.origin).isSome) := by
  show (present net r url m s).1.Fits r url ↔ _
  by_cases hr : r.credentials.isPresent = true
  · have hname := isPresent_iff.mp hr
    cases hknown : m.find? url.origin with
    | none =>
      rw [present_of_unknown net r url m s hr hknown]
      simp [fits_basic]
    | some known =>
      rw [present_of_known net r url m s hr hknown,
        fits_digest_iff hvalid (hm _ known hknown) _ (hnonces s)]
      simp [hname]
  · rw [present_of_anonymous net r url m s (by simpa using hr)]
    have hname : ¬r.credentials.username ≠ "" := fun hne => hr (isPresent_iff.mpr hne)
    simp [fits_nothing, hname]

/-- The answer to a challenge that was met fits unless the username has a control character. -/
theorem fits_answerTo_iff (hnonces : net.NoncesInHex) (hvalid : r.validate = .ok url)
    {c : Digest.Challenge} (hmet : met? net r url m s = some c) :
    (answerTo net r url m s c).Fits r url ↔ ¬HasControl r.credentials.username := by
  obtain ⟨-, reply, -, hstatus, hfirst⟩ := met?_eq_some_iff.mp hmet
  have hc := sendable_of_challenge? (challenge?_eq_some_iff.mpr ⟨hstatus, hfirst⟩)
  exact fits_digest_iff hvalid hc 1 (hnonces _)

/-! ## Which executions are refused -/

/-- An execution failed with invalid credentials. -/
def Refused (result : Except Failure Response) : Prop :=
  ∃ text, result = .error (.invalidCredentials text)

/-- Nothing that comes from the network looks like invalid credentials. -/
theorem outcomeOf_ne (ending : Except Trouble (Url × Reply)) (text : String) :
    outcomeOf r ending ≠ .error (.invalidCredentials text) := by
  rcases ending with t | ⟨sender, reply⟩
  · intro h
    have hfailure : t.toFailure r.url = .invalidCredentials text := Except.error.inj h
    unfold Trouble.toFailure at hfailure
    split at hfailure <;> cases hfailure
  · intro h
    cases h

theorem not_refused_outcomeOf (ending : Except Trouble (Url × Reply)) :
    ¬Refused ((outcomeOf r ending).map (·.toResponse r.url)) := by
  rintro ⟨text, h⟩
  refine outcomeOf_ne (r := r) ending text ?_
  cases houtcome : outcomeOf r ending with
  | error failure =>
    rw [houtcome] at h
    cases h
    rfl
  | ok reply =>
    rw [houtcome] at h
    cases h

/-- What came back first came from the network, so it was sent. -/
theorem fits_of_outcome (ending : Except Trouble (Url × Reply))
    (h : (firstSending net r url m s).1.outcome = outcomeOf r ending) :
    (firstSending net r url m s).1.presented.Fits r url := by
  by_contra hunfit
  exact outcomeOf_ne ending r.url (h.symm.trans (outcome_of_unfit hunfit))

variable {trails : List (List Hop)} {result : Except Failure Response}

/-- An execution is refused if the username has a control character and there is something to
answer. -/
theorem Effect.isRefused_iff (h : Effect net r url m s trails result) (hnonces : net.NoncesInHex)
    (hvalid : r.validate = .ok url) (hm : m.Sendable) :
    Refused result ↔
      r.credentials.username ≠ "" ∧ HasControl r.credentials.username ∧
        ((m.find? url.origin).isSome ∨ ∃ c, met? net r url m s = some c) := by
  have hfirst := fits_first_iff (s := s) hnonces hvalid hm
  cases h with
  | unfit hfit =>
    rw [hfirst, not_not] at hfit
    exact iff_of_true ⟨r.url, rfl⟩ ⟨hfit.1, hfit.2.1, Or.inl hfit.2.2⟩
  | @answered trail ending htrail houtcome hmet =>
    refine iff_of_false (not_refused_outcomeOf ending) ?_
    rintro ⟨hname, hcontrol, hknown | ⟨c, hc⟩⟩
    · exact hfirst.mp (fits_of_outcome _ houtcome) ⟨hname, hcontrol, hknown⟩
    · rw [hmet] at hc
      cases hc
  | @unanswerable trail sender reply c htrail houtcome hmet hfit =>
    rw [fits_answerTo_iff hnonces hvalid hmet, not_not] at hfit
    exact iff_of_true ⟨r.url, rfl⟩ ⟨(met?_eq_some_iff.mp hmet).1, hfit, Or.inr ⟨c, hmet⟩⟩
  | @repeated trail again sender reply c ending htrail houtcome hmet hfit hagain =>
    refine iff_of_false (not_refused_outcomeOf ending) ?_
    rintro ⟨-, hcontrol, -⟩
    exact (fits_answerTo_iff hnonces hvalid hmet).mp hfit hcontrol

/-- An execution that is refused has sent nothing, or only its Basic credentials. -/
theorem Effect.of_refused (h : Effect net r url m s trails result) (hnonces : net.NoncesInHex)
    (hvalid : r.validate = .ok url) (hm : m.Sendable) (hrefused : Refused result) :
    result = .error (.invalidCredentials r.url) ∧
      ((m.find? url.origin).isSome → trails = []) ∧
      (m.find? url.origin = none → ∃ trail sender reply, trails = [trail] ∧
        (firstSending net r url m s).1.outcome = .ok reply ∧
        Trail (issued r url .basic) trail (.ok (sender, reply))) := by
  have hfirst := fits_first_iff (s := s) hnonces hvalid hm
  obtain ⟨hname, hcontrol, -⟩ := (h.isRefused_iff hnonces hvalid hm).mp hrefused
  cases h with
  | unfit hfit =>
    rw [hfirst, not_not] at hfit
    refine ⟨rfl, fun _ => rfl, fun hnone => ?_⟩
    rw [hnone] at hfit
    cases hfit.2.2
  | @answered trail ending htrail houtcome hmet =>
    exact absurd hrefused (not_refused_outcomeOf ending)
  | @unanswerable trail sender reply c htrail houtcome hmet hfit =>
    refine ⟨rfl, fun hknown => ?_, fun hnone => ⟨trail, sender, reply, rfl, houtcome, ?_⟩⟩
    · exact absurd ⟨hname, hcontrol, hknown⟩
        (hfirst.mp (fits_of_outcome (.ok (sender, reply)) houtcome))
    · have hbasic : (firstSending net r url m s).1.presented = .basic :=
        congrArg Prod.fst (present_of_unknown net r url m s (isPresent_iff.mpr hname) hnone)
      rwa [hbasic] at htrail
  | @repeated trail again sender reply c ending htrail houtcome hmet hfit hagain =>
    exact absurd hrefused (not_refused_outcomeOf ending)

end Sendings

/-- Of all that goes through a client, an execution fails with invalid credentials exactly if its
username has a control character and there is a challenge for its answer: one that is known when
it begins, or one that it meets.  Passwords, addresses and the texts of the servers have no part
in it.

What was refused is not sent, and nothing is sent in its place: with a known challenge the
execution leaves nothing, and else only the sending of its Basic credentials that has met the
challenge. -/
theorem refused_iff {ι σ : Type} [DecidableEq ι] {net : Network σ} (hnonces : net.NoncesInHex)
    (tasks : ι → Task σ) {before between : List ι} {i : ι} (hbefore : i ∉ before)
    (hbetween : i ∉ between) {url : Url} (hvalid : (tasks i).request.validate = .ok url) :
    let r := (tasks i).request
    let m := (run net tasks before).memory
    let first := (firstSending net r url m (tasks i).surroundings).1
    let hops := leftBy net tasks before between i
    ∃ result, (run net tasks (before ++ i :: (between ++ [i]))).result? i = some result ∧
      (Refused result ↔ r.credentials.username ≠ "" ∧ HasControl r.credentials.username ∧
        ((m.find? url.origin).isSome ∨
          ∃ reply c, first.outcome = .ok reply ∧ reply.status = 401 ∧ FirstChallenge reply c)) ∧
      (Refused result → result = .error (.invalidCredentials r.url) ∧
        ((m.find? url.origin).isSome → hops = []) ∧
        (m.find? url.origin = none → ∃ sender reply, first.outcome = .ok reply ∧
          Trail (issued r url .basic) hops (.ok (sender, reply)))) := by
  intro r m first hops
  obtain ⟨trails, result, hresult, hhops, heffect⟩ :=
    effect_overlapped net hbefore hbetween hvalid
  have hm : m.Sendable := sendable_run net tasks before
  refine ⟨result, hresult, ?_, fun hrefused => ?_⟩
  · rw [heffect.isRefused_iff hnonces hvalid hm]
    simp only [met?_eq_some_iff]
    constructor
    · rintro ⟨hname, hcontrol, hknown | ⟨c, -, reply, hmet⟩⟩
      · exact ⟨hname, hcontrol, Or.inl hknown⟩
      · exact ⟨hname, hcontrol, Or.inr ⟨reply, c, hmet⟩⟩
    · rintro ⟨hname, hcontrol, hknown | ⟨reply, c, hmet⟩⟩
      · exact ⟨hname, hcontrol, Or.inl hknown⟩
      · exact ⟨hname, hcontrol, Or.inr ⟨c, hname, reply, hmet⟩⟩
  · obtain ⟨hfailure, hknown, hunknown⟩ := heffect.of_refused hnonces hvalid hm hrefused
    refine ⟨hfailure, fun h => ?_, fun h => ?_⟩
    · exact hhops.trans (by rw [hknown h, List.flatten_nil])
    · obtain ⟨trail, sender, reply, rfl, houtcome, htrail⟩ := hunknown h
      obtain rfl : hops = trail := hhops.trans List.flatten_singleton
      exact ⟨sender, reply, houtcome, htrail⟩

/-- Two requests to a server that challenges once; the first username has a line break. -/
def brokenTasks (i : Bool) : Task (List Reply) :=
  ⟨listRequest (if i then "al\nice" else "bob") "s3cret", challengeOnce⟩

theorem noncesInHex_scripted : scripted.NoncesInHex := by
  have hhex : "00112233445566778899aabbccddeeff" = Digest.clientNonce [0x00, 0x11, 0x22, 0x33,
      0x44, 0x55, 0x66, 0x77, 0x88, 0x99, 0xaa, 0xbb, 0xcc, 0xdd, 0xee, 0xff] := by
    decide +kernel
  exact fun _ => ⟨_, hhex⟩

/-- The request with the line break is refused behind its Basic credentials, although the other one
comes through in between. -/
theorem refused_iff_brokenTasks :
    scripted.NoncesInHex ∧ true ∉ ([] : List Bool) ∧ true ∉ [false, false] ∧
      (brokenTasks true).request.validate = .ok listUrl ∧
      (run scripted brokenTasks ([] ++ true :: ([false, false] ++ [true]))).result? true =
        some (.error (.invalidCredentials "http://forms.example/formList")) ∧
      ∃ sender reply, reply.status = 401 ∧
        Trail (issued (brokenTasks true).request listUrl .basic)
          (leftBy scripted brokenTasks [] [false, false] true) (.ok (sender, reply)) := by
  have hbefore : true ∉ ([] : List Bool) := List.not_mem_nil
  have hbetween : true ∉ [false, false] := by decide
  have hvalid : (brokenTasks true).request.validate = .ok listUrl :=
    validate_listRequest "al\nice" "s3cret"
  have hcontrol : HasControl "al\nice" := ⟨'\n', by decide, Or.inl (by decide)⟩
  have hmet : met? scripted (brokenTasks true).request listUrl {} challengeOnce =
      some listChallenge := by
    decide +kernel
  obtain ⟨hname, reply, houtcome, hstatus, hfirst⟩ := met?_eq_some_iff.mp hmet
  obtain ⟨result, hresult, hiff, hleft⟩ :=
    refused_iff noncesInHex_scripted brokenTasks hbefore hbetween hvalid
  have hrefused : Refused result :=
    hiff.mpr ⟨hname, hcontrol, Or.inr ⟨reply, listChallenge, houtcome, hstatus, hfirst⟩⟩
  obtain ⟨rfl, -, hunknown⟩ := hleft hrefused
  obtain ⟨sender, reply', houtcome', htrail⟩ := hunknown rfl
  obtain rfl : reply = reply' := Except.ok.inj (houtcome.symm.trans houtcome')
  exact ⟨noncesInHex_scripted, hbefore, hbetween, hvalid, hresult, sender, reply, hstatus, htrail⟩

end FormFetch.Transport
