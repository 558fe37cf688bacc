import FormFetch.Proofs.Auth.Basic
import FormFetch.Proofs.Transport.Record
import FormFetch.Proofs.Url.Padding

/-!
# Asking for a challenge

Whoever asks a client whether the challenge of a server is known gets to know what the next request
to this server presents, if the address is read as the request reads it.

* `Memory.remembers_of_valid` says what the query looks at, `isDigest_present` what the request
  looks at.
* `isDigest_iff_text?` reads what is presented off the header field.
* `remembers_iff_presents` is the result.
-/

namespace FormFetch.Transport

open FormFetch.Http FormFetch.Auth

/-- The query reads an address as it stands, a request reads it trimmed. -/
theorem Memory.remembers_of_valid {url : String} {address : Url}
    (h : validateUrl url = .ok address) (m : Memory) :
    m.remembers url = (Url.isLegible url && (m.find? address.origin).isSome) := by
  have horigin := Url.map_origin_parse?_of_valid h
  unfold remembers
  cases hlegible : Url.isLegible url with
  | false =>
    rw [hlegible] at horigin
    rw [Option.map_eq_none_iff.mp horigin]
    rfl
  | true =>
    rw [hlegible] at horigin
    obtain ⟨read, hread, hsame⟩ := Option.map_eq_some_iff.mp horigin
    rw [hread, ← hsame]
    rfl

section Presented

variable {σ : Type} (net : Network σ) (r : Request) (url : Url) (m : Memory) (s : σ)

theorem isDigest_present :
    (present net r url m s).1.isDigest =
      (r.credentials.isPresent && (m.find? url.origin).isSome) := by
  cases hr : r.credentials.isPresent with
  | false =>
    rw [present_of_anonymous net r url m s hr]
    rfl
  | true =>
    cases hm : m.find? url.origin with
    | none =>
      rw [present_of_unknown net r url m s hr hm]
      rfl
    | some known =>
      rw [present_of_known net r url m s hr hm]
      rfl

theorem presented_first_exchange :
    (exchange net r url m s).1.first.presented = (present net r url m s).1 := by
  obtain ⟨p, m₁, s₁, outcome, s₂, hp, -, ⟨he, -⟩ | ⟨c, p', m₂, s₃, outcome', s₄, -, -, -, -, he⟩⟩ :=
    exchange_cases net r url m s
  · rw [he, hp]
  · rw [he, hp]

theorem not_digest_prefix_authorization (username password : String) :
    ¬"Digest ".toList <+: (Basic.authorization username password).toList := by
  rw [Basic.toList_authorization]
  rintro ⟨more, h⟩
  have hfirst := congrArg List.head? h
  have hdigest : "Digest ".toList.head? = some 'D' := by decide
  have hbasic : Basic.scheme.head? = some 'B' := by decide
  rw [List.head?_append, List.head?_append, hdigest, hbasic] at hfirst
  exact absurd hfirst (by simp)

theorem digest_prefix_answer (c : Digest.Challenge) (credentials : Credentials)
    (method uri : String) (count : UInt32) (cnonce : String) :
    "Digest ".toList <+: (c.answer credentials method uri count cnonce).toList :=
  ⟨_, String.toList_ofList.symm⟩

variable {r url} in
/-- What the sendings of an execution start with. -/
theorem exists_sent_cons (h : r.validate = .ok url) :
    ∃ first rest, sent net r m s = first :: rest ∧
      first.sending.presented = (present net r url m s).1 := by
  rw [sent_of_valid net h, Exchange.sendings, List.map_cons]
  exact ⟨_, _, rfl, presented_first_exchange net r url m s⟩

/-- What is presented is an answer to a challenge exactly if the header field says so. -/
theorem isDigest_iff_text? (p : Presented) :
    p.isDigest = true ↔
      ∃ text, p.text? r url = some text ∧ "Digest ".toList <+: text.toList := by
  cases p with
  | nothing => simp [Presented.isDigest, Presented.text?]
  | basic =>
    simp only [Presented.isDigest, Presented.text?, Option.some.injEq, exists_eq_left',
      not_digest_prefix_authorization, Bool.false_eq_true]
  | digest c count cnonce =>
    simp only [Presented.isDigest, Presented.text?, Option.some.injEq, exists_eq_left',
      digest_prefix_answer]

end Presented

/-- Whatever a client remembers, and so after every run: it says that it knows the challenge of a
proper address exactly if the next request with credentials for this address first presents an answer
to a challenge, and the blanks around the address count for nothing. -/
theorem remembers_iff_presents {σ : Type} (net : Network σ) {r : Request} {address : Url}
    (hr : r.validate = .ok address) (hname : r.credentials.isPresent = true) (m : Memory) (s : σ) :
    ∃ first rest, sent net r m s = first :: rest ∧
      (m.remembers r.url = true ↔
        (∃ text, first.sending.presented.text? r address = some text ∧
          "Digest ".toList <+: text.toList) ∧ Url.isLegible r.url = true) := by
  obtain ⟨first, rest, hsent, hpresented⟩ := exists_sent_cons net m s hr
  refine ⟨first, rest, hsent, ?_⟩
  have haddress : validateUrl r.url = .ok address :=
    validateUrl_eq_ok_iff.mpr (Request.validate_eq_ok_iff.mp hr).1
  rw [← isDigest_iff_text?, hpresented, isDigest_present, hname, Bool.true_and,
    Memory.remembers_of_valid haddress, Bool.and_eq_true, and_comm]

/-! ## Blanks around an address -/

/-- The address of `listRequest` with a space in front and a no-break space behind its path. -/
def spacedList : String :=
  " http://forms.example/formList\u00a0"

/-- The address of `listRequest` with a no-break space in front. -/
def hiddenList : String :=
  "\u00a0http://forms.example/formList"

/-- The request of `listRequest` for its address as another text. -/
def listRequestAt (url : String) : Request :=
  { listRequest "alice" "s3cret" with url }

/-- A new client knows the challenge of the server after a first request to it. -/
theorem exists_execute_challengeOnce :
    ∃ answer m s, execute scripted (listRequest "alice" "s3cret") {} challengeOnce =
        (answer, m, s) ∧ (m.find? listUrl.origin).isSome = true := by
  have hrefused : (Sending.mk .basic (send scripted (listRequest "alice" "s3cret") listUrl .basic
      challengeOnce).1).challenge?.isSome = true := by
    decide +kernel
  obtain ⟨c, hc⟩ := Option.isSome_iff_exists.mp hrefused
  rcases hfirst : send scripted (listRequest "alice" "s3cret") listUrl .basic challengeOnce with
    ⟨outcome, s₁⟩
  -- What comes back for the answer does not matter.
  rcases hsecond : send scripted (listRequest "alice" "s3cret") listUrl
      (.digest c 1 (scripted.nonce s₁).1) (scripted.nonce s₁).2 with ⟨outcome', s₂⟩
  rw [hfirst] at hc
  have hexchange := exchange_of_challenged rfl
    (present_of_unknown scripted (listRequest "alice" "s3cret") listUrl {} challengeOnce rfl rfl)
    hfirst hc hsecond
  have hexecute := execute_of_valid scripted (validate_listRequest "alice" "s3cret") {} challengeOnce
  rw [hexchange] at hexecute
  refine ⟨_, _, _, hexecute, ?_⟩
  rw [Memory.find?_put_self, Option.isSome_some]

theorem validate_listRequestAt {url : String}
    (h : Text.trimmed url = Text.trimmed "http://forms.example/formList") :
    validateUrl url = .ok listUrl ∧ (listRequestAt url).validate = .ok listUrl := by
  obtain ⟨hlist, htimeout⟩ :=
    Request.validate_eq_ok_iff.mp (validate_listRequest "alice" "s3cret")
  have hparse : Url.parse? (Text.trimmed url) = some listUrl := by
    rw [h]
    exact hlist
  exact ⟨validateUrl_eq_ok_iff.mpr hparse, Request.validate_eq_ok_iff.mpr ⟨hparse, htimeout⟩⟩

theorem validate_spacedList :
    validateUrl spacedList = .ok listUrl ∧ (listRequestAt spacedList).validate = .ok listUrl :=
  validate_listRequestAt (by decide +kernel)

theorem validate_hiddenList :
    validateUrl hiddenList = .ok listUrl ∧ (listRequestAt hiddenList).validate = .ok listUrl :=
  validate_listRequestAt (by decide +kernel)

/-- Blanks that count for nothing: the client says that it knows the challenge, and answers it. -/
theorem remembers_iff_presents_spacedList :
    (listRequestAt spacedList).validate = .ok listUrl ∧
      (listRequestAt spacedList).credentials.isPresent = true ∧
      ∃ answer m s, execute scripted (listRequest "alice" "s3cret") {} challengeOnce =
          (answer, m, s) ∧ m.remembers spacedList = true ∧
        ∃ first rest, sent scripted (listRequestAt spacedList) m s = first :: rest ∧
          ∃ text, first.sending.presented.text? (listRequestAt spacedList) listUrl = some text ∧
            "Digest ".toList <+: text.toList := by
  obtain ⟨hurl, hvalid⟩ := validate_spacedList
  obtain ⟨answer, m, s, hexecute, hknown⟩ := exists_execute_challengeOnce
  have hremembers : m.remembers spacedList = true := by
    rw [Memory.remembers_of_valid hurl, hknown]
    decide +kernel
  obtain ⟨first, rest, hsent, hquery⟩ := remembers_iff_presents scripted hvalid rfl m s
  exact ⟨hvalid, rfl, answer, m, s, hexecute, hremembers, first, rest, hsent,
    (hquery.mp hremembers).1⟩

/-- A blank that counts in front of the address: the client denies that it knows the challenge, and
the next request answers it all the same. -/
theorem denied_and_presented :
    (listRequestAt hiddenList).validate = .ok listUrl ∧
      (listRequestAt hiddenList).credentials.isPresent = true ∧
      ∃ answer m s, execute scripted (listRequest "alice" "s3cret") {} challengeOnce =
          (answer, m, s) ∧ m.remembers hiddenList = false ∧
        ∃ first rest, sent scripted (listRequestAt hiddenList) m s = first :: rest ∧
          ∃ text, first.sending.presented.text? (listRequestAt hiddenList) listUrl = some text ∧
            "Digest ".toList <+: text.toList := by
  obtain ⟨hurl, hvalid⟩ := validate_hiddenList
  obtain ⟨answer, m, s, hexecute, hknown⟩ := exists_execute_challengeOnce
  obtain ⟨first, rest, hsent, hpresented⟩ := exists_sent_cons scripted m s hvalid
  refine ⟨hvalid, rfl, answer, m, s, hexecute, ?_, first, rest, hsent, ?_⟩
  · rw [Memory.remembers_of_valid hurl, hknown]
    decide +kernel
  · rw [← isDigest_iff_text?, hpresented, isDigest_present, hknown]
    rfl

end FormFetch.Transport
