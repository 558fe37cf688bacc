import FormFetch.Proofs.Session.Transcript
import FormFetch.Proofs.Session.Twins

/-!
# What a fetch comes to

Every fetch gives a document or a message, and the last answer of the transport says which.

There are three groups.

* Bodies.  `Body.arrived` is what arrives of a body, and `collect_eq` says that nothing else of
  it is read; in particular not where its chunks end (`arrived_congr`).
* Results.  `Fetched.Classified` says what a result is by the last answer, and
  `classified_ofAnswer` that it always is.
* Transports that cut bodies in other places.  `SameButChunks.twins` says that a session does not
  notice.

`fetch_classified` puts everything together.
-/

namespace FormFetch

open Text Http Prompt

/-! ## Bodies -/

namespace Http.Body

/-- The bytes that arrive before a body breaks off, and the failure that breaks it off. -/
def arrived : Body → List UInt8 × Option Failure
  | [] => ([], none)
  | .error failure :: _ => ([], some failure)
  | .ok bytes :: rest => (bytes ++ (arrived rest).1, (arrived rest).2)

/-- The bytes of a body, or what breaks it off. -/
theorem collect_eq (b : Body) :
    b.collect = match b.arrived with
      | (bytes, none) => .ok bytes
      | (_, some failure) => .error failure := by
  induction b with
  | nil => rfl
  | cons chunk rest ih =>
    cases chunk with
    | error failure => rfl
    | ok bytes =>
      rw [collect, ih, arrived]
      obtain ⟨more, ending⟩ := arrived rest
      cases ending with
      | none => rfl
      | some failure => rfl

/-- Whole chunks in front of a body. -/
theorem arrived_append (chunks : List (List UInt8)) (rest : Body) :
    arrived (chunks.map .ok ++ rest) = (chunks.flatten ++ (arrived rest).1, (arrived rest).2) := by
  induction chunks with
  | nil => rfl
  | cons bytes chunks ih =>
    rw [List.map_cons, List.cons_append, arrived, ih, List.flatten_cons, List.append_assoc]

/-- It does not matter where the chunks end. -/
theorem arrived_congr {chunks chunks' : List (List UInt8)} (h : chunks.flatten = chunks'.flatten)
    (rest : Body) : arrived (chunks.map .ok ++ rest) = arrived (chunks'.map .ok ++ rest) := by
  rw [arrived_append, arrived_append, h]

/-- A character of two bytes may arrive in two chunks. -/
example : arrived [.ok [0xC3], .ok [0xA9]] = arrived [.ok [0xC3, 0xA9]] := rfl

theorem collect_of_chunks (chunks : List (List UInt8)) :
    collect (chunks.map .ok) = .ok chunks.flatten := by
  have harrived := arrived_append chunks []
  rw [List.append_nil, arrived, List.append_nil] at harrived
  rw [collect_eq, harrived]

/-- A body is read exactly if none of its chunks fails. -/
theorem collect_eq_ok_iff {b : Body} {bytes : List UInt8} :
    b.collect = .ok bytes ↔
      ∃ chunks : List (List UInt8), b = chunks.map .ok ∧ chunks.flatten = bytes := by
  constructor
  · intro h
    induction b generalizing bytes with
    | nil =>
      cases h
      exact ⟨[], rfl, rfl⟩
    | cons chunk rest ih =>
      cases chunk with
      | error failure => cases h
      | ok first =>
        rw [collect] at h
        cases hrest : collect rest with
        | error failure =>
          rw [hrest] at h
          cases h
        | ok more =>
          rw [hrest] at h
          cases h
          obtain ⟨chunks, rfl, rfl⟩ := ih hrest
          exact ⟨first :: chunks, rfl, rfl⟩
  · rintro ⟨chunks, rfl, rfl⟩
    exact collect_of_chunks chunks

end Http.Body

theorem Http.Response.content_eq (r : Response) : r.content = (r.body.getD []).collect := by
  unfold content
  cases r.body with
  | none => rfl
  | some body => rfl

/-! ## Results -/

namespace Fetched

/-- The document of a result. -/
def document? (f : Fetched) : Option Markup.Document :=
  f.outcome.toOption

/-- The message of a result. -/
def message? (f : Fetched) : Option String :=
  match f.outcome with
  | .error message => some message
  | .ok _ => none

theorem document_eq_ok_iff {r : Response} {d : Markup.Document} :
    document r = .ok d ↔ r.status = 200 ∧ ∃ chunks : List (List UInt8),
      r.body.getD [] = chunks.map .ok ∧ Markup.Document.parse chunks.flatten = .ok d := by
  have hcontent : (∃ chunks : List (List UInt8), r.body.getD [] = chunks.map .ok ∧
      Markup.Document.parse chunks.flatten = .ok d) ↔
        ∃ bytes, r.content = .ok bytes ∧ Markup.Document.parse bytes = .ok d := by
    simp only [r.content_eq, Body.collect_eq_ok_iff]
    constructor
    · rintro ⟨chunks, hchunks, hd⟩
      exact ⟨_, ⟨chunks, hchunks, rfl⟩, hd⟩
    · rintro ⟨_, ⟨chunks, hchunks, rfl⟩, hd⟩
      exact ⟨chunks, hchunks, hd⟩
  rw [hcontent, document]
  by_cases hstatus : r.status = 200
  · rw [if_neg (not_not_intro hstatus)]
    cases r.content with
    | error failure => simp
    | ok bytes => cases hparse : Markup.Document.parse bytes <;> simp [hstatus, hparse]
  · rw [if_pos hstatus]
    simp [hstatus]

/-- What a result is by the last answer of the transport. -/
structure Classified (f : Fetched) (url : String)
    (last : Option (Except Failure (Option Response))) : Prop where
  /-- There is a document or a message, and not both. -/
  exclusive : f.document?.isSome ∧ f.message? = none ∨ f.document? = none ∧ f.message?.isSome
  document : ∀ d, f.document? = some d ↔ ∃ r, last = some (.ok (some r)) ∧ r.status = 200 ∧
    ∃ chunks : List (List UInt8), r.body.getD [] = chunks.map .ok ∧
      Markup.Document.parse chunks.flatten = .ok d
  unanswered : (∀ r, last ≠ some (.ok (some r))) → f.code = 0 ∧ f.openRosa = false
  answered : ∀ r, last = some (.ok (some r)) → f.code = r.status ∧
    (f.openRosa = true ↔ ∃ value, (r.headers.getAll OpenRosa.versionField).head? = some value ∧
      ∃ b ∈ value, OpenRosa.isAsciiSpace b = false)
  message : ∀ message, f.message? = some message →
    ∃ text, message = text ++ " while accessing " ++ url
  /-- A body that breaks off gives no document, whatever has arrived before. -/
  broken : ∀ r, last = some (.ok (some r)) → ∀ failure, .error failure ∈ r.body.getD [] →
    f.document? = none

theorem classified_unanswered (url message : String)
    {last : Option (Except Failure (Option Response))}
    (h : ∀ r, last ≠ some (.ok (some r))) : (unanswered url message).Classified url last where
  exclusive := Or.inr ⟨rfl, rfl⟩
  document d := by
    constructor
    · intro hd
      cases hd
    · rintro ⟨r, hr, -⟩
      exact absurd hr (h r)
  unanswered _ := ⟨rfl, rfl⟩
  answered r hr := absurd hr (h r)
  message m hm := by
    cases hm
    exact ⟨message, rfl⟩
  broken r hr := absurd hr (h r)

theorem openRosa_ofResponse_iff (url : String) (r : Response) :
    (ofResponse url r).openRosa = true ↔
      ∃ value, (r.headers.getAll OpenRosa.versionField).head? = some value ∧
        ∃ b ∈ value, OpenRosa.isAsciiSpace b = false := by
  show OpenRosa.isOpenRosa r = true ↔ _
  rw [OpenRosa.isOpenRosa, Headers.get?]
  cases (r.headers.getAll OpenRosa.versionField).head? with
  | none => simp
  | some value => simp

theorem document?_ofResponse (url : String) (r : Response) :
    (ofResponse url r).document? = (document r).toOption := by
  unfold document? ofResponse
  cases document r with
  | error message => rfl
  | ok d => rfl

theorem document?_ofResponse_eq_some_iff {url : String} {r : Response} {d : Markup.Document} :
    (ofResponse url r).document? = some d ↔ document r = .ok d := by
  rw [document?_ofResponse]
  cases document r with
  | error message => simp [Except.toOption]
  | ok found => simp [Except.toOption]

theorem classified_ofResponse (url : String) (r : Response) :
    (ofResponse url r).Classified url (some (.ok (some r))) where
  exclusive := by
    unfold document? message? ofResponse
    cases document r with
    | error text => exact Or.inr ⟨rfl, rfl⟩
    | ok d => exact Or.inl ⟨rfl, rfl⟩
  document d := by
    rw [document?_ofResponse_eq_some_iff, document_eq_ok_iff]
    constructor
    · rintro ⟨hstatus, hbody⟩
      exact ⟨r, rfl, hstatus, hbody⟩
    · rintro ⟨_, ⟨⟩, hstatus, hbody⟩
      exact ⟨hstatus, hbody⟩
  unanswered h := absurd rfl (h r)
  answered := by
    rintro _ ⟨⟩
    exact ⟨rfl, openRosa_ofResponse_iff url r⟩
  message message hmessage := by
    unfold message? ofResponse at hmessage
    cases hdocument : document r with
    | error text =>
      rw [hdocument] at hmessage
      cases hmessage
      exact ⟨text, rfl⟩
    | ok d =>
      rw [hdocument] at hmessage
      cases hmessage
  broken := by
    rintro _ ⟨⟩ failure hfailure
    refine Option.eq_none_iff_forall_ne_some.mpr fun d hd => ?_
    obtain ⟨-, chunks, hchunks, -⟩ :=
      document_eq_ok_iff.mp (document?_ofResponse_eq_some_iff.mp hd)
    rw [hchunks] at hfailure
    obtain ⟨bytes, -, hbytes⟩ := List.mem_map.mp hfailure
    cases hbytes

/-- Every answer is classified. -/
theorem classified_ofAnswer (url : String) (answer : Except Failure (Option Response)) :
    (ofAnswer url answer).Classified url (some answer) := by
  rcases answer with failure | _ | r
  · exact classified_unanswered url failure.message fun r hr => by cases hr
  · exact classified_unanswered url _ fun r hr => by cases hr
  · exact classified_ofResponse url r

end Fetched

/-! ## Bodies that are cut in other places -/

namespace Session

/-- Answers that are the same but for where the chunks of a body end. -/
inductive SameButChunks : Except Failure (Option Response) → Except Failure (Option Response) → Prop
    where
  | failed (failure : Failure) : SameButChunks (.error failure) (.error failure)
  | silent : SameButChunks (.ok none) (.ok none)
  | answered {r r' : Response} (hstatus : r.status = r'.status) (hheaders : r.headers = r'.headers)
      (hbody : (r.body.getD []).arrived = (r'.body.getD []).arrived) :
      SameButChunks (.ok (some r)) (.ok (some r'))

theorem SameButChunks.ofAnswer_eq {answer answer' : Except Failure (Option Response)}
    (h : SameButChunks answer answer') (url : String) :
    Fetched.ofAnswer url answer = Fetched.ofAnswer url answer' := by
  cases h with
  | failed => rfl
  | silent => rfl
  | @answered r r' hstatus hheaders hbody =>
    have hcontent : r.content = r'.content := by
      rw [r.content_eq, r'.content_eq, Body.collect_eq, Body.collect_eq, hbody]
    simp only [Fetched.ofAnswer, Fetched.ofResponse, Fetched.document, OpenRosa.isOpenRosa, hstatus,
      hheaders, hcontent]

/-- A transport that answers every request with the same, perhaps in other chunks. -/
structure Rechunks {σ : Type} (p p' : Partners σ) : Prop where
  execute : ∀ r s, SameButChunks (p.execute r s).1 (p'.execute r s).1 ∧
    (p.execute r s).2 = (p'.execute r s).2
  ask : p.ask = p'.ask
  date : p.date = p'.date

theorem matched_self {store : Store} {targetUrl : String} (decision : Decision) :
    Matched Eq store store targetUrl decision decision := by
  cases decision with
  | cancel => exact .cancel
  | provide => exact .provide rfl

/-- A session does not notice where chunks end. -/
theorem Rechunks.twins {σ : Type} {p p' : Partners σ} (h : Rechunks p p')
    (settings : ServerSettings) (method : Method) (more : Headers) (url : String) :
    Twins p p' settings method more url Eq Eq SameButChunks where
  status := by
    intro answer answer' hsame
    cases hsame with
    | failed => rfl
    | silent => rfl
    | answered hstatus => exact congrArg some hstatus
  send := by
    rintro store _ s _ rfl rfl
    simp only [send, ← h.date]
    exact h.execute _ _
  ask := by
    rintro store _ s _ status rfl rfl
    simp only [← h.ask]
    exact ⟨matched_self _, trivial⟩

theorem Rechunks.run_eq {σ : Type} {p p' : Partners σ} (h : Rechunks p p')
    (settings : ServerSettings) (store : Store) (url : String) (s : σ) :
    Operation.fetch.run p settings store url s = Operation.fetch.run p' settings store url s := by
  obtain ⟨hresult, hstore, hstate⟩ :=
    (h.twins settings Operation.fetch.method Operation.fetch.fields url).run
      (fun hsame => hsame.ofAnswer_eq url) (Eq.refl store) (Eq.refl s)
  exact Prod.ext hresult (Prod.ext hstore hstate)

/-! ## The result -/

theorem Operation.run_fetch {σ : Type} (p : Partners σ) (settings : ServerSettings)
    (store : Store) (url : String) (s : σ) :
    Operation.fetch.run p settings store url s = Session.fetch p settings store url s := rfl

theorem classified_fetch {σ : Type} (p : Partners σ) (settings : ServerSettings) (store : Store)
    (url : String) (s : σ) :
    (fetch p settings store url s).1.Classified url
      (lastAnswer? (Operation.fetch.transcript p settings store url s)) := by
  cases hurl : validateUrl url with
  | error failure =>
    rw [Operation.transcript_of_invalid p settings store .fetch hurl, fetch, hurl]
    exact Fetched.classified_unanswered url _ fun r hr => by cases hr
  | ok address =>
    obtain ⟨answer, hanswer, hresult⟩ :=
      Operation.fetch.lastAnswer?_transcript p settings store hurl s
    rw [hanswer, ← Operation.run_fetch, hresult]
    exact Fetched.classified_ofAnswer url answer

/-- A fetch gives a document or a message, and what the transport answered last says which.

Without a proper address nothing is sent, and there is no last answer.  Without a response the code
is 0 and the server is not known as an OpenRosa server; with one its status and its first version
field say both.  There is a document exactly if the response has status 200 and a body without a
failing chunk whose bytes are a document.  A transport that delivers the same bytes in other chunks
makes no difference, and it may cut them anywhere. -/
theorem fetch_classified {σ : Type} (p : Partners σ) (settings : ServerSettings) (store : Store)
    (url : String) (s : σ) :
    (lastAnswer? (Operation.fetch.transcript p settings store url s) = none ↔
        ∃ failure, validateUrl url = .error failure) ∧
      (fetch p settings store url s).1.Classified url
        (lastAnswer? (Operation.fetch.transcript p settings store url s)) ∧
      (∀ p', Rechunks p p' → fetch p settings store url s = fetch p' settings store url s) ∧
      ∀ (chunks chunks' : List (List UInt8)) (rest : Body), chunks.flatten = chunks'.flatten →
        Body.arrived (chunks.map .ok ++ rest) = Body.arrived (chunks'.map .ok ++ rest) := by
  refine ⟨Operation.lastAnswer?_transcript_eq_none_iff p settings store .fetch s,
    classified_fetch p settings store url s, ?_, ?_⟩
  · intro p' h
    rw [← Operation.run_fetch, ← Operation.run_fetch]
    exact h.run_eq settings store url s
  · intro chunks chunks' rest h
    exact Body.arrived_congr h rest

/-- Partners with one response, which sends this body. -/
def delivering (body : Body) : Partners Unit where
  execute _ s := (.ok (some { status := 200, body := some body }), s)
  ask := denying
  date s := ("", s)

/-- The document `<é/>`, in one chunk and cut inside the letter. -/
theorem fetch_classified_cut :
    let bytes : List UInt8 := [0x3C, 0xC3, 0xA9, 0x2F, 0x3E]
    let cut : Body := [.ok [0x3C, 0xC3], .ok [0xA9, 0x2F, 0x3E]]
    Rechunks (delivering [.ok bytes]) (delivering cut) ∧
      fetch (delivering [.ok bytes]) formServer {} formList () =
        fetch (delivering cut) formServer {} formList () ∧
      (fetch (delivering cut) formServer {} formList ()).1.document?.isSome := by
  intro bytes cut
  obtain ⟨-, hclassified, hchunks, harrived⟩ :=
    fetch_classified (delivering [.ok bytes]) formServer {} formList ()
  have hsame : Body.arrived [.ok bytes] = Body.arrived cut :=
    harrived [bytes] [[0x3C, 0xC3], [0xA9, 0x2F, 0x3E]] [] rfl
  have hrechunks : Rechunks (delivering [.ok bytes]) (delivering cut) :=
    ⟨fun r s => ⟨.answered rfl rfl hsame, rfl⟩, rfl, rfl⟩
  have hlast : lastAnswer?
      (Operation.fetch.transcript (delivering [.ok bytes]) formServer {} formList ()) =
        some (.ok (some { status := 200, body := some [.ok bytes] })) := by
    rw [Operation.transcript, Operation.run_of_valid _ validate_formList]
    rfl
  have hparse : (Markup.Document.parse [bytes].flatten).isOk := by decide +kernel
  refine ⟨hrechunks, hchunks _ hrechunks, ?_⟩
  rw [← hchunks _ hrechunks]
  cases hd : Markup.Document.parse [bytes].flatten with
  | error fault =>
    rw [hd] at hparse
    cases hparse
  | ok d =>
    rw [(hclassified.document d).mpr ⟨_, hlast, rfl, [bytes], rfl, hd⟩]
    rfl

end Session

end FormFetch
