import FormFetch.Proofs.Credentials.Revision
import FormFetch.Proofs.Http.Fields
import FormFetch.Proofs.Session.Turns

/-!
# The course of an operation

What a fetch or a probe does, whatever the transport and the user answer.

* `Operation.Course` lists the four courses of an operation, and `Operation.course` says
  that every operation takes one of them.
* `Operation.exists_edits`: an operation edits the store once at most.
* `Operation.Course.askedCount_eq_one_iff` and `sentCount_eq_two_iff` say when the user is
  asked and when the request is repeated.
* `challenge_bound` is the result.
-/

namespace FormFetch

open Text Http Prompt

/-! ## Repeated requests and changed stores -/

/-- A request once more: at another time, with other credentials, and else the same. -/
structure Http.Request.Repeats (first second : Request) : Prop where
  method : second.method = first.method
  url : second.url = first.url
  headers : second.headers.erase "date" = first.headers.erase "date"
  timeout : second.timeout = first.timeout
  body : second.body = first.body

/-- A store after a change: one more revision, and at one key this username and this password.
What is kept under the other keys stays. -/
structure Store.ChangedAt (key username password : String) (store after : Store) : Prop where
  revision : after.revision = store.revision + 1
  entries : ∀ c, c ∈ after.entries ↔
    c = ⟨key, username, password⟩ ∨ c ∈ store.entries ∧ c.serverUrl ≠ key

theorem Store.Ordered.changedAt {store : Store} (h : store.Ordered)
    (address username password : String) :
    ChangedAt (addressKey address) username password store
      (store.set address username password) where
  revision := rfl
  entries _ := mem_insert_iff h

namespace Session

theorem fields_requestHeaders (date : String) :
    (OpenRosa.requestHeaders date).fields =
      [("x-openrosa-version", Utf8.bytes OpenRosa.version), ("date", Utf8.bytes date)] := by
  have hversion : lower OpenRosa.versionField = "x-openrosa-version" := by decide +kernel
  have hdate : lower "date" = "date" := by decide +kernel
  simp [OpenRosa.requestHeaders, Headers.insert, Headers.erase, Headers.append, hversion, hdate]

theorem request_repeats (settings : ServerSettings) (store after : Store) (method : Method)
    (more : Headers) (url date date' : String) :
    (request settings store method more url date).Repeats
      (request settings after method more url date') where
  method := rfl
  url := rfl
  headers := by
    refine Headers.erase_insertAll_congr more ?_
    show (Headers.insertAll {} (OpenRosa.requestHeaders date')).erase "date" =
      (Headers.insertAll {} (OpenRosa.requestHeaders date)).erase "date"
    rw [Headers.insertAll, Headers.insertAll, fields_requestHeaders, fields_requestHeaders]
    simp only [List.foldl_cons, List.foldl_nil, Headers.erase_insert, if_true]
  timeout := rfl
  body := rfl

variable {σ : Type}

/-! ## Courses -/

namespace Operation

/-- What an operation gives. -/
def Result : Operation → Type
  | fetch => Fetched
  | probe => Except Failure Probed

/-- What an operation makes of an answer. -/
def ofAnswer (op : Operation) (url : String) (answer : Except Failure (Option Response)) :
    op.Result :=
  match op with
  | fetch => Fetched.ofAnswer url answer
  | probe => Probed.ofAnswer url answer

/-- An operation of a session: its result, and the store and the partners after it. -/
def run (op : Operation) (p : Partners σ) (settings : ServerSettings) (store : Store)
    (url : String) (s : σ) : op.Result × Store × σ :=
  match op with
  | fetch => Session.fetch p settings store url s
  | probe => Session.probe p settings store url s

variable {p : Partners σ} {settings : ServerSettings} {store : Store} {url : String} {s : σ}

theorem run_of_valid (op : Operation) {address : Url} (h : validateUrl url = .ok address) :
    op.run p settings store url s =
      (op.ofAnswer url (exchange p settings store op.method op.fields url s).answer,
        (exchange p settings store op.method op.fields url s).store,
        (exchange p settings store op.method op.fields url s).state) := by
  cases op with
  | fetch =>
    simp only [run, Session.fetch, h]
    rfl
  | probe =>
    simp only [run, Session.probe, h]
    rfl

theorem run_of_invalid (op : Operation) {failure : Failure}
    (h : validateUrl url = .error failure) :
    op.run p settings store url s = (op.ofAnswer url (.error failure), store, s) := by
  cases op with
  | fetch =>
    simp only [run, Session.fetch, h]
    rfl
  | probe =>
    simp only [run, Session.probe, h]
    rfl

theorem log_of_invalid (op : Operation) {failure : Failure}
    (h : validateUrl url = .error failure) : op.log p settings store url s = [] := by
  cases op with
  | fetch => simp [log, Session.fetch, h]
  | probe => simp [log, Session.probe, h]

/-- What partners remember beside changes nothing of an operation. -/
theorem run_of_follows {τ : Type} {p' : Partners τ} {view : τ → σ} (h : Follows p' p view)
    (op : Operation) (settings : ServerSettings) (store : Store) (url : String) (t : τ) :
    op.run p settings store url (view t) =
      ((op.run p' settings store url t).1, (op.run p' settings store url t).2.1,
        view (op.run p' settings store url t).2.2) := by
  cases hurl : validateUrl url with
  | error failure => rw [run_of_invalid op hurl, run_of_invalid op hurl]
  | ok address =>
    rw [run_of_valid op hurl, run_of_valid op hurl, h.exchange]

/-- The request that an operation starts with. -/
def firstRequest (op : Operation) (p : Partners σ) (settings : ServerSettings) (store : Store)
    (url : String) (s : σ) : Request :=
  request settings store op.method op.fields url (p.date s).1

/-- The answer to it, and the partners after it. -/
def firstAnswer (op : Operation) (p : Partners σ) (settings : ServerSettings) (store : Store)
    (url : String) (s : σ) : Except Failure (Option Response) × σ :=
  p.execute (op.firstRequest p settings store url s) (p.date s).2

variable (p settings store url s)

/-- The four courses of an operation: the log, the result, and the store and the partners after
it. -/
inductive Course (op : Operation) : List Event → op.Result → Store → σ → Prop where
  /-- No proper address: nothing is done. -/
  | rejected {failure : Failure} (hurl : validateUrl url = .error failure) :
      Course op [] (op.ofAnswer url (.error failure)) store s
  /-- The first answer is no refusal. -/
  | answered {address : Url} {answer : Except Failure (Option Response)} {s₁ : σ}
      (hurl : validateUrl url = .ok address)
      (hanswer : op.firstAnswer p settings store url s = (answer, s₁))
      (hlast : isRefusal answer = false) :
      Course op [.sent (op.firstRequest p settings store url s)] (op.ofAnswer url answer) store s₁
  /-- The user leaves it at the refusal. -/
  | cancelled {address : Url} {response : Response} {q : Question} {s₁ s₂ : σ}
      (hurl : validateUrl url = .ok address)
      (hanswer : op.firstAnswer p settings store url s = (.ok (some response), s₁))
      (hstatus : response.status = 401 ∨ response.status = 403)
      (hquestion : q = question store settings.serverUrl url response.status)
      (hask : p.ask q s₁ = (.cancel, s₂)) :
      Course op [.sent (op.firstRequest p settings store url s), .asked q]
        (op.ofAnswer url (.ok (some response))) store s₂
  /-- The user gives credentials: they are stored, and the request is repeated.  Its answer is the
  last one, be it a refusal or a failure. -/
  | repeated {address : Url} {response : Response} {q : Question} {s₁ s₂ s₃ : σ}
      {username password : String} {after : Store} {again : Request}
      {answer : Except Failure (Option Response)}
      (hurl : validateUrl url = .ok address)
      (hanswer : op.firstAnswer p settings store url s = (.ok (some response), s₁))
      (hstatus : response.status = 401 ∨ response.status = 403)
      (hquestion : q = question store settings.serverUrl url response.status)
      (hask : p.ask q s₁ = (.provide username password, s₂))
      (hafter : Store.ChangedAt (addressKey q.targetUrl) username password store after)
      (hrepeats : (op.firstRequest p settings store url s).Repeats again)
      (hcredentials : again.credentials = after.get url)
      (hagain : p.execute again (p.date s₂).2 = (answer, s₃)) :
      Course op [.sent (op.firstRequest p settings store url s), .asked q, .sent again]
        (op.ofAnswer url answer) after s₃

variable {p settings store url s}

theorem isChallenge_iff {status : Nat} :
    isChallenge status = true ↔ status = 401 ∨ status = 403 := by
  simp [isChallenge]

/-- Every operation takes one of the courses. -/
theorem course (op : Operation) (hstore : store.Reachable) :
    op.Course p settings store url s (op.log p settings store url s)
      (op.run p settings store url s).1 (op.run p settings store url s).2.1
      (op.run p settings store url s).2.2 := by
  cases hurl : validateUrl url with
  | error failure =>
    rw [log_of_invalid op hurl, run_of_invalid op hurl]
    exact .rejected hurl
  | ok address =>
    rw [log_of_valid op p settings store hurl, run_of_valid op hurl]
    rcases exchange_cases p settings store op.method op.fields url s with
      ⟨answer, s₁, hsend, hlast⟩ |
        ⟨response, s₁, s₂, hsend, hstatus, hask | ⟨username, password, hask⟩⟩
    · have hnoted : send (recording p) settings store op.method op.fields url (s, []) =
          (answer, s₁, [.sent (op.firstRequest p settings store url s)]) := by
        rw [send_recording, hsend]
        rfl
      rw [exchange_of_answered hsend hlast, exchange_of_answered hnoted hlast]
      exact .answered hurl hsend hlast
    · have hnoted : send (recording p) settings store op.method op.fields url (s, []) =
          (.ok (some response), s₁, [.sent (op.firstRequest p settings store url s)]) := by
        rw [send_recording, hsend]
        rfl
      have hnotedAsk : (recording p).ask (question store settings.serverUrl url response.status)
          (s₁, [.sent (op.firstRequest p settings store url s)]) =
          (.cancel, s₂, [.sent (op.firstRequest p settings store url s),
            .asked (question store settings.serverUrl url response.status)]) := by
        simp only [recording, hask]
        rfl
      rw [exchange_of_cancel hsend hstatus hask, exchange_of_cancel hnoted hstatus hnotedAsk]
      exact .cancelled hurl hsend (isChallenge_iff.mp hstatus) rfl hask
    · rw [log_exchange_provide hsend hstatus hask, exchange_of_provide hsend hstatus hask]
      refine .repeated hurl hsend (isChallenge_iff.mp hstatus) rfl hask ?_
        (request_repeats ..) rfl rfl
      rw [targetUrl_question]
      exact hstore.ordered.changedAt _ username password

/-- An operation edits the store once at most. -/
theorem exists_edits (op : Operation) (p : Partners σ) (settings : ServerSettings) (store : Store)
    (url : String) (s : σ) :
    ∃ edits : List Store.Edit, edits.length ≤ 1 ∧
      (op.run p settings store url s).2.1 = store.edited edits := by
  have hnone : ∃ edits : List Store.Edit, edits.length ≤ 1 ∧ store = store.edited edits :=
    ⟨[], Nat.zero_le 1, rfl⟩
  cases hurl : validateUrl url with
  | error failure =>
    rw [run_of_invalid op hurl]
    exact hnone
  | ok address =>
    rw [run_of_valid op hurl]
    rcases exchange_cases p settings store op.method op.fields url s with
      ⟨answer, s₁, hsend, hlast⟩ |
        ⟨response, s₁, s₂, hsend, hstatus, hask | ⟨username, password, hask⟩⟩
    · rw [exchange_of_answered hsend hlast]
      exact hnone
    · rw [exchange_of_cancel hsend hstatus hask]
      exact hnone
    · rw [exchange_of_provide hsend hstatus hask]
      exact ⟨[.set _ username password], Nat.le_refl 1, rfl⟩

/-- An operation leaves a store that comes about by the operations on stores. -/
theorem reachable_run (op : Operation) (hstore : store.Reachable) :
    (op.run p settings store url s).2.1.Reachable := by
  obtain ⟨edits, -, hafter⟩ := op.exists_edits p settings store url s
  rw [hafter]
  exact hstore.edited edits

end Operation

/-! ## The result -/

/-- The number of requests in a log. -/
def sentCount (log : List Event) : Nat :=
  log.countP fun
    | .sent _ => true
    | .asked _ => false

/-- The number of questions in a log. -/
def askedCount (log : List Event) : Nat :=
  log.countP fun
    | .sent _ => false
    | .asked _ => true

section Counts

variable {op : Operation} {p : Partners σ} {settings : ServerSettings} {store after : Store}
  {url : String} {s s' : σ} {log : List Event} {result : op.Result}

theorem Operation.Course.counts (h : op.Course p settings store url s log result after s') :
    sentCount log ≤ 2 ∧ askedCount log ≤ 1 := by
  cases h with
  | rejected => decide
  | answered => exact ⟨Nat.le_succ 1, Nat.zero_le 1⟩
  | cancelled => exact ⟨Nat.le_succ 1, Nat.le_refl 1⟩
  | repeated => exact ⟨Nat.le_refl 2, Nat.le_refl 1⟩

/-- The user is asked exactly if the first answer is a refusal. -/
theorem Operation.Course.askedCount_eq_one_iff
    (h : op.Course p settings store url s log result after s') :
    askedCount log = 1 ↔ (∃ address, validateUrl url = .ok address) ∧
      isRefusal (op.firstAnswer p settings store url s).1 = true := by
  cases h with
  | rejected hurl =>
    constructor
    · intro hcount
      cases hcount
    · rintro ⟨⟨address, haddress⟩, -⟩
      rw [hurl] at haddress
      cases haddress
  | answered hurl hanswer hlast =>
    constructor
    · intro hcount
      cases hcount
    · rintro ⟨-, hrefusal⟩
      rw [hanswer, hlast] at hrefusal
      cases hrefusal
  | cancelled hurl hanswer hstatus hquestion hask =>
    refine ⟨fun _ => ⟨⟨_, hurl⟩, ?_⟩, fun _ => rfl⟩
    rw [hanswer]
    exact isChallenge_iff.mpr hstatus
  | repeated hurl hanswer hstatus hquestion hask hafter hrepeats hcredentials hagain =>
    refine ⟨fun _ => ⟨⟨_, hurl⟩, ?_⟩, fun _ => rfl⟩
    rw [hanswer]
    exact isChallenge_iff.mpr hstatus

/-- The request is repeated exactly if the user is asked and gives credentials. -/
theorem Operation.Course.sentCount_eq_two_iff
    (h : op.Course p settings store url s log result after s') :
    sentCount log = 2 ↔ ∃ q username password, .asked q ∈ log ∧
      (p.ask q (op.firstAnswer p settings store url s).2).1 = .provide username password := by
  cases h with
  | rejected hurl =>
    constructor
    · intro hcount
      cases hcount
    · rintro ⟨q, username, password, hmem, -⟩
      cases hmem
  | answered hurl hanswer hlast =>
    constructor
    · intro hcount
      cases hcount
    · rintro ⟨q, username, password, hmem, -⟩
      simp at hmem
  | @cancelled address response q s₁ s₂ hurl hanswer hstatus hquestion hask =>
    constructor
    · intro hcount
      cases hcount
    · rintro ⟨q', username, password, hmem, hprovide⟩
      have hq : q' = q := by simpa using hmem
      rw [hanswer, hq, hask] at hprovide
      cases hprovide
  | @repeated address response q s₁ s₂ s₃ username password after again answer hurl hanswer
      hstatus hquestion hask hafter hrepeats hcredentials hagain =>
    refine ⟨fun _ => ⟨q, username, password, ?_, ?_⟩, fun _ => rfl⟩
    · exact List.mem_cons_of_mem _ (List.mem_cons_self ..)
    · rw [hanswer, hask]

end Counts

/-- What an operation does is bounded, whatever the partners do.

It takes one of the four courses, so that it sends two requests at most and asks once at most: it
asks exactly if the first answer is a refusal, and repeats exactly if the user gives credentials.
The same holds of passes without a bound: they end, and with the same.  The only change of the store
is the one for the user's answer: a cancelled question, another refusal and every failure end the
last pass, and this pass leaves the store as it found it.  And of the refusals that one handler is
given only the first one asks, stores or leads to another request. -/
theorem challenge_bound (p : Partners σ) (settings : ServerSettings) {store : Store}
    (hstore : store.Reachable) :
    (∀ (op : Operation) (url : String) (s : σ),
      op.Course p settings store url s (op.log p settings store url s)
          (op.run p settings store url s).1 (op.run p settings store url s).2.1
          (op.run p settings store url s).2.2 ∧
        (sentCount (op.log p settings store url s) ≤ 2 ∧
          askedCount (op.log p settings store url s) ≤ 1) ∧
        (askedCount (op.log p settings store url s) = 1 ↔
          (∃ address, validateUrl url = .ok address) ∧
            isRefusal (op.firstAnswer p settings store url s).1 = true) ∧
        (sentCount (op.log p settings store url s) = 2 ↔
          ∃ q username password, .asked q ∈ op.log p settings store url s ∧
            (p.ask q (op.firstAnswer p settings store url s).2).1 =
              .provide username password)) ∧
    (∀ (method : Method) (more : Headers) (url : String) (s : σ) (ending : Ending σ),
      Loops p settings method more url { store } s ending ↔
        ending = exchange p settings store method more url s) ∧
    (∀ (method : Method) (more : Headers) (url : String) (h : Handler) (s : σ)
        (ending : Ending σ),
      turn p settings method more url h s = .finished ending → ending.store = h.store) ∧
    ∀ (url : String) (status : Nat) (later : List (String × Nat)) (s : σ),
      (∃ username password s', p.ask (question store settings.serverUrl url status) s =
          (.provide username password, s') ∧
        onChallenges p.ask settings.serverUrl { store } ((url, status) :: later) s =
          (.retry :: List.replicate later.length .abandon,
            ⟨if later = [] then .retrying else .abandoned,
              store.set (target settings.serverUrl url).1 username password⟩, s')) ∨
      ∃ s', p.ask (question store settings.serverUrl url status) s = (.cancel, s') ∧
        onChallenges p.ask settings.serverUrl { store } ((url, status) :: later) s =
          (.abandon :: List.replicate later.length .abandon, ⟨.abandoned, store⟩, s') := by
  refine ⟨?_, ?_, ?_, ?_⟩
  · intro op url s
    have hcourse : op.Course p settings store url s _ _ _ _ := op.course hstore
    exact ⟨hcourse, hcourse.counts, hcourse.askedCount_eq_one_iff, hcourse.sentCount_eq_two_iff⟩
  · intro method more url s ending
    exact loops_iff
  · intro method more url h s ending hturn
    exact store_of_finished hturn
  · intro url status later s
    exact onChallenges_new store url status later s

/-- A server that refuses once: it takes the course with the question, which the user answers. -/
theorem challenge_bound_formList :
    let p := answering "alice" "s3cret"
    Store.Reachable {} ∧
      (∃ first q again, Operation.fetch.log p formServer {} formList refusedOnce =
          [.sent first, .asked q, .sent again] ∧ first.Repeats again) ∧
      Store.ChangedAt "http://forms.example" "alice" "s3cret" {}
        (Operation.fetch.run p formServer {} formList refusedOnce).2.1 := by
  intro p
  obtain ⟨hcourses, -⟩ := challenge_bound p formServer Store.Reachable.new
  obtain ⟨hcourse, -⟩ := hcourses .fetch formList refusedOnce
  refine ⟨Store.Reachable.new, ?_⟩
  generalize hlog : Operation.fetch.log p formServer {} formList refusedOnce = log at hcourse ⊢
  generalize hrun : Operation.fetch.run p formServer {} formList refusedOnce = ran at hcourse ⊢
  obtain ⟨result, after, s'⟩ := ran
  cases hcourse with
  | rejected hurl =>
    rw [validate_formList] at hurl
    cases hurl
  | answered hurl hanswer hlast =>
    cases hanswer
    cases hlast
  | cancelled hurl hanswer hstatus hquestion hask => cases hask
  | repeated hurl hanswer hstatus hquestion hask hafter hrepeats hcredentials hagain =>
    cases hask
    refine ⟨⟨_, _, _, rfl, hrepeats⟩, ?_⟩
    have hkey : addressKey (question {} formServer.serverUrl formList 401).targetUrl =
        "http://forms.example" := by
      decide +kernel
    cases hanswer
    rw [hquestion, hkey] at hafter
    exact hafter

end Session

end FormFetch
