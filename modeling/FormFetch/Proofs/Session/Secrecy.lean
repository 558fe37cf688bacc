import FormFetch.Proofs.Session.Origin
import FormFetch.Proofs.Session.Transcript
import FormFetch.Proofs.Session.Twins

/-!
# Passwords are not seen

Two runs of a session that differ in passwords look the same: the results, the requests but for
their passwords, the questions, the store but for its passwords, and every report.

* `veiled` takes the passwords away.  Everything that a session does with its store goes through
  it, as the lemmas of the first group say.
* `Agree` says that the partners of two sessions see no difference either.  Then the sessions are
  twins (`Agree.twins`), and `Agree.take` carries this through a step.
* `moments` are the moments after the steps of a run, and `passwords_unseen` is the result.
* `agree_followingScript` is about partners that follow a script.
-/

namespace FormFetch

open Text Http Prompt

/-! ## Passwords taken away -/

/-- The same credentials without their password. -/
def Credentials.veiled (c : Credentials) : Credentials :=
  { c with password := "" }

@[simp] theorem Credentials.serverUrl_veiled (c : Credentials) :
    c.veiled.serverUrl = c.serverUrl := rfl

/-- The same decision without its password. -/
def Prompt.Decision.veiled : Decision → Decision
  | .provide username _ => .provide username ""
  | .cancel => .cancel

/-- The same request without its password. -/
def Http.Request.veiled (r : Request) : Request :=
  { r with credentials := r.credentials.veiled }

/-- The same store without its passwords. -/
def Store.veiled (store : Store) : Store :=
  { store with entries := store.entries.map Credentials.veiled }

theorem Prompt.reportCredentials_veiled (c : Credentials) :
    reportCredentials c.veiled = reportCredentials c := rfl

theorem Prompt.Decision.report_veiled (d : Decision) : d.veiled.report = d.report := by
  cases d with
  | provide => rfl
  | cancel => rfl

namespace Store

theorem insert_veiled (entry : Credentials) (entries : List Credentials) :
    (insert entry entries).map Credentials.veiled =
      insert entry.veiled (entries.map Credentials.veiled) := by
  induction entries with
  | nil => rfl
  | cons e rest ih =>
    have hentry := entry.serverUrl_veiled
    have he := e.serverUrl_veiled
    simp only [insert, List.map_cons, hentry, he]
    split
    · rfl
    · split
      · rfl
      · rw [List.map_cons, ih]

theorem set_veiled (store : Store) (address username password : String) :
    (store.set address username password).veiled = store.veiled.set address username "" := by
  simp only [veiled, set, insert_veiled]
  rfl

theorem contains_veiled (store : Store) (address : String) :
    store.veiled.contains address = store.contains address := by
  simp only [contains, veiled, List.any_map, Function.comp_def, Credentials.serverUrl_veiled]

theorem clear_veiled (store : Store) (address : String) :
    (store.clear address).veiled = store.veiled.clear address := by
  unfold clear
  rw [contains_veiled]
  split
  · simp only [veiled, List.filter_map, Function.comp_def, Credentials.serverUrl_veiled]
  · rfl

theorem longer_veiled (best : Option Credentials) (c : Credentials) :
    longer (best.map Credentials.veiled) c.veiled = (longer best c).map Credentials.veiled := by
  cases best with
  | none => rfl
  | some b =>
    have hb := b.serverUrl_veiled
    have hc := c.serverUrl_veiled
    simp only [longer, Option.map_some, hb, hc]
    split
    · rfl
    · rfl

theorem foldl_longer_veiled (best : Option Credentials) (entries : List Credentials) :
    (entries.map Credentials.veiled).foldl longer (best.map Credentials.veiled) =
      (entries.foldl longer best).map Credentials.veiled := by
  rw [List.foldl_map]
  exact List.foldl_hom _ longer_veiled

theorem find?_veiled (store : Store) (address : String) :
    store.veiled.find? address = (store.find? address).map Credentials.veiled := by
  simp only [find?, veiled, List.filter_map, Function.comp_def, Credentials.serverUrl_veiled]
  exact foldl_longer_veiled none _

theorem get_veiled (store : Store) (address : String) :
    store.veiled.get address = (store.get address).veiled := by
  rw [get, get, find?_veiled]
  cases store.find? (trimmed address) with
  | none => rfl
  | some c => rfl

theorem keys_veiled (store : Store) : store.veiled.keys = store.keys := by
  simp only [keys, veiled, List.map_map, Function.comp_def, Credentials.serverUrl_veiled]

theorem report_veiled (store : Store) : store.veiled.report = store.report := by
  unfold report
  rw [keys_veiled]

end Store

namespace Session

theorem report_veiled (settings : ServerSettings) (store : Store) :
    report settings store.veiled = report settings store := by
  unfold report
  rw [store.report_veiled]

theorem reportClient_veiled (settings : ServerSettings) (store : Store) :
    reportClient settings store.veiled = reportClient settings store := by
  unfold reportClient
  rw [report_veiled]

theorem question_veiled (store : Store) (serverUrl url : String) (status : Nat) :
    question store.veiled serverUrl url status = question store serverUrl url status := by
  simp only [question, prefill?, store.get_veiled]
  rfl

theorem request_veiled (settings : ServerSettings) (store : Store) (method : Method)
    (more : Headers) (url date : String) :
    request settings store.veiled method more url date =
      (request settings store method more url date).veiled := by
  simp only [request, store.get_veiled]
  rfl

/-- The same note without its password. -/
def Note.veiled : Note → Note
  | .sent r answer => .sent r.veiled answer
  | .asked q decision => .asked q decision.veiled

/-! ## Partners that see no difference -/

variable {σ τ : Type}

/-- Partners of two sessions that see no difference between passwords: the transports answer
requests in the same way that differ in their passwords, and the users give the same answers but
for the passwords.  `R` says when the partners remember the same. -/
structure Agree (p : Partners σ) (p' : Partners τ) (R : σ → τ → Prop) : Prop where
  execute : ∀ {r r' s t}, r.veiled = r'.veiled → R s t →
    (p.execute r s).1 = (p'.execute r' t).1 ∧ R (p.execute r s).2 (p'.execute r' t).2
  ask : ∀ q {s t}, R s t →
    (p.ask q s).1.veiled = (p'.ask q t).1.veiled ∧ R (p.ask q s).2 (p'.ask q t).2
  date : ∀ {s t}, R s t → (p.date s).1 = (p'.date t).1 ∧ R (p.date s).2 (p'.date t).2

variable {p : Partners σ} {p' : Partners τ} {R : σ → τ → Prop} {store store' : Store} {s : σ}
  {t : τ}

/-- With transcripts there is no difference in what the transcripts show without passwords. -/
theorem Agree.transcribing (h : Agree p p' R) :
    Agree (transcribing p) (transcribing p')
      fun s t => R s.1 t.1 ∧ s.2.map Note.veiled = t.2.map Note.veiled where
  execute := by
    rintro r r' ⟨s, notes⟩ ⟨t, notes'⟩ hr ⟨hs, hnotes⟩
    obtain ⟨hanswer, hafter⟩ := h.execute hr hs
    refine ⟨hanswer, hafter, ?_⟩
    simp only [Session.transcribing, List.map_append, List.map_cons, List.map_nil, Note.veiled, hr,
      hanswer]
    rw [hnotes]
  ask := by
    rintro q ⟨s, notes⟩ ⟨t, notes'⟩ ⟨hs, hnotes⟩
    obtain ⟨hdecision, hafter⟩ := h.ask q hs
    refine ⟨hdecision, hafter, ?_⟩
    simp only [Session.transcribing, List.map_append, List.map_cons, List.map_nil, Note.veiled,
      hdecision]
    rw [hnotes]
  date := by
    rintro ⟨s, notes⟩ ⟨t, notes'⟩ ⟨hs, hnotes⟩
    obtain ⟨hdate, hafter⟩ := h.date hs
    exact ⟨hdate, hafter, hnotes⟩

theorem Agree.send (h : Agree p p' R) (settings : ServerSettings)
    (hstore : store.veiled = store'.veiled) (method : Method) (more : Headers) (url : String)
    (hs : R s t) :
    (send p settings store method more url s).1 = (send p' settings store' method more url t).1 ∧
      R (send p settings store method more url s).2
        (send p' settings store' method more url t).2 := by
  obtain ⟨hdate, hafter⟩ := h.date hs
  refine h.execute ?_ hafter
  rw [hdate, ← request_veiled, ← request_veiled, hstore]

theorem matched_of_veiled_eq (hstore : store.veiled = store'.veiled) (targetUrl : String)
    {decision decision' : Decision} (h : decision.veiled = decision'.veiled) :
    Matched (fun store store' => store.veiled = store'.veiled) store store' targetUrl decision
      decision' := by
  cases decision with
  | cancel =>
    cases decision' with
    | cancel => exact .cancel
    | provide => cases h
  | provide username password =>
    cases decision' with
    | cancel => cases h
    | provide username' password' =>
      cases h
      refine .provide ?_
      rw [Store.set_veiled, Store.set_veiled, hstore]

/-- Sessions with such partners are twins: their stores differ in passwords, and their answers not
at all. -/
theorem Agree.twins (h : Agree p p' R) (settings : ServerSettings) (method : Method)
    (more : Headers) (url : String) :
    Twins p p' settings method more url (fun store store' => store.veiled = store'.veiled) R
      Eq where
  status := by
    rintro answer _ rfl
    rfl
  send hstore hs := h.send settings hstore method more url hs
  ask := by
    intro store store' s t status hstore hs
    -- The question shows no password, so both users are asked the same.
    have hquestion : question store' settings.serverUrl url status =
        question store settings.serverUrl url status := by
      rw [← question_veiled store', ← hstore, question_veiled]
    rw [hquestion]
    obtain ⟨hdecision, hasked⟩ := h.ask (question store settings.serverUrl url status) hs
    exact ⟨matched_of_veiled_eq hstore _ hdecision, hasked⟩

/-! ## Steps -/

/-- What a user of a session can do with it. -/
inductive Step where
  | act (action : Action)
  | lookup (url : String)
  deriving DecidableEq, Repr

/-- The same action without its password. -/
def Action.veiled : Action → Action
  | .set address username _ => .set address username ""
  | .clear address => .clear address
  | .perform op url => .perform op url

/-- The same step without its password. -/
def Step.veiled : Step → Step
  | .act action => .act action.veiled
  | .lookup url => .lookup url

/-- What a step gives. -/
inductive Given where
  | nothing
  /-- Whether there was something to forget. -/
  | cleared (was : Bool)
  | found (c : Credentials)
  | performed (op : Operation) (result : op.Result)

/-- The same without the password of credentials. -/
def Given.veiled : Given → Given
  | .found c => .found c.veiled
  | given => given

/-- The moment after a step: what the step gave and what was said in its course, and the session
then. -/
structure Moment (σ : Type) where
  given : Given
  notes : List Note
  store : Store
  state : σ

/-- The moment after a step. -/
def Step.take (p : Partners σ) (settings : ServerSettings) (store : Store) (s : σ) :
    Step → Moment σ
  | .act (.set address username password) =>
    ⟨.nothing, [], store.set address username password, s⟩
  | .act (.clear address) => ⟨.cleared (store.contains address), [], store.clear address, s⟩
  | .act (.perform op url) =>
    let after := op.run (transcribing p) settings store url (s, [])
    ⟨.performed op after.1, after.2.2.2, after.2.1, after.2.2.1⟩
  | .lookup url => ⟨.found (store.get url), [], store, s⟩

/-- The moments after the steps of a run. -/
def moments (p : Partners σ) (settings : ServerSettings) :
    List Step → Store → σ → List (Moment σ)
  | [], _, _ => []
  | step :: rest, store, s =>
    let now := step.take p settings store s
    now :: moments p settings rest now.store now.state

/-- What a moment shows without passwords. -/
def Moment.veiled (now : Moment σ) : Moment Unit where
  given := now.given.veiled
  notes := now.notes.map Note.veiled
  store := now.store.veiled
  state := ()

/-- The reports of what a step gives. -/
def Given.reports : Given → List String
  | .found c => [reportCredentials c]
  | _ => []

/-- The reports of what a note speaks of. -/
def Note.reports : Note → List String
  | .sent r _ => [reportCredentials r.credentials]
  | .asked _ decision => [decision.report]

/-- The reports that can be made at a moment: of the store, its credentials, the session and its
client, and of all credentials and decisions that the step has dealt with. -/
def Moment.reports (settings : ServerSettings) (now : Moment σ) : List String :=
  [now.store.report, report settings now.store, reportClient settings now.store] ++
    now.store.entries.map reportCredentials ++ now.given.reports ++
    now.notes.flatMap Note.reports

/-- No report shows a password. -/
theorem Moment.reports_veiled (settings : ServerSettings) (now : Moment σ) :
    now.veiled.reports settings = now.reports settings := by
  have hentries : now.store.veiled.entries.map reportCredentials =
      now.store.entries.map reportCredentials := by
    simp only [Store.veiled, List.map_map, Function.comp_def, reportCredentials_veiled]
  have hgiven : now.given.veiled.reports = now.given.reports := by
    cases now.given with
    | nothing => rfl
    | cleared => rfl
    | found => rfl
    | performed => rfl
  have hnotes : (now.notes.map Note.veiled).flatMap Note.reports =
      now.notes.flatMap Note.reports := by
    rw [List.flatMap_map]
    refine congrArg (List.flatMap · now.notes) (funext fun note => ?_)
    cases note with
    | sent => rfl
    | asked q decision => simp only [Note.reports, Note.veiled, Decision.report_veiled]
  simp only [reports, veiled, Store.report_veiled, report_veiled, reportClient_veiled, hentries,
    hgiven, hnotes]

/-- Two steps that differ in passwords store the same username, or do not differ. -/
theorem Step.eq_or_set_of_veiled_eq {step step' : Step} (h : step.veiled = step'.veiled) :
    step = step' ∨ ∃ address username password password',
      step = .act (.set address username password) ∧
        step' = .act (.set address username password') := by
  rcases step with (⟨address, username, password⟩ | address | ⟨op, url⟩) | url <;>
    rcases step' with (⟨address', username', password'⟩ | address' | ⟨op', url'⟩) | url' <;>
    cases h
  case act.set.act.set.refl => exact Or.inr ⟨address, username, password, password', rfl, rfl⟩
  all_goals exact Or.inl rfl

/-- Steps that differ in passwords look the same, and the partners still remember the same. -/
theorem Agree.take (h : Agree p p' R) (settings : ServerSettings)
    (hstore : store.veiled = store'.veiled) {step step' : Step}
    (hstep : step.veiled = step'.veiled) (hs : R s t) :
    (step.take p settings store s).veiled = (step'.take p' settings store' t).veiled ∧
      R (step.take p settings store s).state (step'.take p' settings store' t).state := by
  rcases Step.eq_or_set_of_veiled_eq hstep with
    rfl | ⟨address, username, password, password', rfl, rfl⟩
  · cases step with
    | act action =>
      cases action with
      | set address username password =>
        refine ⟨?_, hs⟩
        simp only [Step.take, Moment.veiled, Store.set_veiled, hstore]
      | clear address =>
        have hcontains : store.contains address = store'.contains address := by
          rw [← store.contains_veiled, hstore, Store.contains_veiled]
        refine ⟨?_, hs⟩
        simp only [Step.take, Moment.veiled, Store.clear_veiled, hcontains, hstore]
      | perform op url =>
        have hsilent : R (s, ([] : List Note)).1 (t, ([] : List Note)).1 ∧
            ([] : List Note).map Note.veiled = ([] : List Note).map Note.veiled := ⟨hs, rfl⟩
        obtain ⟨hresult, hkept, hafter, hnotes⟩ :=
          (h.transcribing.twins settings op.method op.fields url).run
            (congrArg (op.ofAnswer url)) hstore hsilent
        refine ⟨?_, hafter⟩
        simp only [Step.take, Moment.veiled, hresult, hkept, hnotes]
    | lookup url =>
      refine ⟨?_, hs⟩
      simp only [Step.take, Moment.veiled, Given.veiled, ← Store.get_veiled, hstore]
  · refine ⟨?_, hs⟩
    simp only [Step.take, Moment.veiled, Store.set_veiled, hstore]

/-! ## The result -/

/-- Passwords are not seen.

Take two sessions with the same settings whose stores, whose steps and whose users' decisions
differ in passwords only, and whose transports answer in the same way.  After every step both have
given the same and sent the same requests but for the passwords, both users have been asked the same
questions, the stores hold the same keys and usernames after the same number of changes, and all
reports are the same. -/
theorem passwords_unseen {σ τ : Type} {p : Partners σ} {p' : Partners τ} {R : σ → τ → Prop}
    (h : Agree p p' R) (settings : ServerSettings) {store store' : Store}
    (hstore : store.veiled = store'.veiled) {steps steps' : List Step}
    (hsteps : steps.map Step.veiled = steps'.map Step.veiled) {s : σ} {t : τ} (hs : R s t) :
    (moments p settings steps store s).map Moment.veiled =
        (moments p' settings steps' store' t).map Moment.veiled ∧
      (moments p settings steps store s).map (Moment.reports settings) =
        (moments p' settings steps' store' t).map (Moment.reports settings) := by
  have hveiled : (moments p settings steps store s).map Moment.veiled =
      (moments p' settings steps' store' t).map Moment.veiled := by
    induction steps generalizing steps' store store' s t with
    | nil =>
      cases steps' with
      | nil => rfl
      | cons => cases hsteps
    | cons step rest ih =>
      cases steps' with
      | nil => cases hsteps
      | cons step' rest' =>
        obtain ⟨hstep, hrest⟩ := List.cons_eq_cons.mp hsteps
        obtain ⟨hnow, hstate⟩ := h.take settings hstore hstep hs
        simp only [moments, List.map_cons, hnow]
        rw [ih (congrArg Moment.store hnow) hrest hstate]
  refine ⟨hveiled, ?_⟩
  have hreports := congrArg (List.map (Moment.reports settings)) hveiled
  simpa only [List.map_map, Function.comp_def, Moment.reports_veiled] using hreports

/-! ## Partners that follow a script -/

/-- What partners are going to say. -/
structure Script where
  replies : List (Except Failure (Option Response))
  decisions : List Decision
  dates : List String

/-- Partners that follow a script.  The transport answers proper requests one after the other, and
the last reply again and again. -/
def followingScript : Partners Script where
  execute r script :=
    match r.validate, script.replies with
    | .error failure, _ => (.error failure, script)
    | .ok _, [] => (.ok none, script)
    | .ok _, [reply] => (reply, script)
    | .ok _, reply :: replies => (reply, { script with replies })
  ask q script :=
    let answer := Prompt.scripted q script.decisions
    (answer.1, { script with decisions := answer.2 })
  date script := (script.dates.headD "", { script with dates := script.dates.tail })

/-- The same script without its passwords. -/
def Script.veiled (script : Script) : Script :=
  { script with decisions := script.decisions.map Decision.veiled }

theorem validate_eq_of_veiled_eq {r r' : Request} (h : r.veiled = r'.veiled) :
    r.validate = r'.validate := by
  simp only [Request.veiled, Request.mk.injEq] at h
  obtain ⟨-, hurl, -, -, htimeout, -⟩ := h
  rw [Request.validate, Request.validate, hurl, htimeout]

/-- Scripts that differ in passwords are followed without a difference. -/
theorem agree_followingScript :
    Agree followingScript followingScript fun script script' => script.veiled = script'.veiled where
  execute := by
    rintro r r' ⟨replies, decisions, dates⟩ ⟨replies', decisions', dates'⟩ hr hs
    simp only [Script.veiled, Script.mk.injEq] at hs
    obtain ⟨rfl, hdecisions, rfl⟩ := hs
    simp only [followingScript, validate_eq_of_veiled_eq hr]
    cases r'.validate with
    | error failure => simp [Script.veiled, hdecisions]
    | ok url =>
      rcases replies with _ | ⟨reply, _ | ⟨next, replies⟩⟩ <;> simp [Script.veiled, hdecisions]
  ask := by
    rintro q ⟨replies, decisions, dates⟩ ⟨replies', decisions', dates'⟩ hs
    simp only [Script.veiled, Script.mk.injEq] at hs
    obtain ⟨rfl, hdecisions, rfl⟩ := hs
    cases decisions with
    | nil =>
      cases decisions' with
      | nil => exact ⟨rfl, rfl⟩
      | cons => cases hdecisions
    | cons decision rest =>
      cases decisions' with
      | nil => cases hdecisions
      | cons decision' rest' =>
        obtain ⟨hdecision, hrest⟩ := List.cons_eq_cons.mp hdecisions
        refine ⟨hdecision, ?_⟩
        simp only [Script.veiled, followingScript, Prompt.scripted, hrest]
  date := by
    rintro ⟨replies, decisions, dates⟩ ⟨replies', decisions', dates'⟩ hs
    simp only [Script.veiled, Script.mk.injEq] at hs
    obtain ⟨rfl, hdecisions, rfl⟩ := hs
    simp only [followingScript, Script.veiled, hdecisions, and_self]

/-- A server that refuses once, and a user with a password. -/
def refusedScript (password : String) : Script where
  replies := [.ok (some { status := 401 }), .ok (some { status := 200 })]
  decisions := [.provide "alice" password]
  dates := []

/-- A session that stores a password, fetches a document and looks up what is kept for it. -/
def storedSteps (password : String) : List Step :=
  [.act (.set "http://forms.example/v1" "bob" password), .act (.perform .fetch formList),
    .lookup "http://forms.example"]

/-- Two such sessions look the same, although they hold different passwords. -/
theorem passwords_unseen_storedSteps :
    let now := moments followingScript formServer (storedSteps "old") {} (refusedScript "s3cret")
    let now' := moments followingScript formServer (storedSteps "new") {} (refusedScript "t0p")
    now.map Moment.veiled = now'.map Moment.veiled ∧
      now.map (Moment.reports formServer) = now'.map (Moment.reports formServer) ∧
      now.map Moment.store ≠ now'.map Moment.store := by
  intro now now'
  have hstore : Store.veiled {} = Store.veiled {} := rfl
  have hsteps : (storedSteps "old").map Step.veiled = (storedSteps "new").map Step.veiled := rfl
  have hscript : (refusedScript "s3cret").veiled = (refusedScript "t0p").veiled := rfl
  obtain ⟨hveiled, hreports⟩ :=
    passwords_unseen agree_followingScript formServer hstore hsteps hscript
  refine ⟨hveiled, hreports, ?_⟩
  decide +kernel

end Session

end FormFetch
