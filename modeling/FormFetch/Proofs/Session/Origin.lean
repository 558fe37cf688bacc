import FormFetch.Proofs.Credentials.Origin
import FormFetch.Proofs.Session.Course

/-!
# Credentials and origins

A session sends credentials to the origin that they were given for, and to no other.

* `Journal` is a session with what bears on its credentials: what the caller stores, what
  the user answers and what is sent.
* `Backed` and `Rightful` are the invariant of its store and of its requests, which every
  action keeps (`Journal.Sound.act`).
* `sent_to_origin` is the result for whole runs.
-/

namespace FormFetch.Session

open Text Http Prompt

/-! ## Sessions with a journal -/

/-- What bears on the credentials of a session. -/
inductive Deed where
  | stored (c : Credentials)
  | answered (q : Question) (username password : String)
  | sent (r : Request)
  deriving DecidableEq, Repr

/-- The credentials that are given, with the address that they are given for. -/
def Deed.given? : Deed → Option Credentials
  | .stored c => some c
  | .answered q username password => some ⟨q.targetUrl, username, password⟩
  | .sent _ => none

/-- All credentials that are given. -/
def givenIn (deeds : List Deed) : List Credentials :=
  deeds.filterMap Deed.given?

/-- What a user's decision adds to a journal. -/
def deedsOf (q : Question) : Decision → List Deed
  | .provide username password => [.answered q username password]
  | .cancel => []

section Journals

variable {σ : Type}

/-- The same partners, and a journal of what they are given and what they answer. -/
def journaling (p : Partners σ) : Partners (σ × List Deed) where
  execute r s := ((p.execute r s.1).1, (p.execute r s.1).2, s.2 ++ [.sent r])
  ask q s := ((p.ask q s.1).1, (p.ask q s.1).2, s.2 ++ deedsOf q (p.ask q s.1).1)
  date s := ((p.date s.1).1, (p.date s.1).2, s.2)

theorem deeds_of_execute {p : Partners σ} {r : Request} {s s' : σ × List Deed}
    {answer : Except Failure (Option Response)} (h : (journaling p).execute r s = (answer, s')) :
    s'.2 = s.2 ++ [.sent r] := by
  cases h
  rfl

theorem deeds_of_ask {p : Partners σ} {q : Question} {s s' : σ × List Deed}
    {decision : Decision} (h : (journaling p).ask q s = (decision, s')) :
    s'.2 = s.2 ++ deedsOf q decision := by
  cases h
  rfl

/-- A session in the course of its actions. -/
structure Journal (σ : Type) where
  store : Store := {}
  state : σ
  deeds : List Deed := []

/-- What is done with a session. -/
inductive Action where
  | set (address username password : String)
  | clear (address : String)
  | perform (op : Operation) (url : String)
  deriving DecidableEq, Repr

variable (p : Partners σ) (settings : ServerSettings)

/-- A session after one more action. -/
def Journal.act (now : Journal σ) : Action → Journal σ
  | .set address username password =>
    { now with
      store := now.store.set address username password
      deeds := now.deeds ++ [.stored ⟨address, username, password⟩] }
  | .clear address => { now with store := now.store.clear address }
  | .perform op url =>
    let after := (op.run (journaling p) settings now.store url (now.state, now.deeds)).2
    ⟨after.1, after.2.1, after.2.2⟩

theorem follows_journaling : Follows (journaling p) p Prod.fst where
  execute _ _ := rfl
  ask _ _ := rfl
  date _ := rfl

/-- The journal changes nothing of what an operation does. -/
theorem Journal.act_perform (now : Journal σ) (op : Operation) (url : String) :
    op.run p settings now.store url now.state =
      ((op.run (journaling p) settings now.store url (now.state, now.deeds)).1,
        (now.act p settings (.perform op url)).store,
        (now.act p settings (.perform op url)).state) :=
  op.run_of_follows (follows_journaling p) settings now.store url (now.state, now.deeds)

/-- A new session after some actions. -/
def Journal.run (actions : List Action) (s : σ) : Journal σ :=
  actions.foldl (Journal.act p settings) { state := s }

end Journals

/-! ## The invariant -/

/-- Every entry was given for an address that leads somewhere, and is kept under its key. -/
def Backed (store : Store) (deeds : List Deed) : Prop :=
  ∀ c ∈ store.entries, ∃ given ∈ givenIn deeds,
    c = { given with serverUrl := addressKey given.serverUrl } ∧
      (originOf? given.serverUrl).isSome

/-- The credentials of a request, if there are any, were given for its origin. -/
def Rightful (deeds : List Deed) (r : Request) : Prop :=
  r.credentials.username ≠ "" → ∃ given ∈ givenIn deeds,
    given.username = r.credentials.username ∧ given.password = r.credentials.password ∧
      ∃ o, originOf? given.serverUrl = some o ∧ originOf? r.url = some o

/-- Every request of a journal is rightful by what is in front of it. -/
def RightfulAll (deeds : List Deed) : Prop :=
  ∀ before r after, deeds = before ++ .sent r :: after → Rightful before r

theorem Backed.append {store : Store} {deeds : List Deed} (h : Backed store deeds)
    (more : List Deed) : Backed store (deeds ++ more) := by
  intro c hc
  obtain ⟨given, hgiven, hkept⟩ := h c hc
  refine ⟨given, ?_, hkept⟩
  rw [givenIn, List.filterMap_append]
  exact List.mem_append_left _ hgiven

theorem RightfulAll.concat {deeds : List Deed} (h : RightfulAll deeds) {deed : Deed}
    (hdeed : ∀ r, deed = .sent r → Rightful deeds r) : RightfulAll (deeds ++ [deed]) := by
  intro before r after hsplit
  rcases List.eq_nil_or_concat after with rfl | ⟨init, last, rfl⟩
  · obtain ⟨rfl, hlast⟩ := List.append_inj' hsplit rfl
    exact hdeed r (List.singleton_inj.mp hlast)
  · rw [List.concat_eq_append, ← List.cons_append, ← List.append_assoc] at hsplit
    exact h before r init (List.append_inj' hsplit rfl).1

/-- What a backed store has for an address was given for its origin. -/
theorem Backed.get {store : Store} {deeds : List Deed} (h : Backed store deeds) {url : String}
    (hurl : (originOf? url).isSome) (hname : (store.get url).username ≠ "") :
    ∃ given ∈ givenIn deeds, given.username = (store.get url).username ∧
      given.password = (store.get url).password ∧
        ∃ o, originOf? given.serverUrl = some o ∧ originOf? url = some o := by
  rw [Store.get] at hname ⊢
  cases hfind : store.find? (trimmed url) with
  | none =>
    rw [hfind] at hname
    exact absurd rfl hname
  | some c =>
    have hlongest := Store.isLongest_of_find? hfind
    obtain ⟨given, hgiven, rfl, horigin⟩ := h c hlongest.mem
    obtain ⟨o, ho⟩ := Option.isSome_iff_exists.mp horigin
    obtain ⟨o', ho'⟩ := Option.isSome_iff_exists.mp hurl
    refine ⟨given, hgiven, rfl, rfl, o, ho, ?_⟩
    rw [ho', originOf?_eq_of_covers ho ho' hlongest.covers]

/-- An address for which the user is asked leads somewhere. -/
theorem originOf?_target {serverUrl url : String}
    (hserver : serverUrl = "" ∨ (originOf? serverUrl).isSome) (hurl : (originOf? url).isSome) :
    (originOf? (target serverUrl url).1).isSome := by
  unfold target
  dsimp only
  split
  · rename_i hcovers
    have hne : serverUrl ≠ "" := by
      rintro rfl
      exact (covers_iff.mp hcovers).1 rfl
    obtain ⟨o, ho⟩ := Option.isSome_iff_exists.mp (hserver.resolve_left hne)
    rw [originOf?_addressKey ho]
    rfl
  · obtain ⟨o, ho⟩ := Option.isSome_iff_exists.mp hurl
    rw [originOf?_before ho]
    rfl

/-! ## Actions -/

section Actions

variable {σ : Type} {p : Partners σ} {settings : ServerSettings}

/-- What holds of a session after every action. -/
structure Journal.Sound (now : Journal σ) : Prop where
  reachable : now.store.Reachable
  backed : Backed now.store now.deeds
  rightful : RightfulAll now.deeds

theorem Journal.sound_new (s : σ) : Journal.Sound { state := s } where
  reachable := .new
  backed := by
    intro c hc
    cases hc
  rightful := by
    intro before r after hsplit
    have hlength := congrArg List.length hsplit
    simp at hlength

theorem Backed.changed {store after : Store} {deeds : List Deed} (h : Backed store deeds)
    {deed : Deed} {given : Credentials} (hdeed : deed.given? = some given)
    (horigin : (originOf? given.serverUrl).isSome)
    (hafter : Store.ChangedAt (addressKey given.serverUrl) given.username given.password store
      after) : Backed after (deeds ++ [deed]) := by
  intro c hc
  rcases (hafter.entries c).mp hc with rfl | ⟨hc, -⟩
  · refine ⟨given, ?_, rfl, horigin⟩
    rw [givenIn, List.filterMap_append]
    refine List.mem_append_right _ (List.mem_filterMap.mpr ⟨deed, ?_, hdeed⟩)
    exact List.mem_singleton_self _
  · exact h.append [deed] c hc

theorem Journal.Sound.set {now : Journal σ} (h : now.Sound) {address : String}
    (haddress : (originOf? address).isSome) (username password : String) :
    (now.act p settings (.set address username password)).Sound where
  reachable := h.reachable.set address username password
  backed := h.backed.changed rfl haddress (h.reachable.ordered.changedAt address username password)
  rightful := h.rightful.concat fun r hr => by cases hr

theorem Journal.Sound.clear {now : Journal σ} (h : now.Sound) (address : String) :
    (now.act p settings (.clear address)).Sound where
  reachable := h.reachable.clear address
  backed := by
    intro c hc
    refine h.backed c ?_
    have hc : c ∈ (now.store.clear address).entries := hc
    unfold Store.clear at hc
    split at hc
    · exact (List.mem_filter.mp hc).1
    · exact hc
  rightful := h.rightful

/-- A request with what a backed store has for its address is rightful. -/
theorem Backed.rightful {store : Store} {deeds : List Deed} (h : Backed store deeds)
    {r : Request} (hr : r.credentials = store.get r.url) (hurl : (originOf? r.url).isSome) :
    Rightful deeds r := by
  intro hname
  rw [hr] at hname ⊢
  exact h.get hurl hname

theorem isSome_originOf? {url : String} {address : Url} (h : validateUrl url = .ok address) :
    (originOf? url).isSome := by
  rw [originOf?_eq_some_iff.mpr ⟨address, h, rfl⟩]
  rfl

/-- Whichever course an operation takes, its requests are rightful and its store stays backed. -/
theorem sound_of_course {op : Operation} {store after : Store} {deeds : List Deed}
    {url : String} {s : σ} {s' : σ × List Deed} {log : List Event} {result : op.Result}
    (hcourse : op.Course (journaling p) settings store url (s, deeds) log result after s')
    (hserver : settings.serverUrl = "" ∨ (originOf? settings.serverUrl).isSome)
    (hbacked : Backed store deeds) (hrightful : RightfulAll deeds) :
    Backed after s'.2 ∧ RightfulAll s'.2 := by
  -- The first request carries what the store has for the address.
  have hfirst : (originOf? url).isSome → RightfulAll
      (deeds ++ [.sent (op.firstRequest (journaling p) settings store url (s, deeds))]) := by
    intro hurl
    refine hrightful.concat fun r hr => ?_
    cases hr
    exact hbacked.rightful rfl hurl
  cases hcourse with
  | rejected hurl => exact ⟨hbacked, hrightful⟩
  | answered hurl hanswer hlast =>
    rw [deeds_of_execute hanswer]
    exact ⟨hbacked.append _, hfirst (isSome_originOf? hurl)⟩
  | cancelled hurl hanswer hstatus hquestion hask =>
    rw [deeds_of_ask hask, deeds_of_execute hanswer, deedsOf, List.append_nil]
    exact ⟨hbacked.append _, hfirst (isSome_originOf? hurl)⟩
  | @repeated address response q s₁ s₂ s₃ username password after again answer hurl hanswer
      hstatus hquestion hask hafter hrepeats hcredentials hagain =>
    have hurl := isSome_originOf? hurl
    have htarget : (originOf? q.targetUrl).isSome := by
      rw [hquestion, targetUrl_question]
      exact originOf?_target hserver hurl
    -- The answer backs the changed store, and what the store has then is what is sent.
    let first := op.firstRequest (journaling p) settings store url (s, deeds)
    have hafter : Backed after (deeds ++ [.sent first] ++ [.answered q username password]) :=
      (hbacked.append [.sent first]).changed rfl htarget hafter
    have hanswered : RightfulAll (deeds ++ [.sent first] ++ [.answered q username password]) :=
      (hfirst hurl).concat fun r hr => by cases hr
    have hagainUrl : again.url = url := hrepeats.url
    rw [deeds_of_execute hagain]
    show Backed after (s₂.2 ++ [.sent again]) ∧ RightfulAll (s₂.2 ++ [.sent again])
    rw [deeds_of_ask hask, deeds_of_execute hanswer, deedsOf]
    refine ⟨hafter.append _, hanswered.concat fun r hr => ?_⟩
    cases hr
    refine hafter.rightful ?_ ?_
    · rw [hcredentials, hagainUrl]
    · rw [hagainUrl]
      exact hurl

theorem Journal.Sound.perform {now : Journal σ} (h : now.Sound)
    (hserver : settings.serverUrl = "" ∨ (originOf? settings.serverUrl).isSome)
    (op : Operation) (url : String) : (now.act p settings (.perform op url)).Sound := by
  have hcourse : op.Course (journaling p) settings now.store url (now.state, now.deeds) _ _ _ _ :=
    op.course h.reachable
  obtain ⟨hbacked, hrightful⟩ := sound_of_course hcourse hserver h.backed h.rightful
  exact ⟨op.reachable_run h.reachable, hbacked, hrightful⟩

/-- Every action keeps the invariant, if what is stored is stored for proper addresses. -/
theorem Journal.Sound.act {now : Journal σ} (h : now.Sound)
    (hserver : settings.serverUrl = "" ∨ (originOf? settings.serverUrl).isSome) {action : Action}
    (hset : ∀ address username password, action = .set address username password →
      (originOf? address).isSome) : (now.act p settings action).Sound := by
  cases action with
  | set address username password =>
    exact h.set (hset address username password rfl) username password
  | clear address => exact h.clear address
  | perform op url => exact h.perform hserver op url

theorem Journal.sound_run (hserver : settings.serverUrl = "" ∨
      (originOf? settings.serverUrl).isSome) {actions : List Action}
    (hset : ∀ address username password, .set address username password ∈ actions →
      (originOf? address).isSome) (s : σ) : (Journal.run p settings actions s).Sound := by
  have hfold : ∀ (more : List Action) (now : Journal σ), (∀ action ∈ more, action ∈ actions) →
      now.Sound → (more.foldl (Journal.act p settings) now).Sound := by
    intro more
    induction more with
    | nil => exact fun now _ h => h
    | cons action rest ih =>
      intro now hmem h
      refine ih _ (fun a ha => hmem a (List.mem_cons_of_mem _ ha)) (h.act hserver ?_)
      rintro address username password rfl
      exact hset address username password (hmem _ (List.mem_cons_self ..))
  exact hfold actions _ (fun _ h => h) (Journal.sound_new s)

end Actions

/-! ## The result -/

/-- Credentials go to the origin that they were given for.

Whatever is done with a new session, and whatever its partners do: the credentials that a request
carries were given before, by the caller or as the user's answer, for an address of the origin that
the request goes to.  The reason is that an address which is covered by the key of another one
leads to the same origin. -/
theorem sent_to_origin {σ : Type} (p : Partners σ) {settings : ServerSettings}
    (hserver : settings.serverUrl = "" ∨ ∃ url, validateUrl settings.serverUrl = .ok url)
    {actions : List Action}
    (hset : ∀ address username password, .set address username password ∈ actions →
      ∃ url, validateUrl address = .ok url) (s : σ) :
    (∀ before r after, (Journal.run p settings actions s).deeds = before ++ .sent r :: after →
      r.credentials.username ≠ "" →
      ∃ given ∈ givenIn before,
        given.username = r.credentials.username ∧ given.password = r.credentials.password ∧
        ∃ url url', validateUrl given.serverUrl = .ok url ∧ validateUrl r.url = .ok url' ∧
          url.origin = url'.origin) ∧
    ∀ (address wanted : String) (url url' : Url), validateUrl address = .ok url →
      validateUrl wanted = .ok url' → covers (addressKey address) (trimmed wanted) = true →
      url.origin = url'.origin := by
  constructor
  · intro before r after hdeeds hname
    have hsound : (Journal.run p settings actions s).Sound := by
      refine Journal.sound_run (hserver.imp_right ?_) ?_ s
      · rintro ⟨url, hurl⟩
        exact isSome_originOf? hurl
      · intro address username password hmem
        obtain ⟨url, hurl⟩ := hset address username password hmem
        exact isSome_originOf? hurl
    obtain ⟨given, hgiven, husername, hpassword, o, ho, ho'⟩ :=
      hsound.rightful before r after hdeeds hname
    obtain ⟨url, hurl, horigin⟩ := originOf?_eq_some_iff.mp ho
    obtain ⟨url', hurl', horigin'⟩ := originOf?_eq_some_iff.mp ho'
    exact ⟨given, hgiven, husername, hpassword, url, url', hurl, hurl', by rw [horigin, horigin']⟩
  · intro address wanted url url' hurl hurl' hcovers
    have ho := originOf?_eq_some_iff.mpr ⟨url, hurl, rfl⟩
    have ho' := originOf?_eq_some_iff.mpr ⟨url', hurl', rfl⟩
    exact (originOf?_eq_of_covers ho ho' hcovers).symm

/-- A session that is given credentials for a part of its server, and fetches a document there. -/
def formActions : List Action :=
  [.set "http://forms.example/v1/" "bob" "old", .perform .fetch formList]

theorem deeds_formActions :
    let store := Store.set {} "http://forms.example/v1/" "bob" "old"
    (Journal.run (answering "alice" "s3cret") formServer formActions refusedOnce).deeds =
      [.stored ⟨"http://forms.example/v1/", "bob", "old"⟩] ++
        .sent (request formServer store .get acceptXml formList "") ::
        [.answered (question store formServer.serverUrl formList 401) "alice" "s3cret",
          .sent (request formServer
            (store.set (target formServer.serverUrl formList).1 "alice" "s3cret") .get acceptXml
            formList "")] := by
  intro store
  simp only [Journal.run, formActions, List.foldl_cons, List.foldl_nil, Journal.act,
    Operation.run, Session.fetch, validate_formList]
  rfl

/-- The first request carries what was stored, which was stored for its origin. -/
theorem sent_to_origin_formActions :
    (∃ url, validateUrl formServer.serverUrl = .ok url) ∧
      (∃ url, validateUrl "http://forms.example/v1/" = .ok url) ∧
      ∃ before r after,
        (Journal.run (answering "alice" "s3cret") formServer formActions refusedOnce).deeds =
          before ++ .sent r :: after ∧
        r.credentials = ⟨"http://forms.example/v1", "bob", "old"⟩ ∧
        ∃ given ∈ givenIn before, given.username = "bob" ∧ given.password = "old" ∧
          ∃ url url', validateUrl given.serverUrl = .ok url ∧ validateUrl r.url = .ok url' ∧
            url.origin = url'.origin := by
  have hserver : validateUrl formServer.serverUrl =
      .ok ⟨.http, "", none, .domain "forms.example", none, [""], none, none⟩ :=
    validateUrl_eq_ok_iff.mpr (by decide +kernel)
  have hpart : validateUrl "http://forms.example/v1/" =
      .ok ⟨.http, "", none, .domain "forms.example", none, ["v1", ""], none, none⟩ :=
    validateUrl_eq_ok_iff.mpr (by decide +kernel)
  have hset : ∀ address username password,
      .set address username password ∈ formActions → ∃ url, validateUrl address = .ok url := by
    intro address username password hmem
    rcases List.mem_cons.mp hmem with heq | hmem
    · cases heq
      exact ⟨_, hpart⟩
    · rcases List.mem_cons.mp hmem with heq | hmem
      · cases heq
      · cases hmem
  obtain ⟨hsent, -⟩ := sent_to_origin (answering "alice" "s3cret") (Or.inr ⟨_, hserver⟩) hset
    refusedOnce
  have hcredentials :
      (Store.set {} "http://forms.example/v1/" "bob" "old").get formList =
        ⟨"http://forms.example/v1", "bob", "old"⟩ := by
    decide +kernel
  have hname :
      ((Store.set {} "http://forms.example/v1/" "bob" "old").get formList).username ≠ "" := by
    rw [hcredentials]
    decide
  obtain ⟨given, hgiven, husername, hpassword, horigin⟩ :=
    hsent _ _ _ deeds_formActions hname
  rw [credentials_request, hcredentials] at husername hpassword
  exact ⟨⟨_, hserver⟩, ⟨_, hpart⟩, _, _, _, deeds_formActions, hcredentials, given, hgiven,
    husername, hpassword, horigin⟩

end FormFetch.Session
