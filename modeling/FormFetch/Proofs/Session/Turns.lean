import FormFetch.Proofs.Session.Retry

/-!
# The passes of an exchange

A request and the question that a refusal leads to, again and again as long as the user
answers: this ends after two passes, whatever the transport and the user do.

There are three groups.

* Turns.  `turn` is one pass, and `Loops` repeats it without a bound.
* Exchanges.  `exchange_cases` lists their three ways, and `loops_iff` says that passes
  without a bound end, and that `exchange` is what they end with.
* Refusals of one handler.  `onChallenges_new` says what any number of them do.
-/

namespace FormFetch

open Text Http Prompt

namespace Session

/-! ## Turns -/

/-- The answer is a refusal that asks for credentials. -/
def isRefusal : Except Failure (Option Response) → Bool
  | .ok (some response) => isChallenge response.status
  | _ => false

/-- What a pass leads to. -/
inductive Turn (σ : Type) where
  | finished (ending : Ending σ)
  | again (h : Handler) (s : σ)

section Turns

variable {σ : Type} (p : Partners σ) (settings : ServerSettings) (method : Method)
  (more : Headers) (url : String)

/-- One pass: the request goes out with what the handler's store has for it, and a refusal is
given to the handler. -/
def turn (h : Handler) (s : σ) : Turn σ :=
  match send p settings h.store method more url s with
  | (.ok (some response), s) =>
    if isChallenge response.status then
      match h.onChallenge p.ask settings.serverUrl url response.status s with
      | (.retry, h, s) => .again h s
      | (.abandon, h, s) => .finished ⟨.ok (some response), h.store, s⟩
    else .finished ⟨.ok (some response), h.store, s⟩
  | (answer, s) => .finished ⟨answer, h.store, s⟩

/-- Passes one after the other, as long as they lead to another one. -/
inductive Loops : Handler → σ → Ending σ → Prop where
  | finished {h : Handler} {s : σ} {ending : Ending σ}
      (hturn : turn p settings method more url h s = .finished ending) : Loops h s ending
  | again {h h' : Handler} {s s' : σ} {ending : Ending σ}
      (hturn : turn p settings method more url h s = .again h' s')
      (hrest : Loops h' s' ending) : Loops h s ending

variable {p settings method more url} {store : Store} {s s₁ s₂ : σ} {response : Response}
  {answer : Except Failure (Option Response)} {username password : String}

theorem targetUrl_question (store : Store) (serverUrl url : String) (status : Nat) :
    (question store serverUrl url status).targetUrl = (target serverUrl url).1 := by
  simp only [question]

theorem onChallenge_cancel
    (hask : p.ask (question store settings.serverUrl url response.status) s₁ = (.cancel, s₂)) :
    Handler.onChallenge p.ask settings.serverUrl { store } url response.status s₁ =
      (.abandon, ⟨.abandoned, store⟩, s₂) := by
  simp only [Handler.onChallenge, if_true, hask, Handler.decide]

/-- Any answer but a refusal is the last one. -/
theorem turn_of_answered {h : Handler}
    (hsend : send p settings h.store method more url s = (answer, s₁))
    (hanswer : isRefusal answer = false) :
    turn p settings method more url h s = .finished ⟨answer, h.store, s₁⟩ := by
  rcases answer with failure | _ | response
  · simp only [turn, hsend]
  · simp only [turn, hsend]
  · have hstatus : isChallenge response.status = false := hanswer
    simp only [turn, hsend, hstatus, Bool.false_eq_true, if_false]

/-- A handler that has left its first state takes no more refusals. -/
theorem turn_of_ne_awaiting {h : Handler} (hstate : h.state ≠ .awaiting)
    (hsend : send p settings h.store method more url s = (answer, s₁)) :
    turn p settings method more url h s = .finished ⟨answer, h.store, s₁⟩ := by
  by_cases hanswer : isRefusal answer = true
  · rcases answer with failure | _ | response
    · cases hanswer
    · cases hanswer
    · have hstatus : isChallenge response.status = true := hanswer
      simp only [turn, hsend, hstatus, if_true, Handler.onChallenge_of_ne_awaiting _ _ _ hstate]
  · exact turn_of_answered hsend (Bool.eq_false_iff.mpr hanswer)

theorem turn_of_cancel (hsend : send p settings store method more url s =
      (.ok (some response), s₁))
    (hstatus : isChallenge response.status = true)
    (hask : p.ask (question store settings.serverUrl url response.status) s₁ = (.cancel, s₂)) :
    turn p settings method more url { store } s =
      .finished ⟨.ok (some response), store, s₂⟩ := by
  simp only [turn, hsend, hstatus, if_true, onChallenge_cancel hask]

theorem turn_of_provide (hsend : send p settings store method more url s =
      (.ok (some response), s₁))
    (hstatus : isChallenge response.status = true)
    (hask : p.ask (question store settings.serverUrl url response.status) s₁ =
      (.provide username password, s₂)) :
    turn p settings method more url { store } s =
      .again ⟨.retrying, store.set (target settings.serverUrl url).1 username password⟩ s₂ := by
  simp only [turn, hsend, hstatus, if_true, onChallenge_provide hask]

/-- A pass that is the last one leaves the store as it found it. -/
theorem store_of_finished {h : Handler} {ending : Ending σ}
    (hturn : turn p settings method more url h s = .finished ending) :
    ending.store = h.store := by
  obtain ⟨state, store⟩ := h
  rcases hsend : send p settings store method more url s with ⟨answer, s₁⟩
  by_cases hstate : state = .awaiting
  · subst hstate
    by_cases hanswer : isRefusal answer = true
    · rcases answer with failure | _ | response
      · cases hanswer
      · cases hanswer
      · rcases hask : p.ask (question store settings.serverUrl url response.status) s₁ with
          ⟨decision, s₂⟩
        cases decision with
        | provide username password =>
          rw [turn_of_provide hsend hanswer hask] at hturn
          cases hturn
        | cancel =>
          rw [turn_of_cancel hsend hanswer hask] at hturn
          cases hturn
          rfl
    · rw [turn_of_answered hsend (Bool.eq_false_iff.mpr hanswer)] at hturn
      cases hturn
      rfl
  · rw [turn_of_ne_awaiting hstate hsend] at hturn
    cases hturn
    rfl

/-! ## Exchanges -/

theorem exchange_of_answered (hsend : send p settings store method more url s = (answer, s₁))
    (hanswer : isRefusal answer = false) :
    exchange p settings store method more url s = ⟨answer, store, s₁⟩ := by
  rcases answer with failure | _ | response
  · simp only [exchange, hsend]
  · simp only [exchange, hsend]
  · have hstatus : isChallenge response.status = false := hanswer
    simp only [exchange, hsend, hstatus, Bool.false_eq_true, if_false]

theorem exchange_of_cancel (hsend : send p settings store method more url s =
      (.ok (some response), s₁))
    (hstatus : isChallenge response.status = true)
    (hask : p.ask (question store settings.serverUrl url response.status) s₁ = (.cancel, s₂)) :
    exchange p settings store method more url s = ⟨.ok (some response), store, s₂⟩ := by
  simp only [exchange, hsend, hstatus, if_true, onChallenge_cancel hask]

theorem exchange_of_provide (hsend : send p settings store method more url s =
      (.ok (some response), s₁))
    (hstatus : isChallenge response.status = true)
    (hask : p.ask (question store settings.serverUrl url response.status) s₁ =
      (.provide username password, s₂)) :
    exchange p settings store method more url s =
      ⟨(send p settings (store.set (target settings.serverUrl url).1 username password) method
          more url s₂).1,
        store.set (target settings.serverUrl url).1 username password,
        (send p settings (store.set (target settings.serverUrl url).1 username password) method
          more url s₂).2⟩ := by
  simp only [exchange, hsend, hstatus, if_true, onChallenge_provide hask]

/-- The three ways of an exchange: an answer that is no refusal, a refusal that the user leaves
at that, and one that the user answers with credentials. -/
theorem exchange_cases (p : Partners σ) (settings : ServerSettings) (store : Store)
    (method : Method) (more : Headers) (url : String) (s : σ) :
    (∃ answer s₁, send p settings store method more url s = (answer, s₁) ∧
      isRefusal answer = false) ∨
    ∃ response s₁ s₂, send p settings store method more url s = (.ok (some response), s₁) ∧
      isChallenge response.status = true ∧
      (p.ask (question store settings.serverUrl url response.status) s₁ = (.cancel, s₂) ∨
        ∃ username password,
          p.ask (question store settings.serverUrl url response.status) s₁ =
            (.provide username password, s₂)) := by
  rcases hsend : send p settings store method more url s with ⟨answer, s₁⟩
  by_cases hanswer : isRefusal answer = true
  · rcases answer with failure | _ | response
    · cases hanswer
    · cases hanswer
    · right
      rcases hask : p.ask (question store settings.serverUrl url response.status) s₁ with
        ⟨decision, s₂⟩
      refine ⟨response, s₁, s₂, rfl, hanswer, ?_⟩
      cases decision with
      | cancel => exact Or.inl hask
      | provide username password => exact Or.inr ⟨username, password, hask⟩
  · exact Or.inl ⟨answer, s₁, rfl, Bool.eq_false_iff.mpr hanswer⟩

theorem loops_of_finished {h : Handler} {last ending : Ending σ}
    (hturn : turn p settings method more url h s = .finished last) :
    Loops p settings method more url h s ending ↔ ending = last := by
  constructor
  · intro h
    cases h with
    | finished hturn' =>
      rw [hturn] at hturn'
      cases hturn'
      rfl
    | again hturn' =>
      rw [hturn] at hturn'
      cases hturn'
  · rintro rfl
    exact .finished hturn

theorem loops_of_again {h h' : Handler} {s' : σ} {ending : Ending σ}
    (hturn : turn p settings method more url h s = .again h' s') :
    Loops p settings method more url h s ending ↔
      Loops p settings method more url h' s' ending := by
  constructor
  · intro h
    cases h with
    | finished hturn' =>
      rw [hturn] at hturn'
      cases hturn'
    | again hturn' hrest =>
      rw [hturn] at hturn'
      cases hturn'
      exact hrest
  · exact Loops.again hturn

/-- Passes without a bound end after two at most, and with what the exchange ends with. -/
theorem loops_iff {ending : Ending σ} :
    Loops p settings method more url { store } s ending ↔
      ending = exchange p settings store method more url s := by
  rcases exchange_cases p settings store method more url s with
    ⟨answer, s₁, hsend, hanswer⟩ |
      ⟨response, s₁, s₂, hsend, hstatus, hask | ⟨username, password, hask⟩⟩
  · rw [loops_of_finished (turn_of_answered hsend hanswer), exchange_of_answered hsend hanswer]
  · rw [loops_of_finished (turn_of_cancel hsend hstatus hask),
      exchange_of_cancel hsend hstatus hask]
  · -- After the answer the handler retries, and the second pass is the last one.
    rw [loops_of_again (turn_of_provide hsend hstatus hask),
      exchange_of_provide hsend hstatus hask]
    exact loops_of_finished (turn_of_ne_awaiting (by simp) rfl)

end Turns

/-! ## Refusals of one handler -/

section Challenges

variable {σ : Type}

/-- What a handler makes of refusals that come one after the other, each with the refused address
and the status. -/
def onChallenges (ask : Question → σ → Decision × σ) (serverUrl : String) :
    Handler → List (String × Nat) → σ → List Outcome × Handler × σ
  | h, [], s => ([], h, s)
  | h, (url, status) :: later, s =>
    let (outcome, h, s) := h.onChallenge ask serverUrl url status s
    let (outcomes, h, s) := onChallenges ask serverUrl h later s
    (outcome :: outcomes, h, s)

variable {ask : Question → σ → Decision × σ} {serverUrl : String}

/-- Once it has left its first state a handler gives up on every refusal, asks nobody and keeps
its store. -/
theorem onChallenges_of_ne_awaiting {h : Handler} (hstate : h.state ≠ .awaiting)
    (refusals : List (String × Nat)) (s : σ) :
    onChallenges ask serverUrl h refusals s =
      (List.replicate refusals.length .abandon,
        ⟨if refusals = [] then h.state else .abandoned, h.store⟩, s) := by
  induction refusals generalizing h with
  | nil => rfl
  | cons refusal later ih =>
    obtain ⟨url, status⟩ := refusal
    have hnext : ({ h with state := .abandoned } : Handler).state ≠ .awaiting := by simp
    simp only [onChallenges, Handler.onChallenge_of_ne_awaiting url status s hstate, ih hnext]
    simp [List.replicate_succ]

/-- The first refusal of a new handler asks the user.  An answer is stored, and the request is
repeated; then, or if the user declines, no other refusal does anything. -/
theorem onChallenges_new (store : Store) (url : String) (status : Nat)
    (later : List (String × Nat)) (s : σ) :
    (∃ username password s', ask (question store serverUrl url status) s =
        (.provide username password, s') ∧
      onChallenges ask serverUrl { store } ((url, status) :: later) s =
        (.retry :: List.replicate later.length .abandon,
          ⟨if later = [] then .retrying else .abandoned,
            store.set (target serverUrl url).1 username password⟩, s')) ∨
    ∃ s', ask (question store serverUrl url status) s = (.cancel, s') ∧
      onChallenges ask serverUrl { store } ((url, status) :: later) s =
        (.abandon :: List.replicate later.length .abandon, ⟨.abandoned, store⟩, s') := by
  rcases hask : ask (question store serverUrl url status) s with ⟨decision, s'⟩
  cases decision with
  | provide username password =>
    refine Or.inl ⟨username, password, s', rfl, ?_⟩
    simp only [onChallenges, Handler.onChallenge, if_true, hask, Handler.decide,
      targetUrl_question]
    rw [onChallenges_of_ne_awaiting (by simp)]
  | cancel =>
    refine Or.inr ⟨s', rfl, ?_⟩
    simp only [onChallenges, Handler.onChallenge, if_true, hask, Handler.decide]
    rw [onChallenges_of_ne_awaiting (by simp)]
    simp

end Challenges

end Session

end FormFetch
