import FormFetch.Proofs.Session.Course

/-!
# Exchanges side by side

Two sessions do the same when nothing that they go by tells them apart.  A session goes by the
status of an answer, and by whether the user gives credentials.

* `Twins` says so of two pairs of partners, where one relation ties the stores, one the partners
  and one the answers.
* `Twins.exchange` carries the three relations through an exchange, and `Twins.run` through an
  operation.
-/

namespace FormFetch.Session

open Text Http Prompt

/-- The status of a response, if one came. -/
def status? : Except Failure (Option Response) → Option Nat
  | .ok (some response) => some response.status
  | _ => none

theorem isRefusal_eq_any (answer : Except Failure (Option Response)) :
    isRefusal answer = (status? answer).any isChallenge := by
  rcases answer with failure | _ | response
  · rfl
  · rfl
  · rfl

theorem exists_of_status?_eq_some {answer : Except Failure (Option Response)} {status : Nat}
    (h : status? answer = some status) :
    ∃ response, answer = .ok (some response) ∧ response.status = status := by
  rcases answer with failure | _ | response
  · cases h
  · cases h
  · exact ⟨response, rfl, Option.some.inj h⟩

/-- Two decisions with which a question leads to the same: both users decline, or both give
credentials after which the stores are still related. -/
inductive Matched (stores : Store → Store → Prop) (store store' : Store)
    (targetUrl : String) : Decision → Decision → Prop where
  | cancel : Matched stores store store' targetUrl .cancel .cancel
  | provide {username password username' password' : String}
      (hstores : stores (store.set targetUrl username password)
        (store'.set targetUrl username' password')) :
      Matched stores store store' targetUrl (.provide username password)
        (.provide username' password')

/-- Partners that two sessions cannot tell apart in the requests for an address. -/
structure Twins {σ τ : Type} (p : Partners σ) (p' : Partners τ) (settings : ServerSettings)
    (method : Method) (more : Headers) (url : String) (stores : Store → Store → Prop)
    (states : σ → τ → Prop)
    (answers : Except Failure (Option Response) → Except Failure (Option Response) → Prop) :
    Prop where
  status : ∀ {answer answer'}, answers answer answer' → status? answer = status? answer'
  send : ∀ {store store' s t}, stores store store' → states s t →
    answers (send p settings store method more url s).1
        (send p' settings store' method more url t).1 ∧
      states (send p settings store method more url s).2
        (send p' settings store' method more url t).2
  ask : ∀ {store store' s t} (status : Nat), stores store store' → states s t →
    let asked := p.ask (question store settings.serverUrl url status) s
    let asked' := p'.ask (question store' settings.serverUrl url status) t
    Matched stores store store' (target settings.serverUrl url).1 asked.1 asked'.1 ∧
      states asked.2 asked'.2

variable {σ τ : Type} {p : Partners σ} {p' : Partners τ} {settings : ServerSettings}
  {method : Method} {more : Headers} {url : String} {stores : Store → Store → Prop}
  {states : σ → τ → Prop}
  {answers : Except Failure (Option Response) → Except Failure (Option Response) → Prop}
  {store store' : Store} {s : σ} {t : τ}

/-- An exchange keeps what is related. -/
theorem Twins.exchange (h : Twins p p' settings method more url stores states answers)
    (hstores : stores store store') (hstates : states s t) :
    answers (exchange p settings store method more url s).answer
        (exchange p' settings store' method more url t).answer ∧
      stores (exchange p settings store method more url s).store
        (exchange p' settings store' method more url t).store ∧
      states (exchange p settings store method more url s).state
        (exchange p' settings store' method more url t).state := by
  obtain ⟨hanswers, hsent⟩ := h.send hstores hstates
  rcases hsend' : Session.send p' settings store' method more url t with ⟨answer', t₁⟩
  rw [hsend'] at hanswers hsent
  rcases exchange_cases p settings store method more url s with
    ⟨answer, s₁, hsend, hlast⟩ | ⟨response, s₁, s₂, hsend, hstatus, hask⟩
  · rw [hsend] at hanswers hsent
    have hlast' : isRefusal answer' = false := by
      rw [isRefusal_eq_any, ← h.status hanswers, ← isRefusal_eq_any, hlast]
    rw [exchange_of_answered hsend hlast, exchange_of_answered hsend' hlast']
    exact ⟨hanswers, hstores, hsent⟩
  · -- The other answer has the same status, so it is a refusal too.
    rw [hsend] at hanswers hsent
    obtain ⟨response', rfl, hsame⟩ := exists_of_status?_eq_some (h.status hanswers).symm
    have hstatus' : isChallenge response'.status = true := by
      rw [hsame, hstatus]
    obtain ⟨hmatched, hasked⟩ := h.ask response.status hstores hsent
    rcases hask' : p'.ask (question store' settings.serverUrl url response.status) t₁ with
      ⟨decision', t₂⟩
    rw [hask'] at hmatched hasked
    rw [← hsame] at hask'
    rcases hask with hask | ⟨username, password, hask⟩
    · rw [hask] at hmatched hasked
      cases hmatched
      rw [exchange_of_cancel hsend hstatus hask, exchange_of_cancel hsend' hstatus' hask']
      exact ⟨hanswers, hstores, hasked⟩
    · rw [hask] at hmatched hasked
      cases hmatched with
      | provide hkept =>
        -- Both repeat the request with the stores after the credentials.
        obtain ⟨hagain, hafter⟩ := h.send hkept hasked
        rw [exchange_of_provide hsend hstatus hask, exchange_of_provide hsend' hstatus' hask']
        exact ⟨hagain, hkept, hafter⟩

/-- An operation keeps what is related, and its results are the same if answers that are related
make the same result. -/
theorem Twins.run {op : Operation}
    (h : Twins p p' settings op.method op.fields url stores states answers)
    (hresult : ∀ {answer answer'}, answers answer answer' →
      op.ofAnswer url answer = op.ofAnswer url answer')
    (hstores : stores store store') (hstates : states s t) :
    (op.run p settings store url s).1 = (op.run p' settings store' url t).1 ∧
      stores (op.run p settings store url s).2.1 (op.run p' settings store' url t).2.1 ∧
      states (op.run p settings store url s).2.2 (op.run p' settings store' url t).2.2 := by
  cases hurl : validateUrl url with
  | error failure =>
    rw [Operation.run_of_invalid op hurl, Operation.run_of_invalid op hurl]
    exact ⟨rfl, hstores, hstates⟩
  | ok address =>
    obtain ⟨hanswers, hafter⟩ := h.exchange hstores hstates
    rw [Operation.run_of_valid op hurl, Operation.run_of_valid op hurl]
    exact ⟨hresult hanswers, hafter⟩

end FormFetch.Session
