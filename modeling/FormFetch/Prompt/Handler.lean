import FormFetch.Prompt.Basic

/-!
# Challenges of one request

A request that is refused may be repeated once, with credentials that the user gives
when asked.  `Handler.onChallenge` is the step from one state to the next.

* `onChallenge_of_ne_awaiting`: only the first challenge asks, stores or repeats.
-/

namespace FormFetch.Prompt

/-- How far a request has come with its challenges. -/
inductive State where
  | awaiting
  | challenged
  | retrying
  | abandoned
  deriving DecidableEq, Repr

namespace State

/-- The word for a state in reports. -/
def report : State → String
  | awaiting => "AwaitingChallenge"
  | challenged => "Challenged"
  | retrying => "Retrying"
  | abandoned => "Abandoned"

end State

/-- What becomes of a refused request. -/
inductive Outcome where
  | retry
  | abandon
  deriving DecidableEq, Repr

/-- The word for an outcome in reports. -/
def Outcome.report : Outcome → String
  | .retry => "Retry"
  | .abandon => "Abandon"

/-- The username that is known for a target inside the configured server. -/
def prefill? (store : Store) (target : String × Bool) : Option String :=
  if target.2 then none
  else (some (store.get target.1).username).filter (· ≠ "")

/-- The question for a refused request. -/
def question (store : Store) (serverUrl url : String) (status : Nat) : Question :=
  let (targetUrl, overridden) := target serverUrl url
  { targetUrl, status, overridden, prefill := prefill? store (targetUrl, overridden) }

/-- The state of a request and the store that it works with. -/
structure Handler where
  state : State := .awaiting
  store : Store
  deriving DecidableEq, Repr

/-- The handler after the user's answer to a question. -/
def Handler.decide (h : Handler) (q : Question) : Decision → Outcome × Handler
  | .provide username password =>
    (.retry, { state := .retrying, store := h.store.set q.targetUrl username password })
  | .cancel => (.abandon, { h with state := .abandoned })

/-- Reacts to a refusal.  The first one asks the user by `ask`, whose surroundings are of type
`σ`; any other gives up. -/
def Handler.onChallenge {σ : Type} (ask : Question → σ → Decision × σ) (serverUrl : String)
    (h : Handler) (url : String) (status : Nat) (s : σ) : Outcome × Handler × σ :=
  if h.state = .awaiting then
    let q := question h.store serverUrl url status
    let (decision, s) := ask q s
    let (outcome, h) := h.decide q decision
    (outcome, h, s)
  else (.abandon, { h with state := .abandoned }, s)

theorem Handler.onChallenge_of_ne_awaiting {σ : Type} {ask : Question → σ → Decision × σ}
    {serverUrl : String} {h : Handler} (url : String) (status : Nat) (s : σ)
    (hs : h.state ≠ .awaiting) :
    h.onChallenge ask serverUrl url status s = (.abandon, { h with state := .abandoned }, s) := by
  simp [onChallenge, hs]

end FormFetch.Prompt
