import FormFetch.Prompt.Dialogue
import FormFetch.Prompt.Handler
import FormFetch.Proofs.Text.Utf8

/-!
# What a dialogue comes to

The decisions of a dialogue, told from the lines that the user gives, and what a handler makes of
them.

* `ask_eq_provide_iff` and `ask_eq_cancel_iff` say when a dialogue provides credentials and when it
  cancels.
* `IsNameless` are the inputs with a blank line for the username.  `exists_provide_empty_iff` says
  when a dialogue provides an empty username.
* `question_prefill_ne` says that no question proposes one.
* `onChallenge_eq_retry_iff`: a request is repeated with what the dialogue provides.
-/

namespace FormFetch.Prompt

open FormFetch.Text

/-! ## Decisions -/

variable {q : Question} {fallback : Option String} {input : List UInt8}

/-- A line is read if it is a text. -/
theorem readLine_eq_ok_iff {line : String} {rest : List UInt8} :
    readLine input = (.ok line, rest) ↔ splitLine input = (Utf8.bytes line, rest) := by
  rcases hsplit : splitLine input with ⟨bytes, after⟩
  simp only [readLine, hsplit, Prod.mk.injEq, ← Utf8.string?_eq_some_iff]
  cases Utf8.string? bytes with
  | none => simp only [Prod.mk.injEq, reduceCtorEq, false_and]
  | some text => simp only [Prod.mk.injEq, Except.ok.injEq, Option.some.injEq]

/-- Credentials are provided by two lines, and the first one gives a name or leaves the one that is
proposed. -/
theorem ask_eq_provide_iff {name password : String} :
    (ask q fallback input).decision = .ok (.provide name password) ↔
      ∃ line rest line', readLine input = (.ok line, rest) ∧
        username? (q.prefill.or fallback) line = some name ∧
        (readLine rest).1 = .ok line' ∧ withoutBreak line' = password := by
  constructor
  · intro h
    rw [ask] at h
    split at h
    · cases h
    · rename_i line rest hline
      split at h
      · cases h
      · rename_i name' hname
        split at h
        · cases h
        · rename_i line' rest' hline'
          obtain ⟨rfl, rfl⟩ := Decision.provide.inj (Except.ok.inj h)
          exact ⟨line, rest, line', hline, hname, by rw [hline'], rfl⟩
  · rintro ⟨line, rest, line', hline, hname, hline', rfl⟩
    rcases hpassword : readLine rest with ⟨result, rest'⟩
    rw [hpassword] at hline'
    obtain rfl : result = .ok line' := hline'
    simp only [ask, hline, hname, hpassword]

/-- A dialogue cancels at a blank line, if no name is proposed. -/
theorem ask_eq_cancel_iff :
    (ask q fallback input).decision = .ok .cancel ↔
      ∃ line rest, readLine input = (.ok line, rest) ∧ trimmed line = "" ∧
        q.prefill.or fallback = none := by
  constructor
  · intro h
    rw [ask] at h
    split at h
    · cases h
    · rename_i line rest hline
      split at h
      · rename_i hnone
        rw [username?] at hnone
        split at hnone
        · rename_i hblank
          exact ⟨line, rest, hline, hblank, hnone⟩
        · cases hnone
      · split at h
        · cases h
        · cases h
  · rintro ⟨line, rest, hline, hblank, hnone⟩
    simp only [ask, hline, username?, hblank, hnone, if_true]

/-! ## Empty names -/

/-- An input whose first line is blank, with a line for the password behind it. -/
def IsNameless (input : List UInt8) : Prop :=
  ∃ line rest line', readLine input = (.ok line, rest) ∧ trimmed line = "" ∧
    (readLine rest).1 = .ok line'

theorem username?_eq_empty_iff {suggested : Option String} {line : String} :
    username? suggested line = some "" ↔ trimmed line = "" ∧ suggested = some "" := by
  rw [username?]
  split
  · rename_i hblank
    exact (and_iff_right hblank).symm
  · rename_i hblank
    rw [Option.some_inj]
    exact (iff_of_false hblank fun h => hblank h.1)

/-- An empty name is provided exactly if it is proposed and the user leaves it. -/
theorem exists_provide_empty_iff :
    (∃ password, (ask q fallback input).decision = .ok (.provide "" password)) ↔
      q.prefill.or fallback = some "" ∧ IsNameless input := by
  constructor
  · rintro ⟨password, h⟩
    obtain ⟨line, rest, line', hline, hname, hline', -⟩ := ask_eq_provide_iff.mp h
    obtain ⟨hblank, hproposed⟩ := username?_eq_empty_iff.mp hname
    exact ⟨hproposed, line, rest, line', hline, hblank, hline'⟩
  · rintro ⟨hproposed, line, rest, line', hline, hblank, hline'⟩
    exact ⟨withoutBreak line', ask_eq_provide_iff.mpr ⟨line, rest, line', hline,
      username?_eq_empty_iff.mpr ⟨hblank, hproposed⟩, hline', rfl⟩⟩

theorem prefill?_ne_empty (store : Store) (target : String × Bool) :
    prefill? store target ≠ some "" := by
  intro h
  rw [prefill?] at h
  split at h
  · cases h
  · have hkept := (Option.filter_eq_some_iff.mp h).2
    exact absurd rfl (of_decide_eq_true hkept)

/-- No question proposes an empty name. -/
theorem question_prefill_ne (store : Store) (serverUrl url : String) (status : Nat) :
    (question store serverUrl url status).prefill ≠ some "" := by
  rcases htarget : target serverUrl url with ⟨targetUrl, overridden⟩
  simp only [question, htarget]
  exact prefill?_ne_empty store (targetUrl, overridden)

theorem prefill_or_eq_empty_iff {store : Store} {serverUrl url : String} {status : Nat} :
    (question store serverUrl url status).prefill.or fallback = some "" ↔
      (question store serverUrl url status).prefill = none ∧ fallback = some "" := by
  cases hprefill : (question store serverUrl url status).prefill with
  | none => rw [Option.none_or, and_iff_right rfl]
  | some name =>
    refine iff_of_false (fun h => ?_) (fun h => by cases h.1)
    exact question_prefill_ne store serverUrl url status (hprefill.trans h)

/-! ## Repeated requests -/

/-- The first challenge of a request repeats it exactly if the user provides credentials, and keeps
them for the address that was asked for. -/
theorem onChallenge_eq_retry_iff {σ : Type} {answer : Question → σ → Decision × σ}
    {store : Store} {h' : Handler} {serverUrl url : String} {status : Nat} {s s' : σ} :
    ({ store } : Handler).onChallenge answer serverUrl url status s = (.retry, h', s') ↔
      ∃ name password,
        answer (question store serverUrl url status) s = (.provide name password, s') ∧
        h' = ⟨.retrying,
          store.set (question store serverUrl url status).targetUrl name password⟩ := by
  rw [Handler.onChallenge, if_pos rfl]
  rcases hanswer : answer (question store serverUrl url status) s with ⟨decision, s''⟩
  cases decision with
  | provide name password =>
    simp only [hanswer, Handler.decide, Prod.mk.injEq, true_and, Decision.provide.injEq]
    constructor
    · rintro ⟨rfl, rfl⟩
      exact ⟨name, password, ⟨⟨rfl, rfl⟩, rfl⟩, rfl⟩
    · rintro ⟨-, -, ⟨⟨rfl, rfl⟩, rfl⟩, rfl⟩
      exact ⟨rfl, rfl⟩
  | cancel =>
    simp only [hanswer, Handler.decide, Prod.mk.injEq, reduceCtorEq, false_and, exists_false]

end FormFetch.Prompt
