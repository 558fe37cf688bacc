import FormFetch.Proofs.Session.Course

/-!
# Transcripts

Everything that a session and its partners say to each other: the requests with their answers,
and the questions with what the user decides.

* `Operation.transcript` is what is said in the course of an operation, and `run_transcribing`
  says that writing it down changes nothing.
* `lastAnswer?_transcript` says which answer of a transcript an operation gives back.
-/

namespace FormFetch.Session

open Text Http Prompt

/-- What is said between a session and its partners. -/
inductive Note where
  | sent (r : Request) (answer : Except Failure (Option Response))
  | asked (q : Question) (decision : Decision)

/-- The answer of the transport. -/
def Note.answer? : Note → Option (Except Failure (Option Response))
  | .sent _ answer => some answer
  | .asked _ _ => none

/-- The last answer of the transport. -/
def lastAnswer? (notes : List Note) : Option (Except Failure (Option Response)) :=
  (notes.filterMap Note.answer?).getLast?

theorem lastAnswer?_concat_sent (notes : List Note) (r : Request)
    (answer : Except Failure (Option Response)) :
    lastAnswer? (notes ++ [.sent r answer]) = some answer := by
  simp [lastAnswer?, Note.answer?]

theorem lastAnswer?_concat_asked (notes : List Note) (q : Question) (decision : Decision) :
    lastAnswer? (notes ++ [.asked q decision]) = lastAnswer? notes := by
  simp [lastAnswer?, Note.answer?]

section Transcribing

variable {σ : Type}

/-- The same partners, and a transcript. -/
def transcribing (p : Partners σ) : Partners (σ × List Note) where
  execute r s :=
    ((p.execute r s.1).1, (p.execute r s.1).2, s.2 ++ [.sent r (p.execute r s.1).1])
  ask q s := ((p.ask q s.1).1, (p.ask q s.1).2, s.2 ++ [.asked q (p.ask q s.1).1])
  date s := ((p.date s.1).1, (p.date s.1).2, s.2)

variable (p : Partners σ) (settings : ServerSettings) (store : Store)

theorem follows_transcribing : Follows (transcribing p) p Prod.fst where
  execute _ _ := rfl
  ask _ _ := rfl
  date _ := rfl

/-- What is said in the course of an operation. -/
def Operation.transcript (op : Operation) (url : String) (s : σ) : List Note :=
  (op.run (transcribing p) settings store url (s, [])).2.2.2

/-- The transcript changes nothing of what an operation does. -/
theorem Operation.run_transcribing (op : Operation) (url : String) (s : σ) (notes : List Note) :
    op.run p settings store url s =
      ((op.run (transcribing p) settings store url (s, notes)).1,
        (op.run (transcribing p) settings store url (s, notes)).2.1,
        (op.run (transcribing p) settings store url (s, notes)).2.2.1) :=
  op.run_of_follows (follows_transcribing p) settings store url (s, notes)

theorem lastAnswer?_send {method : Method} {more : Headers} {url : String}
    {s s' : σ × List Note} {answer : Except Failure (Option Response)}
    (h : send (transcribing p) settings store method more url s = (answer, s')) :
    lastAnswer? s'.2 = some answer := by
  cases h
  exact lastAnswer?_concat_sent ..

theorem lastAnswer?_ask {q : Question} {s s' : σ × List Note} {decision : Decision}
    (h : (transcribing p).ask q s = (decision, s')) : lastAnswer? s'.2 = lastAnswer? s.2 := by
  cases h
  exact lastAnswer?_concat_asked ..

/-- An exchange gives the answer that came last. -/
theorem lastAnswer?_exchange (method : Method) (more : Headers) (url : String)
    (s : σ × List Note) :
    lastAnswer? (exchange (transcribing p) settings store method more url s).state.2 =
      some (exchange (transcribing p) settings store method more url s).answer := by
  rcases exchange_cases (transcribing p) settings store method more url s with
    ⟨answer, s₁, hsend, hlast⟩ |
      ⟨response, s₁, s₂, hsend, hstatus, hask | ⟨username, password, hask⟩⟩
  · rw [exchange_of_answered hsend hlast]
    exact lastAnswer?_send p settings store hsend
  · rw [exchange_of_cancel hsend hstatus hask]
    exact (lastAnswer?_ask p hask).trans (lastAnswer?_send p settings store hsend)
  · rw [exchange_of_provide hsend hstatus hask]
    exact lastAnswer?_send p settings _ rfl

/-- With a proper address an operation makes its result of the answer that came last. -/
theorem Operation.lastAnswer?_transcript (op : Operation) {url : String} {address : Url}
    (h : validateUrl url = .ok address) (s : σ) :
    ∃ answer, lastAnswer? (op.transcript p settings store url s) = some answer ∧
      (op.run p settings store url s).1 = op.ofAnswer url answer := by
  refine ⟨(exchange (transcribing p) settings store op.method op.fields url (s, [])).answer,
    ?_, ?_⟩
  · rw [transcript, run_of_valid op h]
    exact lastAnswer?_exchange p settings store op.method op.fields url (s, [])
  · rw [op.run_transcribing p settings store url s [], run_of_valid op h]

/-- Without one nothing is said. -/
theorem Operation.transcript_of_invalid (op : Operation) {url : String} {failure : Failure}
    (h : validateUrl url = .error failure) (s : σ) : op.transcript p settings store url s = [] := by
  rw [transcript, run_of_invalid op h]

theorem Operation.lastAnswer?_transcript_eq_none_iff (op : Operation) {url : String} (s : σ) :
    lastAnswer? (op.transcript p settings store url s) = none ↔
      ∃ failure, validateUrl url = .error failure := by
  cases hurl : validateUrl url with
  | error failure =>
    rw [op.transcript_of_invalid p settings store hurl]
    exact ⟨fun _ => ⟨failure, rfl⟩, fun _ => rfl⟩
  | ok address =>
    obtain ⟨answer, hanswer, -⟩ := op.lastAnswer?_transcript p settings store hurl s
    rw [hanswer]
    constructor
    · intro h
      cases h
    · rintro ⟨failure, h⟩
      cases h

end Transcribing

end FormFetch.Session
