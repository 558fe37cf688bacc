import Mathlib.Logic.Function.Basic
import FormFetch.Proofs.Transport.Record
import FormFetch.Proofs.Url.OriginText

/-!
# Servers do not meet in a client

What a client presents to one server, what comes back and what it remembers of this server is
the same whether or not it talks to other servers, however the executions overlap.

There are four groups.

* What one part of an execution uses of the memory.  `find?_part_of_ne` says that it changes
  nothing that is known of other servers, and `part_congr` that it sees nothing of it.
* Executions that share a memory.  `run` is a client whose executions come in between each
  other in any order, and `advance_advance` says that an execution without others in between is
  `execute`.
* Two clients that are alike to one server.  `Alike.advance` and `Alike.advance_other` are the
  steps, and `alike_run` is the run.
* Memories under texts.  `lookup_byText` and `byText_put` say that the texts of the servers
  would do as keys.  `isolated` puts everything together.
-/

namespace FormFetch.Transport

open FormFetch.Http FormFetch.Auth FormFetch.Text

/-! ## Parts of an execution -/

/-- How far an execution is, and what its surroundings remember then. -/
inductive Stage (σ : Type) where
  | new (s : σ)
  /-- Its first sending met a challenge that is going to be answered. -/
  | challenged (challenge : Digest.Challenge) (s : σ)
  | ended (result : Except Failure Response)

/-- How far an execution is behind its first sending. -/
def Stage.behind {σ : Type} (r : Request) (first : Sending) (s : σ) : Stage σ :=
  match (if r.credentials.isPresent then first.challenge? else none) with
  | some challenge => .challenged challenge s
  | none => .ended (first.outcome.map (·.toResponse r.url))

/-- The next part of an execution: it uses the memory once, and sends what it presents. -/
def part {σ : Type} (net : Network σ) (r : Request) (url : Url) (m : Memory) :
    Stage σ → List Sending × Memory × Stage σ
  | .new s =>
    let first := present net r url m s
    let back := send net r url first.1 first.2.2
    ([⟨first.1, back.1⟩], first.2.1, .behind r ⟨first.1, back.1⟩ back.2)
  | .challenged challenge s =>
    let second := answerChallenge net url challenge m s
    let back := send net r url second.1 second.2.2
    ([⟨second.1, back.1⟩], second.2.1, .ended (back.1.map (·.toResponse r.url)))
  | .ended result => ([], m, .ended result)

section Part

variable {σ : Type} (net : Network σ) (r : Request) (url : Url) {m m' : Memory}

/-- What is presented at first changes nothing that is known of other servers. -/
theorem find?_present_of_ne (s : σ) {origin : Origin} (h : origin ≠ url.origin) :
    (present net r url m s).2.1.find? origin = m.find? origin := by
  by_cases hr : r.credentials.isPresent = true
  · cases hm : m.find? url.origin with
    | none => rw [present_of_unknown net r url m s hr hm]
    | some known =>
      rw [present_of_known net r url m s hr hm]
      exact Memory.find?_put_of_ne m _ h
  · rw [present_of_anonymous net r url m s (by simpa using hr)]

/-- What is presented at first depends on what is known of the server. -/
theorem present_congr (h : m.find? url.origin = m'.find? url.origin) (s : σ) :
    (present net r url m s).1 = (present net r url m' s).1 ∧
      (present net r url m s).2.2 = (present net r url m' s).2.2 ∧
      (present net r url m s).2.1.find? url.origin =
        (present net r url m' s).2.1.find? url.origin := by
  by_cases hr : r.credentials.isPresent = true
  · cases hm : m.find? url.origin with
    | none =>
      have hm' := h.symm.trans hm
      rw [present_of_unknown net r url m s hr hm, present_of_unknown net r url m' s hr hm']
      exact ⟨rfl, rfl, h⟩
    | some known =>
      have hm' := h.symm.trans hm
      rw [present_of_known net r url m s hr hm, present_of_known net r url m' s hr hm']
      refine ⟨rfl, rfl, ?_⟩
      rw [Memory.find?_put_self, Memory.find?_put_self]
  · have hr' : r.credentials.isPresent = false := by simpa using hr
    rw [present_of_anonymous net r url m s hr', present_of_anonymous net r url m' s hr']
    exact ⟨rfl, rfl, h⟩

/-- A part of an execution changes nothing that is known of other servers. -/
theorem find?_part_of_ne (stage : Stage σ) {origin : Origin} (h : origin ≠ url.origin) :
    (part net r url m stage).2.1.find? origin = m.find? origin := by
  cases stage with
  | new s => exact find?_present_of_ne net r url s h
  | challenged challenge s => exact Memory.find?_put_of_ne m _ h
  | ended result => rfl

/-- A part of an execution depends on what is known of its server, and on nothing else that is
known. -/
theorem part_congr (h : m.find? url.origin = m'.find? url.origin) (stage : Stage σ) :
    (part net r url m stage).1 = (part net r url m' stage).1 ∧
      (part net r url m stage).2.2 = (part net r url m' stage).2.2 ∧
      (part net r url m stage).2.1.find? url.origin =
        (part net r url m' stage).2.1.find? url.origin := by
  cases stage with
  | new s =>
    obtain ⟨hp, hs, hm⟩ := present_congr net r url h s
    simp only [part]
    rw [hp, hs]
    exact ⟨rfl, rfl, hm⟩
  | challenged challenge s =>
    refine ⟨rfl, rfl, ?_⟩
    show (m.put url.origin ⟨challenge, 1⟩).find? url.origin =
      (m'.put url.origin ⟨challenge, 1⟩).find? url.origin
    rw [Memory.find?_put_self, Memory.find?_put_self]
  | ended result => exact ⟨rfl, rfl, h⟩

end Part

/-! ## Executions that share a memory -/

/-- A request, and what its own surroundings remember when it begins: its replies and nonces to
come. -/
structure Task (σ : Type) where
  request : Request
  surroundings : σ

/-- A client with executions that have names. -/
structure Shared (ι σ : Type) where
  memory : Memory := {}
  stage : ι → Stage σ
  /-- All sendings so far, each with its execution. -/
  sent : List (ι × Sent) := []

/-- The server that the address of a request leads to. -/
def serverOf? (r : Request) : Option Origin :=
  (Url.parse? (trimmed r.url)).map Url.origin

/-- The value of the `Authorization` field of a sending. -/
def Sent.authorization? (x : Sent) : Option String :=
  x.sending.presented.text? x.request x.url

namespace Shared

variable {ι σ : Type}

/-- The sendings to a server. -/
def sentTo (c : Shared ι σ) (origin : Origin) : List (ι × Sent) :=
  c.sent.filter fun x => x.2.url.origin == origin

/-- The values of the `Authorization` field in the sendings to a server. -/
def authorizations (c : Shared ι σ) (origin : Origin) : List (Option String) :=
  (c.sentTo origin).map fun x => x.2.authorization?

/-- The result of an execution, once it has ended. -/
def result? (c : Shared ι σ) (i : ι) : Option (Except Failure Response) :=
  match c.stage i with
  | .ended result => some result
  | .new _ | .challenged .. => none

variable [DecidableEq ι]

/-- One execution goes on by one part. -/
def advance (net : Network σ) (tasks : ι → Task σ) (c : Shared ι σ) (i : ι) : Shared ι σ :=
  match (tasks i).request.validate with
  | .error failure => { c with stage := Function.update c.stage i (.ended (.error failure)) }
  | .ok url =>
    let next := part net (tasks i).request url c.memory (c.stage i)
    { memory := next.2.1
      stage := Function.update c.stage i next.2.2
      sent := c.sent ++ next.1.map fun sending => (i, ⟨(tasks i).request, url, sending⟩) }

end Shared

section Runs

variable {ι σ : Type} [DecidableEq ι] {net : Network σ} {tasks : ι → Task σ}

/-- A client whose executions go on in the order of a schedule. -/
def run (net : Network σ) (tasks : ι → Task σ) (schedule : List ι) : Shared ι σ :=
  schedule.foldl (Shared.advance net tasks) { stage := fun i => .new (tasks i).surroundings }

theorem advance_of_invalid {c : Shared ι σ} {i : ι} {failure : Failure}
    (h : (tasks i).request.validate = .error failure) :
    c.advance net tasks i =
      { c with stage := Function.update c.stage i (.ended (.error failure)) } := by
  simp only [Shared.advance, h]

theorem advance_of_valid {c : Shared ι σ} {i : ι} {url : Url}
    (h : (tasks i).request.validate = .ok url) :
    c.advance net tasks i =
      { memory := (part net (tasks i).request url c.memory (c.stage i)).2.1
        stage := Function.update c.stage i
          (part net (tasks i).request url c.memory (c.stage i)).2.2
        sent := c.sent ++ (part net (tasks i).request url c.memory (c.stage i)).1.map
          fun sending => (i, ⟨(tasks i).request, url, sending⟩) } := by
  simp only [Shared.advance, h]

theorem serverOf?_of_validate {r : Request} {url : Url} (h : r.validate = .ok url) :
    serverOf? r = some url.origin := by
  rw [serverOf?, (Request.validate_eq_ok_iff.mp h).1]
  rfl

/-- An execution that nothing comes in between is the one of a client on its own. -/
theorem advance_advance {c : Shared ι σ} {i : ι} {s : σ} (h : c.stage i = .new s) :
    let last := (c.advance net tasks i).advance net tasks i
    last.result? i = some (execute net (tasks i).request c.memory s).1 ∧
      last.memory = (execute net (tasks i).request c.memory s).2.1 ∧
      last.sent = c.sent ++ (sent net (tasks i).request c.memory s).map fun x => (i, x) := by
  intro last
  cases hvalid : (tasks i).request.validate with
  | error failure =>
    have hlast :
        last = { c with stage := Function.update c.stage i (.ended (.error failure)) } := by
      simp only [last, advance_of_invalid hvalid, Function.update_idem]
    rw [hlast, execute_of_invalid net hvalid, sent, hvalid]
    simp [Shared.result?]
  | ok url =>
    obtain ⟨p, m₁, s₁, outcome, s₂, hp, ho, hcase⟩ :=
      exchange_cases net (tasks i).request url c.memory s
    have hfirst : part net (tasks i).request url c.memory (.new s) =
        ([⟨p, outcome⟩], m₁, .behind (tasks i).request ⟨p, outcome⟩ s₂) := by
      simp only [part, hp, ho]
    rw [execute_of_valid net hvalid, sent_of_valid net hvalid]
    simp only [last, advance_of_valid hvalid, h, hfirst, Function.update_self,
      Function.update_idem]
    rcases hcase with ⟨he, hno⟩ | ⟨challenge, p', m₂, s₃, outcome', s₄, hr, hc, ha, ho', he⟩
    · have hended : Stage.behind (tasks i).request ⟨p, outcome⟩ s₂ =
          .ended (outcome.map (·.toResponse (tasks i).request.url)) := by
        unfold Stage.behind
        by_cases hr : (tasks i).request.credentials.isPresent = true
        · rw [if_pos hr, hno hr]
        · rw [if_neg hr]
      rw [he, hended]
      simp [Shared.result?, part, Exchange.outcome, Exchange.sendings]
    · have hasked : Stage.behind (tasks i).request ⟨p, outcome⟩ s₂ = .challenged challenge s₂ := by
        unfold Stage.behind
        rw [if_pos hr, hc]
      rw [he, hasked]
      simp [Shared.result?, part, ha, ho', Exchange.outcome, Exchange.sendings]

end Runs

/-! ## Clients that are alike to one server -/

section Alike

variable {ι σ : Type} {net : Network σ} {tasks : ι → Task σ} {origin : Origin}
  {c c' : Shared ι σ}

/-- Two clients look the same from one server. -/
structure Alike (tasks : ι → Task σ) (origin : Origin) (c c' : Shared ι σ) : Prop where
  memory : c.memory.find? origin = c'.memory.find? origin
  stage : ∀ i, serverOf? (tasks i).request = some origin → c.stage i = c'.stage i
  sent : c.sentTo origin = c'.sentTo origin

theorem Alike.symm (h : Alike tasks origin c c') : Alike tasks origin c' c :=
  ⟨h.memory.symm, fun i hi => (h.stage i hi).symm, h.sent.symm⟩

variable [DecidableEq ι]

/-- Nothing that another server's execution does is seen. -/
theorem Alike.advance_other (h : Alike tasks origin c c') {i : ι}
    (hi : serverOf? (tasks i).request ≠ some origin) :
    Alike tasks origin (c.advance net tasks i) c' := by
  have hstage : ∀ (stage : Stage σ) (j : ι), serverOf? (tasks j).request = some origin →
      Function.update c.stage i stage j = c'.stage j := by
    intro stage j hj
    have hne : j ≠ i := by
      rintro rfl
      exact hi hj
    rw [Function.update_of_ne hne]
    exact h.stage j hj
  cases hvalid : (tasks i).request.validate with
  | error failure =>
    rw [advance_of_invalid hvalid]
    exact ⟨h.memory, hstage _, h.sent⟩
  | ok url =>
    have hne : origin ≠ url.origin := by
      rintro rfl
      exact hi (serverOf?_of_validate hvalid)
    rw [advance_of_valid hvalid]
    refine ⟨?memory, hstage _, ?sent⟩
    case memory => exact (find?_part_of_ne net _ url _ hne).trans h.memory
    case sent =>
      rw [Shared.sentTo, List.filter_append, ← Shared.sentTo, h.sent,
        List.filter_eq_nil_iff.mpr, List.append_nil]
      intro x hx
      obtain ⟨sending, -, rfl⟩ := List.mem_map.mp hx
      rw [beq_iff_eq]
      exact hne.symm

/-- An execution of the server goes on in the same way. -/
theorem Alike.advance (h : Alike tasks origin c c') {i : ι}
    (hi : serverOf? (tasks i).request = some origin) :
    Alike tasks origin (c.advance net tasks i) (c'.advance net tasks i) := by
  have hstage : ∀ {stage stage' : Stage σ}, stage = stage' → ∀ j,
      serverOf? (tasks j).request = some origin →
        Function.update c.stage i stage j = Function.update c'.stage i stage' j := by
    rintro stage _ rfl j hj
    by_cases heq : j = i
    · rw [heq, Function.update_self, Function.update_self]
    · rw [Function.update_of_ne heq, Function.update_of_ne heq]
      exact h.stage j hj
  cases hvalid : (tasks i).request.validate with
  | error failure =>
    rw [advance_of_invalid hvalid, advance_of_invalid hvalid]
    exact ⟨h.memory, hstage rfl, h.sent⟩
  | ok url =>
    obtain rfl : url.origin = origin :=
      Option.some.inj ((serverOf?_of_validate hvalid).symm.trans hi)
    obtain ⟨hsent, hnext, hmemory⟩ :=
      part_congr net (tasks i).request url h.memory (c'.stage i)
    rw [advance_of_valid hvalid, advance_of_valid hvalid, h.stage i hi]
    refine ⟨hmemory, hstage hnext, ?_⟩
    rw [Shared.sentTo, Shared.sentTo, List.filter_append, List.filter_append, hsent,
      ← Shared.sentTo, ← Shared.sentTo, h.sent]

/-- Leaving out executions that lead elsewhere makes no difference. -/
theorem alike_run {keep : ι → Bool}
    (hkeep : ∀ i, serverOf? (tasks i).request = some origin → keep i = true)
    (schedule : List ι) :
    Alike tasks origin (run net tasks schedule) (run net tasks (schedule.filter keep)) := by
  have hrun : ∀ (schedule : List ι) (c c' : Shared ι σ), Alike tasks origin c c' →
      Alike tasks origin (schedule.foldl (Shared.advance net tasks) c)
        ((schedule.filter keep).foldl (Shared.advance net tasks) c') := by
    intro schedule
    induction schedule with
    | nil => exact fun c c' h => h
    | cons i rest ih =>
      intro c c' h
      by_cases hi : serverOf? (tasks i).request = some origin
      · rw [List.filter_cons_of_pos (hkeep i hi), List.foldl_cons, List.foldl_cons]
        exact ih _ _ (h.advance hi)
      · by_cases hkept : keep i = true
        · rw [List.filter_cons_of_pos hkept, List.foldl_cons, List.foldl_cons]
          exact ih _ _ ((h.advance_other hi).symm.advance_other hi).symm
        · rw [List.filter_cons_of_neg hkept, List.foldl_cons]
          exact ih _ _ (h.advance_other hi)
  exact hrun schedule _ _ ⟨rfl, fun i _ => rfl, rfl⟩

end Alike

/-! ## Memories under texts -/

/-- A memory under the texts of the servers. -/
def Memory.byText (m : Memory) : List (String × Remembered) :=
  m.challenges.map fun e => (Url.originText e.1, e.2)

/-- The servers that are known have hosts as they are read. -/
def Memory.Proper (m : Memory) : Prop :=
  ∀ e ∈ m.challenges, e.1.2.1.Proper

section Texts

variable {m : Memory} {origin : Origin}

/-- A server is found under its text. -/
theorem Memory.lookup_byText (h : m.Proper) (horigin : origin.2.1.Proper) :
    m.byText.lookup (Url.originText origin) = m.find? origin := by
  obtain ⟨entries⟩ := m
  unfold Memory.byText Memory.find?
  induction entries with
  | nil => rfl
  | cons e rest ih =>
    obtain ⟨hfirst, hrest⟩ := List.forall_mem_cons.mp h
    have ih := ih hrest
    dsimp only at ih hfirst ⊢
    rw [List.map_cons, List.lookup_cons, List.lookup_cons]
    by_cases heq : origin = e.1
    · rw [heq, beq_self_eq_true, beq_self_eq_true]
    · have htext : Url.originText origin ≠ Url.originText e.1 :=
        fun htext => heq (Url.originText_inj horigin hfirst htext)
      rw [beq_eq_false_iff_ne.mpr heq, beq_eq_false_iff_ne.mpr htext]
      exact ih

/-- What is kept about a server takes the place of what was kept under its text. -/
theorem Memory.byText_put (h : m.Proper) (horigin : origin.2.1.Proper) (r : Remembered) :
    (m.put origin r).byText =
      (Url.originText origin, r) :: m.byText.filter (·.1 != Url.originText origin) := by
  have hsame : ∀ e ∈ m.challenges,
      (e.1 != origin) = (Url.originText e.1 != Url.originText origin) := by
    intro e he
    rw [Bool.eq_iff_iff, bne_iff_ne, bne_iff_ne]
    constructor
    · intro hne htext
      exact hne (Url.originText_inj (h e he) horigin htext)
    · rintro hne rfl
      exact hne rfl
  unfold Memory.byText Memory.put
  rw [List.map_cons, List.filter_congr hsame, List.filter_map]
  rfl

theorem Memory.Proper.put (h : m.Proper) (horigin : origin.2.1.Proper) (r : Remembered) :
    (m.put origin r).Proper := by
  intro e he
  rcases List.mem_cons.mp he with rfl | he
  · exact horigin
  · exact h e (List.mem_filter.mp he).1

theorem proper_part {σ : Type} (net : Network σ) (r : Request) {url : Url}
    (hurl : url.host.Proper) (h : m.Proper) (stage : Stage σ) :
    (part net r url m stage).2.1.Proper := by
  cases stage with
  | new s =>
    show (present net r url m s).2.1.Proper
    by_cases hr : r.credentials.isPresent = true
    · cases hm : m.find? url.origin with
      | none =>
        rw [present_of_unknown net r url m s hr hm]
        exact h
      | some known =>
        rw [present_of_known net r url m s hr hm]
        exact h.put hurl _
    · rw [present_of_anonymous net r url m s (by simpa using hr)]
      exact h
  | challenged challenge s => exact h.put hurl _
  | ended result => exact h

/-- A client knows servers only whose addresses it has read. -/
theorem proper_run {ι σ : Type} [DecidableEq ι] (net : Network σ) (tasks : ι → Task σ)
    (schedule : List ι) : (run net tasks schedule).memory.Proper := by
  have hrun : ∀ (schedule : List ι) (c : Shared ι σ), c.memory.Proper →
      (schedule.foldl (Shared.advance net tasks) c).memory.Proper := by
    intro schedule
    induction schedule with
    | nil => exact fun c h => h
    | cons i rest ih =>
      intro c h
      rw [List.foldl_cons]
      apply ih
      cases hvalid : (tasks i).request.validate with
      | error failure =>
        rw [advance_of_invalid hvalid]
        exact h
      | ok url =>
        have hurl := Url.proper_of_parse? (Request.validate_eq_ok_iff.mp hvalid).1
        rw [advance_of_valid hvalid]
        exact proper_part net (tasks i).request hurl h (c.stage i)
  apply hrun
  intro e he
  cases he

end Texts

/-! ## Isolation -/

/-- Leaving out executions that lead to other servers changes nothing that concerns a server: what
is sent to it, with what credentials, what comes of it, and what is remembered of it.  Servers
are told apart by their texts. -/
theorem isolated {ι σ : Type} [DecidableEq ι] (net : Network σ) (tasks : ι → Task σ)
    (schedule : List ι) (origin : Origin) (keep : ι → Bool)
    (hkeep : ∀ i, serverOf? (tasks i).request = some origin → keep i = true) :
    let all := run net tasks schedule
    let few := run net tasks (schedule.filter keep)
    few.authorizations origin = all.authorizations origin ∧
    few.sentTo origin = all.sentTo origin ∧
    (∀ i, serverOf? (tasks i).request = some origin → few.result? i = all.result? i) ∧
    few.memory.find? origin = all.memory.find? origin ∧
    (∀ text url, Url.parse? text = some url →
      all.memory.byText.lookup (Url.originText url.origin) = all.memory.find? url.origin) ∧
    ∀ text other url url', Url.parse? text = some url → Url.parse? other = some url' →
      Url.originText url.origin = Url.originText url'.origin → url.origin = url'.origin := by
  intro all few
  have halike : Alike tasks origin all few := alike_run hkeep schedule
  refine ⟨?_, halike.sent.symm, ?_, halike.memory.symm, ?_, ?_⟩
  · rw [Shared.authorizations, Shared.authorizations, halike.sent]
  · intro i hi
    rw [Shared.result?, Shared.result?, halike.stage i hi]
  · intro text url hurl
    exact Memory.lookup_byText (proper_run net tasks schedule) (Url.proper_of_parse? hurl)
  · intro text other url url' hurl hurl'
    exact Url.originText_inj (Url.proper_of_parse? hurl) (Url.proper_of_parse? hurl')

/-- Two requests to servers that both ask for an answer, with the replies that each of them gets. -/
def twoTasks : Bool → Task (List Reply)
  | true => ⟨listRequest "alice" "s3cret", challengeOnce⟩
  | false =>
    ⟨{ listRequest "bob" "pass" with url := "https://[::1]:443/formList" },
      [refusal "Digest realm=\"other\", nonce=\"m\", qop=\"auth\"", ⟨200, {}, []⟩]⟩

theorem isolated_twoTasks :
    (∀ i, serverOf? (twoTasks i).request = some listUrl.origin → id i = true) ∧
      ((run scripted twoTasks [true, false, true, false]).authorizations
        listUrl.origin).length = 2 ∧
      (run scripted twoTasks [true, true]).authorizations listUrl.origin =
        (run scripted twoTasks [true, false, true, false]).authorizations listUrl.origin ∧
      (run scripted twoTasks [true, true]).memory.find? listUrl.origin =
        (run scripted twoTasks [true, false, true, false]).memory.find? listUrl.origin := by
  have hkeep : ∀ i, serverOf? (twoTasks i).request = some listUrl.origin → id i = true := by
    intro i hi
    cases i with
    | true => rfl
    | false => exact absurd hi (by decide +kernel)
  obtain ⟨hvalues, -, -, hmemory, -, -⟩ :=
    isolated scripted twoTasks [true, false, true, false] listUrl.origin id hkeep
  exact ⟨hkeep, by decide +kernel, hvalues, hmemory⟩

end FormFetch.Transport
