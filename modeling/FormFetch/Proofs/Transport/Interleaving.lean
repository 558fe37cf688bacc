import FormFetch.Proofs.Transport.Record

/-!
# Executions that overlap

Several executions of one client may be under way at once.  They share its memory,
which is used in two places only: when an execution presents something at first, and
when it answers a challenge.  `Step` is one such moment, with any reply and any other
execution in between.

* `Client.counts` lists the nonce counts that were presented under one nonce.
* `Counted` is the invariant that ties them to the memory (`counted_of_reachable`).
* `counts_increase_iff`: the counts increase exactly as long as the server does not
  challenge twice with the same nonce.
* `reachable_of_record`: a run without overlaps is one of these.
-/

namespace FormFetch.Transport

open FormFetch.Http FormFetch.Auth

/-! ## Clients and their steps -/

/-- A request under execution. -/
structure Execution where
  request : Request
  url : Url
  /-- The reply to its first sending is not there yet. -/
  waits : Bool

/-- A client and what it has done. -/
structure Client where
  memory : Memory := {}
  /-- All executions, in the order in which they began. -/
  executions : List Execution := []
  /-- Everything presented so far, each with its server. -/
  presented : List (Origin × Presented) := []
  /-- The challenges answered so far, each with its server. -/
  answered : List (Origin × Digest.Challenge) := []

namespace Client

/-- A request begins and presents something at first. -/
def begin {σ : Type} (net : Network σ) (c : Client) (r : Request) (url : Url) (s : σ) : Client :=
  let first := present net r url c.memory s
  { c with
    memory := first.2.1
    executions := c.executions ++ [⟨r, url, true⟩]
    presented := c.presented ++ [(url.origin, first.1)] }

/-- The `i`-th execution answers a challenge. -/
def answer {σ : Type} (net : Network σ) (c : Client) (i : Nat) (r : Request) (url : Url)
    (challenge : Digest.Challenge) (s : σ) : Client :=
  let second := answerChallenge net url challenge c.memory s
  { memory := second.2.1
    executions := c.executions.set i ⟨r, url, false⟩
    presented := c.presented ++ [(url.origin, second.1)]
    answered := c.answered ++ [(url.origin, challenge)] }

/-- The `i`-th execution ends with its first sending. -/
def finish (c : Client) (i : Nat) (r : Request) (url : Url) : Client :=
  { c with executions := c.executions.set i ⟨r, url, false⟩ }

end Client

/-- One moment of a client whose executions overlap.  What the surroundings remember may be
anything at each moment, and so may the reply that an execution gets. -/
inductive Step {σ : Type} (net : Network σ) : Client → Client → Prop where
  | begin {c : Client} {r : Request} {url : Url} (s : σ) (hv : r.validate = .ok url) :
      Step net c (c.begin net r url s)
  | answer {c : Client} {i : Nat} {r : Request} {url : Url} {reply : Reply}
      {challenge : Digest.Challenge} (s : σ) (hi : c.executions[i]? = some ⟨r, url, true⟩)
      (hr : r.credentials.isPresent = true) (hc : challenge? reply = some challenge) :
      Step net c (c.answer net i r url challenge s)
  | finish {c : Client} {i : Nat} {r : Request} {url : Url}
      (hi : c.executions[i]? = some ⟨r, url, true⟩) : Step net c (c.finish i r url)

/-- What a client can come to. -/
inductive Reachable {σ : Type} (net : Network σ) : Client → Prop where
  | new : Reachable net {}
  | step {c c' : Client} (h : Reachable net c) (hs : Step net c c') : Reachable net c'

/-! ## Nonce counts -/

/-- Answers to this challenge of the server `o` count under `nonce` of `origin`: only those with
`qop` have a count. -/
def Counts (origin : Origin) (nonce : String) (o : Origin) (challenge : Digest.Challenge) : Prop :=
  o = origin ∧ challenge.nonce = nonce ∧ challenge.offersAuth = true

instance (origin : Origin) (nonce : String) (o : Origin) (challenge : Digest.Challenge) :
    Decidable (Counts origin nonce o challenge) :=
  inferInstanceAs (Decidable (_ ∧ _ ∧ _))

/-- The nonce count of what is presented to a server. -/
def countUnder (origin : Origin) (nonce : String) : Origin × Presented → Option Nat
  | (o, .digest challenge count _) =>
    if Counts origin nonce o challenge then some count.toNat else none
  | (_, .nothing) | (_, .basic) => none

/-- The nonce counts presented to a server under a nonce, in order. -/
def Client.counts (c : Client) (origin : Origin) (nonce : String) : List Nat :=
  c.presented.filterMap (countUnder origin nonce)

/-- The challenges of a server with this nonce and `qop` that were answered. -/
def Client.answers (c : Client) (origin : Origin) (nonce : String) :
    List (Origin × Digest.Challenge) :=
  c.answered.filter fun a => Counts origin nonce a.1 a.2

/-- What is true of the counts under a nonce that was answered `answers` times: only a fresh answer
has the count one, and as long as there is no second one the counts increase. -/
structure Tally (counts : List Nat) (answers : Nat) : Prop where
  ones : counts.count 1 = answers
  pos : counts ≠ [] → 0 < answers
  increase : answers ≤ 1 → counts.Pairwise (· < ·)

theorem tally_nil : Tally [] 0 :=
  ⟨rfl, by simp, by simp⟩

/-- Another answer to the same challenge. -/
theorem Tally.again {counts : List Nat} {answers n : Nat} (h : Tally counts answers)
    (hpos : 0 < answers) (hn : 1 < n) (hlt : answers ≤ 1 → ∀ k ∈ counts, k < n) :
    Tally (counts ++ [n]) answers := by
  refine ⟨?_, fun _ => hpos, fun hle => ?_⟩
  · rw [List.count_append, h.ones, List.count_eq_zero.mpr]
    · omega
    · simp only [List.mem_singleton]
      omega
  · rw [List.pairwise_append]
    exact ⟨h.increase hle, List.pairwise_singleton _ _, by simpa using hlt hle⟩

theorem Tally.eq_nil {counts : List Nat} {answers : Nat} (h : Tally counts answers)
    (hzero : answers = 0) : counts = [] := by
  by_cases hne : counts = []
  · exact hne
  · have := h.pos hne
    omega

/-- An answer to a fresh challenge. -/
theorem Tally.afresh {counts : List Nat} {answers : Nat} (h : Tally counts answers) :
    Tally (counts ++ [1]) (answers + 1) := by
  refine ⟨?_, fun _ => Nat.succ_pos _, fun hle => ?_⟩
  · rw [List.count_append, h.ones]
    rfl
  · simp [h.eq_nil (by omega)]

/-- The memory counts the answers to each challenge. -/
structure Counted (c : Client) : Prop where
  /-- There are no more answers than executions. -/
  bound : ∀ origin known, c.memory.find? origin = some known →
    1 ≤ known.count.toNat ∧ known.count.toNat ≤ c.executions.length
  /-- A challenge is known because it was answered. -/
  kept : ∀ origin known, c.memory.find? origin = some known →
    (origin, known.challenge) ∈ c.answered
  tally : ∀ origin nonce, Tally (c.counts origin nonce) (c.answers origin nonce).length
  /-- The count in the memory is the greatest under a nonce that was answered once. -/
  greatest : ∀ origin known, c.memory.find? origin = some known →
    known.challenge.offersAuth = true →
    (c.answers origin known.challenge.nonce).length ≤ 1 →
    ∀ n ∈ c.counts origin known.challenge.nonce, n ≤ known.count.toNat

theorem counted_new : Counted {} where
  bound := by simp [Memory.find?]
  kept := by simp [Memory.find?]
  tally _ _ := tally_nil
  greatest := by simp [Memory.find?]

section Counting

variable {c c' : Client} {origin : Origin}

theorem counts_eq_append {x : Origin × Presented} (h : c'.presented = c.presented ++ [x])
    (origin : Origin) (nonce : String) :
    c'.counts origin nonce = c.counts origin nonce ++ (countUnder origin nonce x).toList := by
  cases hx : countUnder origin nonce x <;> simp [Client.counts, h, hx]

theorem answers_eq (h : c'.answered = c.answered) (origin : Origin) (nonce : String) :
    c'.answers origin nonce = c.answers origin nonce := by
  rw [Client.answers, h, Client.answers]

theorem countUnder_of_counts {nonce : String} {o : Origin} {challenge : Digest.Challenge}
    (h : Counts origin nonce o challenge) (count : UInt32) (cnonce : String) :
    countUnder origin nonce (o, .digest challenge count cnonce) = some count.toNat :=
  if_pos h

theorem countUnder_of_not_counts {nonce : String} {o : Origin} {challenge : Digest.Challenge}
    (h : ¬Counts origin nonce o challenge) (count : UInt32) (cnonce : String) :
    countUnder origin nonce (o, .digest challenge count cnonce) = none :=
  if_neg h

theorem Counted.answers_pos (h : Counted c) {known : Remembered}
    (hk : c.memory.find? origin = some known) (hq : known.challenge.offersAuth = true) :
    0 < (c.answers origin known.challenge.nonce).length := by
  apply List.length_pos_of_mem (a := (origin, known.challenge))
  rw [Client.answers, List.mem_filter]
  exact ⟨h.kept origin known hk, decide_eq_true ⟨rfl, rfl, hq⟩⟩

/-- What does not count leaves the counts as they are. -/
theorem Counted.of_same (h : Counted c) (hm : c'.memory = c.memory)
    (ha : c'.answered = c.answered)
    (hc : ∀ origin nonce, c'.counts origin nonce = c.counts origin nonce)
    (he : c.executions.length ≤ c'.executions.length) : Counted c' := by
  have hans := answers_eq ha
  refine ⟨?bound, ?kept, ?tally, ?greatest⟩
  case bound =>
    intro origin known hk
    rw [hm] at hk
    have := h.bound origin known hk
    omega
  case kept =>
    rw [hm, ha]
    exact h.kept
  case tally =>
    intro origin nonce
    rw [hc, hans]
    exact h.tally origin nonce
  case greatest =>
    intro origin known hk
    rw [hm] at hk
    rw [hc, hans]
    exact h.greatest origin known hk

/-- Another answer to a known challenge has the next count. -/
theorem Counted.again (h : Counted c) {known : Remembered} (cnonce : String)
    (hk : c.memory.find? origin = some known) (hcount : known.count.toNat < 4294967295)
    (hm : c'.memory = c.memory.put origin { known with count := nextCount known.count })
    (he : c'.executions.length = c.executions.length + 1)
    (hp : c'.presented =
      c.presented ++ [(origin, .digest known.challenge (nextCount known.count) cnonce)])
    (ha : c'.answered = c.answered) : Counted c' := by
  have hnext := toNat_nextCount hcount
  have hbound := h.bound origin known hk
  have hans := answers_eq ha
  have hc := counts_eq_append hp
  have hfind : ∀ {other known'}, c'.memory.find? other = some known' →
      other = origin ∧ known' = { known with count := nextCount known.count } ∨
        other ≠ origin ∧ c.memory.find? other = some known' := by
    intro other known' hk'
    rw [hm] at hk'
    exact Memory.find?_put_eq_some hk'
  refine ⟨?bound, ?kept, ?tally, ?greatest⟩
  case bound =>
    intro other known' hk'
    rcases hfind hk' with ⟨rfl, rfl⟩ | ⟨-, hk'⟩
    · simp only [hnext]
      omega
    · have := h.bound other known' hk'
      omega
  case kept =>
    intro other known' hk'
    rw [ha]
    rcases hfind hk' with ⟨rfl, rfl⟩ | ⟨-, hk'⟩
    · exact h.kept other known hk
    · exact h.kept other known' hk'
  case tally =>
    intro other nonce
    rw [hc, hans]
    by_cases hx : Counts other nonce origin known.challenge
    · rw [countUnder_of_counts hx]
      obtain ⟨rfl, rfl, hq⟩ := hx
      refine (h.tally origin _).again (h.answers_pos hk hq) (by omega) fun hle k hkc => ?_
      have := h.greatest origin known hk hq hle k hkc
      omega
    · simpa [countUnder_of_not_counts hx] using h.tally other nonce
  case greatest =>
    intro other known' hk' hq hle n hn
    rw [hans] at hle
    rw [hc] at hn
    rcases hfind hk' with ⟨rfl, rfl⟩ | ⟨ho, hk'⟩
    · rw [countUnder_of_counts ⟨rfl, rfl, hq⟩, Option.toList_some, List.mem_append,
        List.mem_singleton] at hn
      rcases hn with hn | rfl
      · have := h.greatest other known hk hq hle n hn
        simp only [hnext]
        omega
      · exact Nat.le_refl _
    · rw [countUnder_of_not_counts fun hx => ho hx.1.symm, Option.toList_none,
        List.append_nil] at hn
      exact h.greatest other known' hk' hq hle n hn

/-- The answer to a fresh challenge has the count one and takes the place of what was known. -/
theorem Counted.afresh (h : Counted c) {challenge : Digest.Challenge} (cnonce : String)
    (hm : c'.memory = c.memory.put origin ⟨challenge, 1⟩)
    (he : c'.executions.length = c.executions.length) (hpos : 0 < c.executions.length)
    (hp : c'.presented = c.presented ++ [(origin, .digest challenge 1 cnonce)])
    (ha : c'.answered = c.answered ++ [(origin, challenge)]) : Counted c' := by
  have hc := counts_eq_append hp
  have hfind : ∀ {other known}, c'.memory.find? other = some known →
      other = origin ∧ known = ⟨challenge, 1⟩ ∨
        other ≠ origin ∧ c.memory.find? other = some known := by
    intro other known hk
    rw [hm] at hk
    exact Memory.find?_put_eq_some hk
  have hans : ∀ other nonce, Counts other nonce origin challenge →
      c'.answers other nonce = c.answers other nonce ++ [(origin, challenge)] := by
    intro other nonce hx
    simp [Client.answers, ha, hx]
  have hsame : ∀ other nonce, ¬Counts other nonce origin challenge →
      c'.answers other nonce = c.answers other nonce := by
    intro other nonce hx
    simp [Client.answers, ha, hx]
  refine ⟨?bound, ?kept, ?tally, ?greatest⟩
  case bound =>
    intro other known hk
    rcases hfind hk with ⟨rfl, rfl⟩ | ⟨-, hk⟩
    · simp only [UInt32.toNat_one]
      omega
    · rw [he]
      exact h.bound other known hk
  case kept =>
    intro other known hk
    rw [ha, List.mem_append]
    rcases hfind hk with ⟨rfl, rfl⟩ | ⟨-, hk⟩
    · exact Or.inr (List.mem_singleton_self _)
    · exact Or.inl (h.kept other known hk)
  case tally =>
    intro other nonce
    rw [hc]
    by_cases hx : Counts other nonce origin challenge
    · rw [countUnder_of_counts hx, hans other nonce hx, List.length_append]
      exact (h.tally other nonce).afresh
    · rw [countUnder_of_not_counts hx, hsame other nonce hx, Option.toList_none,
        List.append_nil]
      exact h.tally other nonce
  case greatest =>
    intro other known hk hq hle n hn
    rw [hc] at hn
    rcases hfind hk with ⟨rfl, rfl⟩ | ⟨ho, hk⟩
    · have hx : Counts other challenge.nonce other challenge := ⟨rfl, rfl, hq⟩
      rw [hans other _ hx, List.length_append, List.length_singleton] at hle
      -- The nonce is new, so the fresh answer is the only one under it.
      have hnil := (h.tally other challenge.nonce).eq_nil (by omega)
      rw [hnil, countUnder_of_counts hx] at hn
      simp only [Option.toList_some, List.nil_append, List.mem_singleton] at hn
      exact Nat.le_of_eq hn
    · have hx : ¬Counts other known.challenge.nonce origin challenge := fun hx => ho hx.1.symm
      rw [hsame other _ hx] at hle
      rw [countUnder_of_not_counts hx, Option.toList_none, List.append_nil] at hn
      exact h.greatest other known hk hq hle n hn

end Counting

/-! ## Every run of overlapping executions -/

section Runs

variable {σ : Type} {net : Network σ}

/-- One step keeps the invariant as long as the counter does not overflow. -/
theorem counted_step {c c' : Client} (h : Counted c) (hs : Step net c c')
    (hn : c'.executions.length < 4294967295) : Counted c' := by
  cases hs with
  | @begin r url s hv =>
    have hn' : c.executions.length + 1 < 4294967295 := by
      simpa [Client.begin] using hn
    by_cases hr : r.credentials.isPresent = true
    · cases hm : c.memory.find? url.origin with
      | none =>
        have hp := present_of_unknown net r url c.memory s hr hm
        refine h.of_same (by simp [Client.begin, hp]) rfl (fun origin nonce => ?_)
          (by simp [Client.begin])
        simp [Client.counts, Client.begin, hp, countUnder]
      | some known =>
        have hp := present_of_known net r url c.memory s hr hm
        have hbound := (h.bound _ _ hm).2
        exact h.again (net.nonce s).1 hm (by omega) (by simp [Client.begin, hp])
          (by simp [Client.begin]) (by simp [Client.begin, hp]) rfl
    · have hp := present_of_anonymous net r url c.memory s (by simpa using hr)
      refine h.of_same (by simp [Client.begin, hp]) rfl (fun origin nonce => ?_)
        (by simp [Client.begin])
      simp [Client.counts, Client.begin, hp, countUnder]
  | @answer i r url reply challenge s hi hr hc =>
    have hpos : 0 < c.executions.length := by
      have := (List.getElem?_eq_some_iff.mp hi).1
      omega
    exact h.afresh (net.nonce s).1 rfl (by simp [Client.answer]) hpos rfl rfl
  | finish hi => exact h.of_same rfl rfl (fun _ _ => rfl) (by simp [Client.finish])

theorem executions_le_of_step {c c' : Client} (hs : Step net c c') :
    c.executions.length ≤ c'.executions.length := by
  cases hs <;> simp [Client.begin, Client.answer, Client.finish]

theorem counted_of_reachable {c : Client} (h : Reachable net c)
    (hn : c.executions.length < 4294967295) : Counted c := by
  induction h with
  | new => exact counted_new
  | step h hs ih =>
    have hle := executions_le_of_step hs
    exact counted_step (ih (by omega)) hs hn

/-- Under one nonce of a server the counts increase, whatever overlaps with what, exactly if no
second challenge with this nonce is answered. -/
theorem counts_increase_iff {c : Client} (h : Reachable net c)
    (hn : c.executions.length < 4294967295) (origin : Origin) (nonce : String) :
    (c.counts origin nonce).Pairwise (· < ·) ↔ (c.answers origin nonce).length ≤ 1 := by
  have htally := (counted_of_reachable h hn).tally origin nonce
  constructor
  · intro hincrease
    have hnodup : (c.counts origin nonce).Nodup := hincrease.imp fun hlt => Nat.ne_of_lt hlt
    rw [← htally.ones]
    exact List.nodup_iff_count.mp hnodup 1
  · exact htally.increase

/-! ## A server that repeats its nonce -/

/-- What the server of `listRequest` asks for. -/
def listChallenge : Digest.Challenge :=
  ⟨"forms", "n", none, .md5, true, false⟩

theorem challenge?_refusal :
    challenge? (refusal "Digest realm=\"forms\", nonce=\"n\", qop=\"auth\"") =
      some listChallenge := by
  decide +kernel

/-- A client after one answer to the server of `listRequest`. -/
def answeredOnce : Client :=
  (({} : Client).begin scripted (listRequest "alice" "s3cret") listUrl []).answer scripted 0
    (listRequest "alice" "s3cret") listUrl listChallenge []

/-- The same client with one more request. -/
def answeredTwice : Client :=
  answeredOnce.begin scripted (listRequest "alice" "s3cret") listUrl []

theorem reachable_answeredTwice : Reachable scripted answeredTwice :=
  have hv := validate_listRequest "alice" "s3cret"
  ((Reachable.new.step (.begin [] hv)).step (.answer [] rfl rfl challenge?_refusal)).step
    (.begin [] hv)

/-- While the server has challenged once, the counts go up. -/
theorem counts_increase_answeredTwice :
    answeredTwice.counts listUrl.origin "n" = [1, 2] ∧
      (answeredTwice.counts listUrl.origin "n").Pairwise (· < ·) :=
  ⟨by decide +kernel,
    (counts_increase_iff reachable_answeredTwice (by decide) listUrl.origin "n").mpr
      (by decide +kernel)⟩

/-- A server that refuses an answer with the nonce that it has already used sees its first count
again. -/
theorem count_repeated :
    ∃ c, Reachable scripted c ∧ c.executions.length = 2 ∧
      c.counts listUrl.origin "n" = [1, 2, 1] := by
  refine ⟨answeredTwice.answer scripted 1 (listRequest "alice" "s3cret") listUrl listChallenge [],
    reachable_answeredTwice.step (.answer [] rfl rfl challenge?_refusal), rfl, ?_⟩
  decide +kernel

/-! ## Runs without overlaps -/

/-- The presentations of a list of sendings, each with its server. -/
def presentations (log : List Sent) : List (Origin × Presented) :=
  log.map fun x => (x.url.origin, x.sending.presented)

/-- One exchange is two or three steps: it begins, and it answers or finishes. -/
theorem Reachable.exchange {c : Client} (h : Reachable net c) {r : Request} {url : Url}
    (hv : r.validate = .ok url) (s : σ) :
    ∃ c', Reachable net c' ∧ c'.memory = (exchange net r url c.memory s).2.1 ∧
      c'.presented = c.presented ++
        (Transport.exchange net r url c.memory s).1.sendings.map
          fun x => (url.origin, x.presented) := by
  obtain ⟨p, m₁, s₁, outcome, s₂, hp, -, hcase⟩ := exchange_cases net r url c.memory s
  have hbegin := h.step (.begin s hv)
  have hi : (c.begin net r url s).executions[c.executions.length]? = some ⟨r, url, true⟩ := by
    simp [Client.begin]
  rcases hcase with ⟨he, -⟩ | ⟨ch, p', m₂, s₃, outcome', s₄, hr, hc, ha, -, he⟩
  · refine ⟨_, hbegin.step (.finish hi), ?_, ?_⟩
    · simp [Client.finish, Client.begin, hp, he]
    · simp [Client.finish, Client.begin, hp, he, Exchange.sendings]
  · obtain ⟨reply, rfl⟩ : ∃ reply, outcome = .ok reply := by
      cases outcome with
      | error failure => simp [Sending.challenge?] at hc
      | ok reply => exact ⟨reply, rfl⟩
    refine ⟨_, hbegin.step (.answer s₂ hi hr hc), ?_, ?_⟩
    · simp [Client.answer, Client.begin, hp, he, ha]
    · simp [Client.answer, Client.begin, hp, he, ha, Exchange.sendings]

/-- Executing one request after the other is a run in which nothing overlaps. -/
theorem Reachable.record {c : Client} (h : Reachable net c) (rs : List Request) (s : σ) :
    ∃ c', Reachable net c' ∧ c'.memory = (record net rs c.memory s).2.1 ∧
      c'.presented = c.presented ++ presentations (Transport.record net rs c.memory s).1 := by
  induction rs generalizing c s with
  | nil => exact ⟨c, h, rfl, by simp [Transport.record, presentations]⟩
  | cons r rest ih =>
    cases hv : r.validate with
    | error failure =>
      simpa [Transport.record, execute_of_invalid net hv, sent, hv] using ih h s
    | ok url =>
      obtain ⟨c₁, h₁, hm₁, hp₁⟩ := h.exchange hv s
      obtain ⟨c₂, h₂, hm₂, hp₂⟩ := ih h₁ (Transport.exchange net r url c.memory s).2.2
      refine ⟨c₂, h₂, ?_, ?_⟩
      · simpa [Transport.record, execute_of_valid net hv, hm₁] using hm₂
      · rw [hp₂, hp₁, hm₁]
        simp [Transport.record, execute_of_valid net hv, sent_of_valid net hv, presentations,
          Function.comp_def]

/-- Everything that a run without overlaps presents is presented by a client of this kind. -/
theorem reachable_of_record (rs : List Request) (s : σ) :
    ∃ c, Reachable net c ∧ c.presented = presentations (record net rs {} s).1 := by
  obtain ⟨c, h, -, hp⟩ := (Reachable.new : Reachable net {}).record rs s
  exact ⟨c, h, by simpa using hp⟩

end Runs

end FormFetch.Transport
