import Mathlib.Data.List.Induction
import FormFetch.Proofs.Transport.Isolation
import FormFetch.Proofs.Transport.Trail

/-!
# Where remembered challenges come from

A client keeps a challenge for the server that its request was for.  The refusal that carried
it may have come from elsewhere, if redirects led there; then another server decides what is
remembered of the first one.

* `watch` is a client whose executions overlap, together with the trails of its sendings.
* `Issued` says that a server has asked for an answer itself, and `Met` that a challenge stood
  at the end of a trail.
* `Sourced` is the invariant: what is remembered was met (`sourced_watch`).
* `answered_of_known` and `known_of_answered` tie what is remembered to the answers that were
  sent.
* `remembered_iff` says when everything that is remembered of a server was issued by it, and
  `remembered_from_elsewhere` is a run in which it was not.
-/

namespace FormFetch.Transport

open FormFetch.Http FormFetch.Auth FormFetch.Text

/-! ## Clients that are watched -/

/-- A sending that left a trail. -/
structure Tracked where
  request : Request
  url : Url
  trail : List Hop

/-- The trails of the next part of an execution. -/
def trailsOf {σ : Type} (net : Network σ) (r : Request) (url : Url) (m : Memory) :
    Stage σ → List (List Hop)
  | .new s =>
    let first := present net r url m s
    [hops net r url first.1 first.2.2]
  | .challenged challenge s =>
    let second := answerChallenge net url challenge m s
    [hops net r url second.1 second.2.2]
  | .ended _ => []

/-- A client, and all trails so far. -/
structure Watched (ι σ : Type) where
  client : Shared ι σ
  tracked : List Tracked := []

section Watching

variable {ι σ : Type} [DecidableEq ι] (net : Network σ) (tasks : ι → Task σ)

/-- The trails that an execution leaves when it goes on. -/
def Shared.trails (c : Shared ι σ) (i : ι) : List Tracked :=
  match (tasks i).request.validate with
  | .error _ => []
  | .ok url =>
    (trailsOf net (tasks i).request url c.memory (c.stage i)).map fun trail =>
      ⟨(tasks i).request, url, trail⟩

/-- One execution goes on. -/
def Watched.advance (w : Watched ι σ) (i : ι) : Watched ι σ where
  client := w.client.advance net tasks i
  tracked := w.tracked ++ w.client.trails net tasks i

/-- A client whose executions go on in the order of a schedule. -/
def watch (schedule : List ι) : Watched ι σ :=
  schedule.foldl (Watched.advance net tasks)
    { client := { stage := fun i => .new (tasks i).surroundings } }

theorem client_advance (w : Watched ι σ) (i : ι) :
    (w.advance net tasks i).client = w.client.advance net tasks i := by
  simp only [Watched.advance]

theorem run_concat (schedule : List ι) (i : ι) :
    run net tasks (schedule ++ [i]) = (run net tasks schedule).advance net tasks i := by
  rw [run, List.foldl_append, ← run, List.foldl_cons, List.foldl_nil]

theorem watch_concat (schedule : List ι) (i : ι) :
    watch net tasks (schedule ++ [i]) = (watch net tasks schedule).advance net tasks i := by
  rw [watch, List.foldl_append, ← watch, List.foldl_cons, List.foldl_nil]

/-- Watching changes nothing. -/
theorem client_watch (schedule : List ι) :
    (watch net tasks schedule).client = run net tasks schedule := by
  induction schedule using List.reverseRecOn with
  | nil => rfl
  | append_singleton schedule i ih => rw [watch_concat, run_concat, ← ih, client_advance]

end Watching

/-! ## Challenges that were issued and challenges that were met -/

/-- A server has asked for an answer to this challenge: one of its refusals carried it. -/
def Issued (tracked : List Tracked) (origin : Origin) (c : Digest.Challenge) : Prop :=
  ∃ x ∈ tracked, ∃ out reply, ⟨out, .ok reply⟩ ∈ x.trail ∧ out.url.origin = origin ∧
    reply.status = 401 ∧
    ∃ value ∈ reply.headers.getAll "www-authenticate",
      (fieldText? value).bind Digest.Challenge.parse? = some c

/-- A request with credentials for a server has led to a refusal, of whatever server, with this
challenge. -/
def Met (tracked : List Tracked) (origin : Origin) (c : Digest.Challenge) : Prop :=
  ∃ x ∈ tracked, x.url.origin = origin ∧ x.request.credentials.isPresent ∧
    ∃ out reply, x.trail.getLast? = some ⟨out, .ok reply⟩ ∧ challenge? reply = some c

/-- This challenge has been answered in a sending to a server. -/
def Answered {ι : Type} (sent : List (ι × Sent)) (origin : Origin) (c : Digest.Challenge) : Prop :=
  ∃ x ∈ sent, x.2.url.origin = origin ∧
    ∃ count cnonce, x.2.sending.presented = .digest c count cnonce

theorem Met.append {tracked : List Tracked} {origin : Origin} {c : Digest.Challenge}
    (h : Met tracked origin c) (more : List Tracked) : Met (tracked ++ more) origin c := by
  obtain ⟨x, hx, hmet⟩ := h
  exact ⟨x, List.mem_append_left _ hx, hmet⟩

theorem Issued.append {tracked : List Tracked} {origin : Origin} {c : Digest.Challenge}
    (h : Issued tracked origin c) (more : List Tracked) : Issued (tracked ++ more) origin c := by
  obtain ⟨x, hx, hissued⟩ := h
  exact ⟨x, List.mem_append_left _ hx, hissued⟩

theorem Answered.append {ι : Type} {sent : List (ι × Sent)} {origin : Origin}
    {c : Digest.Challenge} (h : Answered sent origin c) (more : List (ι × Sent)) :
    Answered (sent ++ more) origin c := by
  obtain ⟨x, hx, hanswered⟩ := h
  exact ⟨x, List.mem_append_left _ hx, hanswered⟩

theorem exists_of_challenge? {reply : Reply} {c : Digest.Challenge}
    (h : challenge? reply = some c) :
    reply.status = 401 ∧ ∃ value ∈ reply.headers.getAll "www-authenticate",
      (fieldText? value).bind Digest.Challenge.parse? = some c := by
  unfold challenge? at h
  split at h
  · rename_i hstatus
    obtain ⟨text, htext, hc⟩ := List.exists_of_findSome?_eq_some h
    obtain ⟨value, hvalue, hread⟩ := List.mem_filterMap.mp htext
    refine ⟨hstatus, value, hvalue, ?_⟩
    rw [hread]
    exact hc
  · cases h

/-- A server at the end of the trail has issued the challenge itself. -/
theorem issued_of_last {tracked : List Tracked} {x : Tracked} (hx : x ∈ tracked) {out : Outgoing}
    {reply : Reply} (hlast : x.trail.getLast? = some ⟨out, .ok reply⟩) {c : Digest.Challenge}
    (hc : challenge? reply = some c) : Issued tracked out.url.origin c := by
  obtain ⟨hstatus, hvalue⟩ := exists_of_challenge? hc
  exact ⟨x, hx, out, reply, List.mem_of_getLast? hlast, rfl, hstatus, hvalue⟩

/-! ## What is remembered was met -/

section Parts

variable {σ : Type} (net : Network σ) (r : Request) (url : Url) (m : Memory)

/-- What is presented at first brings no new challenge into the memory. -/
theorem challenge_of_find?_present {s : σ} {origin : Origin} {known : Remembered}
    (h : (present net r url m s).2.1.find? origin = some known) :
    ∃ before, m.find? origin = some before ∧ before.challenge = known.challenge := by
  by_cases ho : origin = url.origin
  · subst ho
    by_cases hr : r.credentials.isPresent = true
    · cases hm : m.find? url.origin with
      | none =>
        rw [present_of_unknown net r url m s hr hm, hm] at h
        cases h
      | some before =>
        rw [present_of_known net r url m s hr hm] at h
        obtain rfl := Option.some.inj ((Memory.find?_put_self ..).symm.trans h)
        exact ⟨before, rfl, rfl⟩
    · rw [present_of_anonymous net r url m s (by simpa using hr)] at h
      exact ⟨known, h, rfl⟩
  · rw [find?_present_of_ne net r url s ho] at h
    exact ⟨known, h, rfl⟩

/-- An execution that is going to answer a challenge has met it with its first sending. -/
theorem challenged_of_behind {first : Sending} {s s' : σ} {c : Digest.Challenge}
    (h : Stage.behind r first s = .challenged c s') :
    r.credentials.isPresent = true ∧
      ∃ reply, first.outcome = .ok reply ∧ challenge? reply = some c := by
  unfold Stage.behind at h
  by_cases hr : r.credentials.isPresent = true
  · refine ⟨hr, ?_⟩
    rw [if_pos hr] at h
    unfold Sending.challenge? at h
    cases houtcome : first.outcome with
    | error failure =>
      rw [houtcome] at h
      cases h
    | ok reply =>
      rw [houtcome] at h
      dsimp only at h
      cases hc : challenge? reply with
      | none =>
        rw [hc] at h
        cases h
      | some c' =>
        rw [hc] at h
        cases h
        exact ⟨reply, rfl, hc⟩
  · rw [if_neg hr] at h
    cases h

/-- What is known after a part of an execution was known before, or it is the challenge that the
part has answered. -/
theorem known_of_part {stage : Stage σ} {origin : Origin} {known : Remembered}
    (h : (part net r url m stage).2.1.find? origin = some known) :
    (∃ before, m.find? origin = some before ∧ before.challenge = known.challenge) ∨
      origin = url.origin ∧ ∃ s, stage = .challenged known.challenge s := by
  cases stage with
  | new s => exact Or.inl (challenge_of_find?_present net r url m h)
  | challenged c s =>
    rcases Memory.find?_put_eq_some h with ⟨ho, rfl⟩ | ⟨-, h⟩
    · exact Or.inr ⟨ho, s, rfl⟩
    · exact Or.inl ⟨known, h, rfl⟩
  | ended result => exact Or.inl ⟨known, h, rfl⟩

/-- A challenge that is going to be answered stands at the end of a trail. -/
theorem last_of_part {stage : Stage σ} {c : Digest.Challenge} {s' : σ}
    (h : (part net r url m stage).2.2 = .challenged c s') :
    r.credentials.isPresent = true ∧ ∃ trail ∈ trailsOf net r url m stage, ∃ out reply,
      trail.getLast? = some ⟨out, .ok reply⟩ ∧ challenge? reply = some c := by
  cases stage with
  | new s =>
    obtain ⟨hr, reply, houtcome, hc⟩ := challenged_of_behind r h
    obtain ⟨last, hlast⟩ := getLast?_hops net r url _ houtcome
    exact ⟨hr, _, List.mem_singleton_self _, last, reply, hlast, hc⟩
  | challenged => cases h
  | ended => cases h

/-- The challenge that was met is answered in the next part. -/
theorem exists_answer (c : Digest.Challenge) (s : σ) :
    ∃ sending ∈ (part net r url m (.challenged c s)).1,
      sending.presented = .digest c 1 (net.nonce s).1 :=
  ⟨_, List.mem_singleton_self _, rfl⟩

/-- A challenge that a part of an execution has answered is remembered then. -/
theorem known_of_digest {stage : Stage σ} {sending : Sending}
    (hsending : sending ∈ (part net r url m stage).1) {c : Digest.Challenge} {count : UInt32}
    {cnonce : String} (h : sending.presented = .digest c count cnonce) :
    ∃ known, (part net r url m stage).2.1.find? url.origin = some known ∧
      known.challenge = c := by
  cases stage with
  | new s =>
    obtain rfl := List.mem_singleton.mp hsending
    have h : (present net r url m s).1 = .digest c count cnonce := h
    show ∃ known, (present net r url m s).2.1.find? url.origin = some known ∧ _
    by_cases hr : r.credentials.isPresent = true
    · cases hm : m.find? url.origin with
      | none =>
        rw [present_of_unknown net r url m s hr hm] at h
        cases h
      | some known =>
        rw [present_of_known net r url m s hr hm] at h ⊢
        cases h
        exact ⟨_, Memory.find?_put_self .., rfl⟩
    · rw [present_of_anonymous net r url m s (by simpa using hr)] at h
      cases h
  | challenged c' s =>
    obtain rfl := List.mem_singleton.mp hsending
    cases h
    exact ⟨_, Memory.find?_put_self .., rfl⟩
  | ended => cases hsending

end Parts

section Runs

variable {ι σ : Type} [DecidableEq ι] {net : Network σ} {tasks : ι → Task σ}

theorem tracked_of_valid {w : Watched ι σ} {i : ι} {url : Url}
    (h : (tasks i).request.validate = .ok url) :
    (w.advance net tasks i).tracked = w.tracked ++
      (trailsOf net (tasks i).request url w.client.memory (w.client.stage i)).map
        fun trail => ⟨(tasks i).request, url, trail⟩ := by
  simp only [Watched.advance, Shared.trails, h]

/-- Every challenge that is remembered, or is going to be answered, was met by a request to its
server. -/
structure Sourced (tasks : ι → Task σ) (w : Watched ι σ) : Prop where
  known : ∀ origin known, w.client.memory.find? origin = some known →
    Met w.tracked origin known.challenge
  pending : ∀ i url c s, (tasks i).request.validate = .ok url →
    w.client.stage i = .challenged c s → Met w.tracked url.origin c

/-- One part of an execution keeps the invariant. -/
theorem Sourced.advance {w : Watched ι σ} (h : Sourced tasks w) (i : ι) :
    Sourced tasks (w.advance net tasks i) := by
  -- What was met stays met.
  have hmet : ∀ {origin c}, Met w.tracked origin c →
      Met (w.advance net tasks i).tracked origin c := fun hm => hm.append _
  have hother : ∀ {stage : Stage σ} {j : ι}, j ≠ i →
      Function.update w.client.stage i stage j = w.client.stage j := fun hne =>
    Function.update_of_ne hne ..
  cases hvalid : (tasks i).request.validate with
  | error failure =>
    refine ⟨?known, ?pending⟩
    case known =>
      intro origin known hknown
      rw [client_advance, advance_of_invalid hvalid] at hknown
      exact hmet (h.known origin known hknown)
    case pending =>
      intro j url c s hurl hstage
      have hne : j ≠ i := by
        rintro rfl
        rw [hvalid] at hurl
        cases hurl
      rw [client_advance, advance_of_invalid hvalid] at hstage
      exact hmet (h.pending j url c s hurl ((hother hne).symm.trans hstage))
  | ok url =>
    refine ⟨?known, ?pending⟩
    case known =>
      intro origin known hknown
      rw [client_advance, advance_of_valid hvalid] at hknown
      rcases known_of_part net _ url _ hknown with ⟨before, hbefore, hc⟩ | ⟨rfl, s, hstage⟩
      · rw [← hc]
        exact hmet (h.known origin before hbefore)
      · exact hmet (h.pending i url _ s hvalid hstage)
    case pending =>
      intro j url' c s hurl hstage
      rw [client_advance, advance_of_valid hvalid] at hstage
      by_cases hne : j = i
      · subst hne
        obtain rfl : url = url' := Except.ok.inj (hvalid.symm.trans hurl)
        have hnext := (Function.update_self j _ w.client.stage).symm.trans hstage
        obtain ⟨hr, trail, htrail, out, reply, hlast, hc⟩ := last_of_part net _ url _ hnext
        refine ⟨⟨_, url, trail⟩, ?_, rfl, hr, out, reply, hlast, hc⟩
        rw [tracked_of_valid hvalid]
        exact List.mem_append_right _ (List.mem_map.mpr ⟨trail, htrail, rfl⟩)
      · exact hmet (h.pending j url' c s hurl ((hother hne).symm.trans hstage))

/-- In every run the remembered challenges were met. -/
theorem sourced_watch (schedule : List ι) : Sourced tasks (watch net tasks schedule) := by
  induction schedule using List.reverseRecOn with
  | nil =>
    refine ⟨?known, ?pending⟩
    case known =>
      intro origin known hknown
      cases hknown
    case pending =>
      intro i url c s hurl hstage
      cases hstage
  | append_singleton schedule i ih =>
    rw [watch_concat]
    exact ih.advance i

/-! ## What is remembered was answered -/

theorem Answered.of_part {c : Shared ι σ} {i : ι} {url : Url}
    (hvalid : (tasks i).request.validate = .ok url) {sending : Sending}
    (hsending : sending ∈ (part net (tasks i).request url c.memory (c.stage i)).1)
    {challenge : Digest.Challenge} {count : UInt32} {cnonce : String}
    (h : sending.presented = .digest challenge count cnonce) :
    Answered (c.advance net tasks i).sent url.origin challenge := by
  rw [advance_of_valid hvalid]
  exact ⟨_, List.mem_append_right _ (List.mem_map.mpr ⟨sending, hsending, rfl⟩), rfl, count,
    cnonce, h⟩

/-- A remembered challenge has been answered. -/
theorem answered_of_known {schedule : List ι} {origin : Origin} {known : Remembered}
    (h : (run net tasks schedule).memory.find? origin = some known) :
    Answered (run net tasks schedule).sent origin known.challenge := by
  induction schedule using List.reverseRecOn generalizing known with
  | nil => cases h
  | append_singleton schedule i ih =>
    rw [run_concat] at h ⊢
    cases hvalid : (tasks i).request.validate with
    | error failure =>
      rw [advance_of_invalid hvalid] at h ⊢
      exact ih h
    | ok url =>
      rw [advance_of_valid hvalid] at h
      rcases known_of_part net _ url _ h with ⟨before, hbefore, hc⟩ | ⟨rfl, s, hstage⟩
      · rw [advance_of_valid hvalid, ← hc]
        exact (ih hbefore).append _
      · obtain ⟨sending, hsending, hdigest⟩ :=
          exists_answer net (tasks i).request url
            (run net tasks schedule).memory known.challenge s
        refine Answered.of_part hvalid ?_ hdigest
        rw [hstage]
        exact hsending

/-- An answered challenge was remembered at some time. -/
theorem known_of_answered {schedule : List ι} {origin : Origin} {c : Digest.Challenge}
    (h : Answered (run net tasks schedule).sent origin c) :
    ∃ before, before <+: schedule ∧ ∃ known,
      (run net tasks before).memory.find? origin = some known ∧ known.challenge = c := by
  induction schedule using List.reverseRecOn with
  | nil =>
    obtain ⟨x, hx, -⟩ := h
    cases hx
  | append_singleton schedule i ih =>
    have hearlier : Answered (run net tasks schedule).sent origin c →
        ∃ before, before <+: schedule ++ [i] ∧ ∃ known,
          (run net tasks before).memory.find? origin = some known ∧ known.challenge = c := by
      intro hanswered
      obtain ⟨before, hbefore, hknown⟩ := ih hanswered
      exact ⟨before, hbefore.trans (List.prefix_append ..), hknown⟩
    rw [run_concat] at h
    cases hvalid : (tasks i).request.validate with
    | error failure =>
      rw [advance_of_invalid hvalid] at h
      exact hearlier h
    | ok url =>
      obtain ⟨x, hx, horigin, count, cnonce, hdigest⟩ := h
      rw [advance_of_valid hvalid] at hx
      rcases List.mem_append.mp hx with hx | hx
      · exact hearlier ⟨x, hx, horigin, count, cnonce, hdigest⟩
      · obtain ⟨sending, hsending, rfl⟩ := List.mem_map.mp hx
        obtain ⟨known, hknown, hc⟩ := known_of_digest net _ url _ hsending hdigest
        refine ⟨_, List.prefix_refl _, known, ?_, hc⟩
        rw [run_concat, advance_of_valid hvalid, ← horigin]
        exact hknown

theorem Issued.extended {before schedule : List ι} (hbefore : before <+: schedule)
    {origin : Origin} {c : Digest.Challenge}
    (h : Issued (watch net tasks before).tracked origin c) :
    Issued (watch net tasks schedule).tracked origin c := by
  obtain ⟨more, rfl⟩ := hbefore
  induction more using List.reverseRecOn with
  | nil =>
    rw [List.append_nil]
    exact h
  | append_singleton more i ih =>
    rw [← List.append_assoc, watch_concat]
    exact ih.append _

end Runs

/-! ## When everything was issued -/

/-- No redirect has led a request with credentials to the refusal of another server. -/
def OwnRefusals (tracked : List Tracked) : Prop :=
  ∀ x ∈ tracked, x.request.credentials.isPresent → ∀ out reply c,
    x.trail.getLast? = some ⟨out, .ok reply⟩ → challenge? reply = some c →
    out.url.origin = x.url.origin

/-- What a client remembers of a server was met by a request for this server.  At the end of its
trail stood a refusal with this challenge, and the server of this refusal has issued it.

Redirects may have led elsewhere, so that it was another server.  If they have not, the server has
issued all that is remembered of it.  And everything that is remembered in the course of a run was
issued by the server that it is remembered of, exactly if every answer that is sent answers a
challenge of the server that it is sent to. -/
theorem remembered_iff {ι σ : Type} [DecidableEq ι] (net : Network σ) (tasks : ι → Task σ)
    (schedule : List ι) :
    (∀ origin known, (run net tasks schedule).memory.find? origin = some known →
      ∃ x ∈ (watch net tasks schedule).tracked, x.url.origin = origin ∧
        x.request.credentials.isPresent ∧
        ∃ out reply, x.trail.getLast? = some ⟨out, .ok reply⟩ ∧
          challenge? reply = some known.challenge ∧
          Issued (watch net tasks schedule).tracked out.url.origin known.challenge) ∧
    (OwnRefusals (watch net tasks schedule).tracked →
      ∀ origin known, (run net tasks schedule).memory.find? origin = some known →
        Issued (watch net tasks schedule).tracked origin known.challenge) ∧
    ((∀ before, before <+: schedule → ∀ origin known,
        (run net tasks before).memory.find? origin = some known →
        Issued (watch net tasks before).tracked origin known.challenge) ↔
      ∀ before, before <+: schedule → ∀ origin c,
        Answered (run net tasks before).sent origin c →
        Issued (watch net tasks before).tracked origin c) := by
  have hmet : ∀ origin known, (run net tasks schedule).memory.find? origin = some known →
      Met (watch net tasks schedule).tracked origin known.challenge := by
    rw [← client_watch]
    exact (sourced_watch schedule).known
  refine ⟨?_, ?_, ?_, ?_⟩
  · intro origin known hknown
    obtain ⟨x, hx, horigin, hr, out, reply, hlast, hc⟩ := hmet origin known hknown
    exact ⟨x, hx, horigin, hr, out, reply, hlast, hc, issued_of_last hx hlast hc⟩
  · intro hown origin known hknown
    obtain ⟨x, hx, rfl, hr, out, reply, hlast, hc⟩ := hmet origin known hknown
    rw [← hown x hx hr out reply _ hlast hc]
    exact issued_of_last hx hlast hc
  · intro hissued schedule' hprefix origin c hanswered
    obtain ⟨before, hbefore, known, hknown, rfl⟩ := known_of_answered hanswered
    exact (hissued before (hbefore.trans hprefix) origin known hknown).extended hbefore
  · intro hissued before hprefix origin known hknown
    exact hissued before hprefix origin known.challenge (answered_of_known hknown)

/-! ## A challenge that was planted -/

/-- A server that sends a request to another one, which asks for an answer. -/
def challengeElsewhere : List Reply :=
  [⟨302, .ofList [("location", Utf8.bytes "http://other.example/login")], []⟩,
    refusal "Digest realm=\"forms\", nonce=\"n\", qop=\"auth\"", ⟨200, {}, []⟩]

/-- The client of `listRequest` after it has gone to the other server and come back. -/
def misled : Watched Unit (List Reply) :=
  watch scripted (fun _ => ⟨listRequest "alice" "s3cret", challengeElsewhere⟩) [(), ()]

/-- Where a request went and the status that came back. -/
def Hop.status (hop : Hop) : Origin × Option Nat :=
  (hop.out.url.origin, hop.answer.toOption.map Reply.status)

theorem isSome_misled : (misled.client.memory.find? listUrl.origin).isSome := by
  decide +kernel

/-- What this client remembers was met by its request, and some server has issued it. -/
theorem remembered_iff_misled :
    ∃ known, misled.client.memory.find? listUrl.origin = some known ∧
      ∃ x ∈ misled.tracked, x.url.origin = listUrl.origin ∧ ∃ out reply,
        x.trail.getLast? = some ⟨out, .ok reply⟩ ∧
        Issued misled.tracked out.url.origin known.challenge := by
  obtain ⟨known, hknown⟩ := Option.isSome_iff_exists.mp isSome_misled
  refine ⟨known, hknown, ?_⟩
  rw [misled, client_watch] at hknown
  obtain ⟨hmet, -⟩ := remembered_iff scripted
    (fun _ => ⟨listRequest "alice" "s3cret", challengeElsewhere⟩) [(), ()]
  obtain ⟨x, hx, horigin, -, out, reply, hlast, -, hissued⟩ := hmet _ known hknown
  exact ⟨x, hx, horigin, out, reply, hlast, hissued⟩

/-- Another server plants its challenge: the client remembers it of the server of `listRequest`,
which has refused nothing, and answers it to this server. -/
theorem remembered_from_elsewhere :
    ∃ known, misled.client.memory.find? listUrl.origin = some known ∧
      Answered misled.client.sent listUrl.origin known.challenge ∧
      ¬Issued misled.tracked listUrl.origin known.challenge := by
  have hseen : (misled.tracked.flatMap Tracked.trail).map Hop.status =
      [(listUrl.origin, some 302), ((.http, .domain "other.example", 80), some 401),
        (listUrl.origin, some 200)] := by
    decide +kernel
  obtain ⟨known, hknown⟩ := Option.isSome_iff_exists.mp isSome_misled
  refine ⟨known, hknown, ?_, ?_⟩
  · rw [misled, client_watch] at hknown ⊢
    exact answered_of_known hknown
  · rintro ⟨x, hx, out, reply, hhop, horigin, hstatus, -⟩
    have hmem := List.mem_map_of_mem (f := Hop.status) (List.mem_flatMap.mpr ⟨x, hx, hhop⟩)
    have hrefused : Hop.status ⟨out, .ok reply⟩ = (listUrl.origin, some 401) :=
      Prod.ext horigin (congrArg some hstatus)
    rw [hseen, hrefused] at hmem
    exact absurd hmem (by decide +kernel)

end FormFetch.Transport
