import FormFetch.Proofs.Transport.Effect
import FormFetch.Proofs.Transport.Provenance

/-!
# Executions with others in between

An execution asks the memory what is known when it begins, and never again: later it only puts
the challenge there that it has met.  So whoever comes in between its two parts changes nothing
of what it does.

* `stage_foldl` says that an execution stays where it is while others go on, and
  `advance_of_begun` that one that has begun goes on in the same way in every client.
* `result?_overlapped` and `leftBy_eq` are the results: what an execution comes to and the hops
  that it leaves are those of `execute` with the memory at its beginning.  So it has one of the
  effects that are known from there (`effect_overlapped`).
-/

namespace FormFetch.Transport

open FormFetch.Http

variable {ι σ : Type} [DecidableEq ι] {net : Network σ} {tasks : ι → Task σ}

theorem stage_advance_of_ne {c : Shared ι σ} {i j : ι} (h : i ≠ j) :
    (c.advance net tasks j).stage i = c.stage i := by
  cases hvalid : (tasks j).request.validate with
  | error failure =>
    rw [advance_of_invalid hvalid]
    exact Function.update_of_ne h ..
  | ok url =>
    rw [advance_of_valid hvalid]
    exact Function.update_of_ne h ..

/-- An execution stays where it is while others go on. -/
theorem stage_foldl {schedule : List ι} {i : ι} (h : i ∉ schedule) (c : Shared ι σ) :
    (schedule.foldl (Shared.advance net tasks) c).stage i = c.stage i := by
  induction schedule generalizing c with
  | nil => rfl
  | cons j rest ih =>
    rw [List.mem_cons, not_or] at h
    rw [List.foldl_cons, ih h.2, stage_advance_of_ne h.1]

variable (net) in
/-- Behind its first sending an execution asks the memory nothing. -/
theorem part_of_begun (r : Request) (url : Url) (m m' : Memory) {stage : Stage σ}
    (h : ∀ s, stage ≠ .new s) :
    (part net r url m stage).2.2 = (part net r url m' stage).2.2 ∧
      trailsOf net r url m stage = trailsOf net r url m' stage := by
  cases stage with
  | new s => exact absurd rfl (h s)
  | challenged c s => exact ⟨rfl, rfl⟩
  | ended result => exact ⟨rfl, rfl⟩

theorem behind_ne_new (r : Request) (first : Sending) (s s' : σ) :
    Stage.behind r first s ≠ .new s' := by
  unfold Stage.behind
  cases (if r.credentials.isPresent then first.challenge? else none) <;> simp

theorem stage_advance_of_invalid (c : Shared ι σ) {i : ι} {failure : Failure}
    (h : (tasks i).request.validate = .error failure) :
    (c.advance net tasks i).stage i = .ended (.error failure) := by
  rw [advance_of_invalid h]
  exact Function.update_self ..

variable (net) in
theorem stage_advance_of_valid (c : Shared ι σ) {i : ι} {url : Url}
    (h : (tasks i).request.validate = .ok url) :
    (c.advance net tasks i).stage i =
      (part net (tasks i).request url c.memory (c.stage i)).2.2 := by
  rw [advance_of_valid h]
  exact Function.update_self ..

/-- An execution that has begun goes on in the same way in every client. -/
theorem advance_of_begun {c c' : Shared ι σ} {i : ι} (hstage : c.stage i = c'.stage i)
    (h : ∀ s, c.stage i ≠ .new s) :
    (c.advance net tasks i).stage i = (c'.advance net tasks i).stage i ∧
      c.trails net tasks i = c'.trails net tasks i := by
  cases hvalid : (tasks i).request.validate with
  | error failure =>
    rw [stage_advance_of_invalid c hvalid, stage_advance_of_invalid c' hvalid]
    simp only [Shared.trails, hvalid, and_self]
  | ok url =>
    obtain ⟨hnext, htrails⟩ :=
      part_of_begun net (tasks i).request url c.memory c'.memory h
    rw [stage_advance_of_valid net c hvalid, stage_advance_of_valid net c' hvalid, ← hstage, hnext]
    simp only [Shared.trails, hvalid, ← hstage, htrails, and_self]

theorem stage_advance_ne_new (c : Shared ι σ) {i : ι} {s : σ} (h : c.stage i = .new s) (s' : σ) :
    (c.advance net tasks i).stage i ≠ .new s' := by
  cases hvalid : (tasks i).request.validate with
  | error failure =>
    rw [stage_advance_of_invalid c hvalid]
    intro hnew
    cases hnew
  | ok url =>
    rw [stage_advance_of_valid net c hvalid, h]
    exact behind_ne_new _ _ _ _

variable (net tasks) in
/-- The hops that an execution leaves that begins behind the parts of other executions in `before`
and goes on behind those in `between`. -/
def leftBy (before between : List ι) (i : ι) : List Hop :=
  ((run net tasks before).trails net tasks i ++
    (run net tasks (before ++ i :: between)).trails net tasks i).flatMap Tracked.trail

variable {before between : List ι} {i : ι}

variable (net tasks) in
theorem stage_run (h : i ∉ before) :
    (run net tasks before).stage i = .new (tasks i).surroundings :=
  stage_foldl h _

theorem run_begun : run net tasks (before ++ i :: between) =
    between.foldl (Shared.advance net tasks) ((run net tasks before).advance net tasks i) := by
  rw [run, List.foldl_append, ← run, List.foldl_cons]

theorem stage_begun (hbetween : i ∉ between) :
    (run net tasks (before ++ i :: between)).stage i =
      ((run net tasks before).advance net tasks i).stage i := by
  rw [run_begun]
  exact stage_foldl hbetween _

variable (net tasks) in
/-- Others in between change nothing of how an execution goes on. -/
theorem advance_overlapped (hbefore : i ∉ before) (hbetween : i ∉ between) :
    (run net tasks (before ++ i :: (between ++ [i]))).stage i =
        (((run net tasks before).advance net tasks i).advance net tasks i).stage i ∧
      (run net tasks (before ++ i :: between)).trails net tasks i =
        ((run net tasks before).advance net tasks i).trails net tasks i := by
  have hlast : run net tasks (before ++ i :: (between ++ [i])) =
      (run net tasks (before ++ i :: between)).advance net tasks i := by
    rw [← List.cons_append, ← List.append_assoc, run_concat]
  rw [hlast]
  refine advance_of_begun (stage_begun hbetween) fun s => ?_
  rw [stage_begun hbetween]
  exact stage_advance_ne_new _ (stage_run net tasks hbefore) s

/-- The result of an execution is the one that it has on its own. -/
theorem result?_overlapped (hbefore : i ∉ before) (hbetween : i ∉ between) :
    (run net tasks (before ++ i :: (between ++ [i]))).result? i =
      some (execute net (tasks i).request (run net tasks before).memory
        (tasks i).surroundings).1 := by
  obtain ⟨hstage, -⟩ := advance_overlapped net tasks hbefore hbetween
  have hresult : Shared.result? _ i = some (execute net (tasks i).request
      (run net tasks before).memory (tasks i).surroundings).1 :=
    (advance_advance (stage_run net tasks hbefore)).1
  rw [← hresult, Shared.result?, hstage, Shared.result?]

/-- The first part of an execution leads to the challenge that it meets. -/
theorem stage_of_met? (r : Request) (url : Url) (m : Memory) (s : σ) :
    (part net r url m (.new s)).2.2 =
      ((met? net r url m s).map fun c =>
        Stage.challenged c (firstSending net r url m s).2).getD
          (.ended ((firstSending net r url m s).1.outcome.map (·.toResponse r.url))) := by
  show Stage.behind r (firstSending net r url m s).1 (firstSending net r url m s).2 = _
  unfold Stage.behind met?
  cases (if r.credentials.isPresent then (firstSending net r url m s).1.challenge? else none) <;>
    rfl

/-- The hops of an execution are those that it leaves on its own. -/
theorem leftBy_eq (hbefore : i ∉ before) (hbetween : i ∉ between) :
    leftBy net tasks before between i =
      (execute (noting net) (tasks i).request (run net tasks before).memory
        ((tasks i).surroundings, [])).2.2.2 := by
  obtain ⟨-, htrails⟩ := advance_overlapped net tasks hbefore hbetween
  have hstage := stage_run net tasks hbefore
  rw [leftBy, htrails]
  generalize run net tasks before = c at hstage ⊢
  cases hvalid : (tasks i).request.validate with
  | error failure =>
    rw [execute_of_invalid _ hvalid]
    simp only [Shared.trails, hvalid, List.append_nil, List.flatMap_nil]
  | ok url =>
    have hbegun := (stage_advance_of_valid net c hvalid).trans
      (hstage ▸ stage_of_met? (tasks i).request url c.memory (tasks i).surroundings)
    rw [execute_of_valid _ hvalid]
    simp only [Shared.trails, hvalid, hstage, hbegun]
    cases hmet : met? net (tasks i).request url c.memory (tasks i).surroundings with
    | none =>
      rw [exchange_of_met?_none _ _ _ _ _ ((met?_noting ..).trans hmet), firstSending_noting]
      simp [trailsOf]
    | some challenge =>
      rw [exchange_of_met?_some _ _ _ _ _ ((met?_noting ..).trans hmet), answerTo_noting,
        firstSending_noting, nonce_noting, send_noting]
      simp [trailsOf, answerTo, answerChallenge_eq]

variable (net) in
/-- An execution takes one of the four ways with others in between, too. -/
theorem effect_overlapped (hbefore : i ∉ before) (hbetween : i ∉ between) {url : Url}
    (hvalid : (tasks i).request.validate = .ok url) :
    ∃ trails result,
      (run net tasks (before ++ i :: (between ++ [i]))).result? i = some result ∧
      leftBy net tasks before between i = trails.flatten ∧
      Effect net (tasks i).request url (run net tasks before).memory (tasks i).surroundings trails
        result := by
  obtain ⟨trails, hnoted, heffect⟩ := exchange_effect net (tasks i).request url
    (run net tasks before).memory (tasks i).surroundings []
  refine ⟨trails, _, ?_, ?_, heffect⟩
  · rw [result?_overlapped hbefore hbetween, execute_of_valid net hvalid]
  · rw [leftBy_eq hbefore hbetween, execute_of_valid _ hvalid, hnoted, List.nil_append]

end FormFetch.Transport
