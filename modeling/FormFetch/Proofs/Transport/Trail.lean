import FormFetch.Proofs.Transport.Record

/-!
# The trail of a sending

A request may be passed on from server to server before its reply is there.  `noting` is the
same network with a list of everything that goes through it, so that this list shows what a
client really sends and what really comes back.

* `Trail` says what one sending may leave in the list: a request, and behind each redirect that
  is followed the request that it leads to.
* `send_noting` says that the list changes nothing of a sending, `trail_hops` that a sending
  leaves one trail, and `hops_of_unfit` that one with an unfit value leaves none.
-/

namespace FormFetch.Transport

open FormFetch.Http FormFetch.Auth FormFetch.Text

/-! ## Networks with a list -/

/-- One request on the network, and what came of it. -/
structure Hop where
  out : Outgoing
  answer : Except Trouble Reply

/-- The same network, and the list of its hops. -/
def noting {σ : Type} (net : Network σ) : Network (σ × List Hop) where
  exchange out s :=
    ((net.exchange out s.1).1, (net.exchange out s.1).2,
      s.2 ++ [⟨out, (net.exchange out s.1).1⟩])
  nonce s := ((net.nonce s.1).1, (net.nonce s.1).2, s.2)

/-- The hops that a request leaves behind, and what it ends with: the address that answered last
with its reply, or what broke it off. -/
inductive Trail : Outgoing → List Hop → Except Trouble (Url × Reply) → Prop where
  | broken (out : Outgoing) (t : Trouble) : Trail out [⟨out, .error t⟩] (.error t)
  /-- The reply leads nowhere else. -/
  | answered {out : Outgoing} {reply : Reply}
      (hstay : ∀ target, reply.location? out.url ≠ some (.web target)) :
      Trail out [⟨out, .ok reply⟩] (.ok (out.url, reply))
  /-- The reply leads on, but nobody follows. -/
  | halted {out : Outgoing} {reply : Reply} (url : Url) (reason : String)
      (hmoved : (reply.location? out.url).isSome) :
      Trail out [⟨out, .ok reply⟩] (.error (redirectTrouble url reason))
  | moved {out : Outgoing} {reply : Reply} {target : Url} {hops : List Hop}
      {ending : Except Trouble (Url × Reply)}
      (hmoved : reply.location? out.url = some (.web target))
      (hrest : Trail (out.moved reply.status target) hops ending) :
      Trail out (⟨out, .ok reply⟩ :: hops) ending

/-- The reply that comes back is the one of the last hop. -/
theorem Trail.getLast?_of_ok {out : Outgoing} {hops : List Hop} {url : Url} {reply : Reply}
    (h : Trail out hops (.ok (url, reply))) :
    ∃ last, hops.getLast? = some ⟨last, .ok reply⟩ ∧ last.url = url := by
  generalize hending : (Except.ok (url, reply) : Except Trouble (Url × Reply)) = ending at h
  induction h with
  | broken | halted => cases hending
  | answered hstay =>
    cases hending
    exact ⟨_, rfl, rfl⟩
  | moved hmoved hrest ih =>
    obtain ⟨last, hlast, hurl⟩ := ih hending
    refine ⟨last, ?_, hurl⟩
    rw [List.getLast?_cons, hlast]
    rfl

section Follow

variable {σ : Type} (net : Network σ)

theorem exchange_noting {net : Network σ} {out : Outgoing} {s s' : σ}
    {answer : Except Trouble Reply} (h : net.exchange out s = (answer, s')) (log : List Hop) :
    (noting net).exchange out (s, log) = (answer, s', log ++ [⟨out, answer⟩]) := by
  simp only [noting, h]

theorem nonce_noting (s : σ) (log : List Hop) :
    (noting net).nonce (s, log) = ((net.nonce s).1, (net.nonce s).2, log) := rfl

theorem follow_of_web {net : Network σ} {out : Outgoing} {s s' : σ} {reply : Reply}
    {target : Url} (h : net.exchange out s = (.ok reply, s'))
    (hlocation : reply.location? out.url = some (.web target)) (left : Nat) :
    follow net (left + 1) out s = follow net left (out.moved reply.status target) s' := by
  rw [follow, h]
  simp only [hlocation]

/-- The hops of a request that is followed. -/
def hopsFrom (left : Nat) (out : Outgoing) (s : σ) : List Hop :=
  (follow (noting net) left out (s, [])).2.2

/-- The list changes nothing of where a request is followed to. -/
theorem follow_noting (left : Nat) (out : Outgoing) (s : σ) (log : List Hop) :
    follow (noting net) left out (s, log) =
      ((follow net left out s).1, (follow net left out s).2,
        log ++ hopsFrom net left out s) := by
  unfold hopsFrom
  fun_induction follow net left out s generalizing log with
  | case1 left out s t s' h => simp [follow, exchange_noting h]
  | case2 out s reply s' h target hlocation => simp [follow, exchange_noting h, hlocation]
  | case3 out s reply s' h target hlocation left ih =>
    rw [follow_of_web (exchange_noting h log) hlocation, ih (log ++ _),
      follow_of_web (exchange_noting h []) hlocation, ih ([] ++ _), List.nil_append,
      List.append_assoc]
  | case4 left out s reply s' h hlocation => simp [follow, exchange_noting h, hlocation]
  | case5 left out s reply s' h hlocation => simp [follow, exchange_noting h, hlocation]
  | case6 left out s reply s' h hlocation => simp [follow, exchange_noting h, hlocation]

/-- What is followed leaves a trail. -/
theorem trail_hopsFrom (left : Nat) (out : Outgoing) (s : σ) :
    Trail out (hopsFrom net left out s) (follow net left out s).1 := by
  unfold hopsFrom
  fun_induction follow net left out s with
  | case1 left out s t s' h =>
    rw [follow, exchange_noting h]
    exact .broken out t
  | case2 out s reply s' h target hlocation =>
    simp only [follow, exchange_noting h, hlocation]
    exact .halted target _ (by simp [hlocation])
  | case3 out s reply s' h target hlocation left ih =>
    rw [follow_of_web (exchange_noting h []) hlocation, follow_noting]
    exact .moved hlocation ih
  | case4 left out s reply s' h hlocation =>
    simp only [follow, exchange_noting h, hlocation]
    exact .halted out.url _ (by simp [hlocation])
  | case5 left out s reply s' h hlocation =>
    simp only [follow, exchange_noting h, hlocation]
    exact .answered fun target ht => by simp [hlocation] at ht
  | case6 left out s reply s' h hlocation =>
    simp only [follow, exchange_noting h, hlocation]
    exact .answered fun target ht => by simp [hlocation] at ht

end Follow

/-! ## Sendings -/

/-- What is presented can stand in a header field. -/
def Presented.Fits (p : Presented) (r : Request) (url : Url) : Prop :=
  ∀ text, p.text? r url = some text → (fieldValue? text).isSome

/-- The value of the `Authorization` field, if there is one. -/
def Presented.value? (p : Presented) (r : Request) (url : Url) : Option (List UInt8) :=
  (p.text? r url).map Utf8.bytes

/-- The same request with one more value of the `Authorization` field, if there is one. -/
def Outgoing.presenting (out : Outgoing) : Option (List UInt8) → Outgoing
  | none => out
  | some value => { out with headers := out.headers.append "authorization" value }

theorem outgoing_eq_presenting (r : Request) (url : Url) (value : Option (List UInt8)) :
    outgoing r url value = (outgoing r url none).presenting value := by
  cases value <;> rfl

/-- What a sending comes to, from what its trail ends with. -/
def outcomeOf (r : Request) : Except Trouble (Url × Reply) → Except Failure Reply
  | .ok (_, reply) => .ok reply
  | .error t => .error (t.toFailure r.url)

section Sendings

variable {σ : Type} {net : Network σ} {r : Request} {url : Url} {p : Presented}

theorem fieldValue?_of_isSome {text : String} (h : (fieldValue? text).isSome) :
    fieldValue? text = some (Utf8.bytes text) := by
  unfold fieldValue? at h ⊢
  dsimp only at h ⊢
  split
  · rfl
  · rename_i hall
    rw [if_neg hall] at h
    cases h

/-- What fits goes out. -/
theorem send_of_fits (h : p.Fits r url) (s : σ) :
    send net r url p s =
      (outcomeOf r (follow net redirectLimit
          ((outgoing r url none).presenting (p.value? r url)) s).1,
        (follow net redirectLimit
          ((outgoing r url none).presenting (p.value? r url)) s).2) := by
  rw [← outgoing_eq_presenting]
  cases htext : p.text? r url with
  | none =>
    simp only [send, Presented.value?, htext, Option.map_none]
    rcases follow net redirectLimit (outgoing r url none) s with ⟨_ | _, s'⟩ <;> rfl
  | some text =>
    simp only [send, Presented.value?, htext, Option.map_some,
      fieldValue?_of_isSome (h text htext)]
    rcases follow net redirectLimit (outgoing r url (some (Utf8.bytes text))) s with
      ⟨_ | _, s'⟩ <;> rfl

/-- What does not fit stays here. -/
theorem send_of_unfit (h : ¬p.Fits r url) (s : σ) :
    send net r url p s = (.error (.invalidCredentials r.url), s) := by
  cases htext : p.text? r url with
  | none =>
    refine absurd (fun text h => ?_) h
    rw [htext] at h
    cases h
  | some text =>
    have hvalue : fieldValue? text = none := by
      cases hvalue : fieldValue? text with
      | none => rfl
      | some value =>
        refine absurd (fun other h => ?_) h
        rw [htext] at h
        obtain rfl := Option.some.inj h
        rw [hvalue]
        rfl
    simp only [send, htext, hvalue]

variable (net r url p)

/-- The hops of a sending. -/
def hops (s : σ) : List Hop :=
  (send (noting net) r url p (s, [])).2.2

variable {net r url p}

theorem hops_of_unfit (h : ¬p.Fits r url) (s : σ) : hops net r url p s = [] := by
  rw [hops, send_of_unfit h]

theorem hops_of_fits (h : p.Fits r url) (s : σ) :
    hops net r url p s =
      hopsFrom net redirectLimit ((outgoing r url none).presenting (p.value? r url)) s := by
  rw [hops, send_of_fits h, follow_noting, List.nil_append]

variable (net) in
/-- What fits leaves one trail, and comes to what the trail ends with. -/
theorem trail_hops (h : p.Fits r url) (s : σ) :
    ∃ ending, Trail ((outgoing r url none).presenting (p.value? r url)) (hops net r url p s)
        ending ∧
      (send net r url p s).1 = outcomeOf r ending := by
  rw [hops_of_fits h, send_of_fits h]
  exact ⟨_, trail_hopsFrom .., rfl⟩

variable (net r url p)

/-- The list changes nothing of a sending. -/
theorem send_noting (s : σ) (log : List Hop) :
    send (noting net) r url p (s, log) =
      ((send net r url p s).1, (send net r url p s).2, log ++ hops net r url p s) := by
  by_cases h : p.Fits r url
  · rw [send_of_fits h, follow_noting, send_of_fits h, hops_of_fits h]
  · rw [send_of_unfit h, send_of_unfit h, hops_of_unfit h, List.append_nil]

/-- The reply of a sending is the reply of its last hop. -/
theorem getLast?_hops {s : σ} {reply : Reply} (h : (send net r url p s).1 = .ok reply) :
    ∃ last, (hops net r url p s).getLast? = some ⟨last, .ok reply⟩ := by
  by_cases hfit : p.Fits r url
  · obtain ⟨ending, htrail, houtcome⟩ := trail_hops net hfit s
    rw [h] at houtcome
    rcases ending with t | ⟨sender, reply'⟩
    · cases houtcome
    · obtain rfl : reply = reply' := Except.ok.inj houtcome
      obtain ⟨last, hlast, -⟩ := htrail.getLast?_of_ok
      exact ⟨last, hlast⟩
  · rw [send_of_unfit hfit] at h
    cases h

end Sendings

theorem present_noting {σ : Type} (net : Network σ) (r : Request) (url : Url) (m : Memory) (s : σ)
    (log : List Hop) :
    present (noting net) r url m (s, log) =
      ((present net r url m s).1, (present net r url m s).2.1,
        (present net r url m s).2.2, log) := by
  by_cases hr : r.credentials.isPresent = true
  · cases hm : m.find? url.origin with
    | none =>
      rw [present_of_unknown net r url m s hr hm, present_of_unknown _ r url m _ hr hm]
    | some known =>
      rw [present_of_known net r url m s hr hm, present_of_known _ r url m _ hr hm]
      rfl
  · have hr' : r.credentials.isPresent = false := by simpa using hr
    rw [present_of_anonymous net r url m s hr', present_of_anonymous _ r url m _ hr']

end FormFetch.Transport
