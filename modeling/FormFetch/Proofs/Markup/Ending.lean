import FormFetch.Proofs.Markup.Tree

/-!
# How the events of a document can end

The builder is exact: it builds a document from the events that spell one and refuses all
others, at the first event behind which there is no way on to a document.

* `Event.Matched` events close what they opened.
* What a builder holds.  `Builder.Sound` is the invariant, `Sound.step` says what a step adds
  and `Sound.refusal?_of_step` at what there is no step; `Sound.foldlM` is the run.
* `Completable` events can go on to a document.  `completable_of_foldlM` and
  `foldlM_of_completable` say that these are the ones that the builder reads.
* `Ending` lists how events can end, `ending_ofEvents` and `ofEvents_of_ending` compare it with
  the builder, and `ofEvents_eq_iff` is the result.
-/

namespace FormFetch.Markup

open FormFetch.Text

namespace Event

/-- Each end closes an element that is open. -/
def Matched (opened : List String) : List Event → Prop
  | [] => True
  | e :: rest => (e = .close → opened ≠ []) ∧ Matched (openAfter opened e) rest

/-- The names of the elements that are open after some events, innermost first. -/
def openNames (opened : List String) (events : List Event) : List String :=
  events.foldl openAfter opened

/-- The fault of an event that cannot stand where it stands. -/
def refusal? : Event → Option DocumentFault
  | .start name _ | .empty name _ => some (.secondRoot name)
  | .text _ | .verbatim _ => some .strayText
  | .close | .aside => none

theorem matched_append {opened : List String} {events more : List Event} :
    Matched opened (events ++ more) ↔
      Matched opened events ∧ Matched (openNames opened events) more := by
  induction events generalizing opened with
  | nil => simp [Matched, openNames]
  | cons e rest ih =>
    rw [List.cons_append, Matched, ih, Matched, and_assoc]
    rfl

end Event

namespace Document

/-! ## What a builder holds -/

namespace Builder

/-- The tokens of open elements, which are not closed yet. -/
def openTokens : List Element → List Token
  | [] => []
  | e :: outer =>
    openTokens outer ++ .opening e.name e.attributes :: Node.tokens e.children.reverse

/-- The tokens of what a builder holds. -/
def tokens (b : Builder) : List Token :=
  Node.tokens (b.root.map Element.toNode).toList ++ openTokens b.opened

/-- There is either a root or an open element. -/
def Sound (b : Builder) : Prop :=
  b.opened ≠ [] → b.root = none

variable {b b' : Builder}

/-- Attaching an element adds its tokens. -/
theorem Sound.attach {e : Element} (hb : b.Sound) (h : b.attach e = .ok b') :
    b'.Sound ∧ b'.tokens = b.tokens ++ Node.tokens [e.toNode] := by
  rcases attach_cases b e with ⟨parent, outer, hopened, hattach⟩ | ⟨hopened, hroot, hattach⟩ |
    ⟨-, -, hattach⟩
  · rw [hattach] at h
    cases h
    refine ⟨fun _ => hb (hopened ▸ List.cons_ne_nil _ _), ?_⟩
    simp [tokens, openTokens, hopened, push, Node.tokens_append]
  · rw [hattach] at h
    cases h
    refine ⟨fun hne => (hne hopened).elim, ?_⟩
    simp [tokens, openTokens, hopened, hroot, Node.tokens]
  · rw [hattach] at h
    cases h

theorem Sound.addText {content : String} (hb : b.Sound) (h : b.addText content = .ok b') :
    b'.Sound ∧ b'.tokens = b.tokens ++ Event.token b.names (.text content) := by
  unfold Builder.addText at h
  split at h
  · rename_i parent outer hopened
    split at h
    · rename_i hempty
      cases h
      refine ⟨hb, ?_⟩
      simp [Event.token, hempty]
    · rename_i hcontent
      cases h
      have hnames : b.names ≠ [] := by
        rw [ne_eq, names_eq_nil, hopened]
        exact List.cons_ne_nil _ _
      refine ⟨fun _ => hb (hopened ▸ List.cons_ne_nil _ _), ?_⟩
      simp [tokens, openTokens, hopened, push, Node.tokens_append, Event.token, hcontent, hnames,
        Node.tokens]
  · rename_i hopened
    split at h
    · rename_i hblank
      cases h
      refine ⟨hb, ?_⟩
      simp [Event.token, names_eq_nil.mpr hopened, hblank]
    · cases h

/-- A step adds the tokens of its event. -/
theorem Sound.step {e : Event} (hb : b.Sound) (hclose : e = .close → b.names ≠ [])
    (h : b.step e = .ok b') : b'.Sound ∧ b'.tokens = b.tokens ++ Event.token b.names e := by
  cases e with
  | start name attributes =>
    rcases step_start_cases b name attributes with ⟨hroot, hstep⟩ | ⟨-, -, hstep⟩
    · rw [hstep] at h
      cases h
      refine ⟨fun _ => ?_, ?_⟩
      · by_cases hopened : b.opened = []
        · exact hroot hopened
        · exact hb hopened
      · simp [tokens, openTokens, Event.token, Node.tokens]
    · rw [hstep] at h
      cases h
  | empty name attributes =>
    obtain ⟨hsound, htokens⟩ := hb.attach h
    refine ⟨hsound, ?_⟩
    rw [htokens, tokens_toNode, Node.tokens]
    rfl
  | close =>
    rw [Builder.step] at h
    split at h
    · rename_i hopened
      exact (hclose rfl (names_eq_nil.mpr hopened)).elim
    · rename_i e outer hopened
      have hroot : b.root = none := hb (hopened ▸ List.cons_ne_nil _ _)
      have houter : Sound { b with opened := outer } := fun _ => hroot
      obtain ⟨hsound, htokens⟩ := houter.attach h
      refine ⟨hsound, ?_⟩
      rw [htokens, tokens_toNode]
      simp [tokens, openTokens, hopened, hroot, close, Event.token]
  | text content | verbatim content => exact hb.addText h
  | aside =>
    cases h
    exact ⟨hb, (List.append_nil _).symm⟩

/-- A step fails only at what cannot stand outside the root element. -/
theorem Sound.refusal?_of_step {e : Event} {fault : DocumentFault} (hb : b.Sound)
    (h : b.step e = .error fault) : e.refusal? = some fault := by
  cases e with
  | start name attributes =>
    rcases step_start_cases b name attributes with ⟨-, hstep⟩ | ⟨-, -, hstep⟩
    · rw [hstep] at h
      cases h
    · rw [hstep] at h
      cases h
      rfl
  | empty name attributes =>
    rcases attach_cases b ⟨name, attributes, []⟩ with ⟨_, _, -, hattach⟩ | ⟨-, -, hattach⟩ |
      ⟨-, -, hattach⟩
    · cases hattach.symm.trans h
    · cases hattach.symm.trans h
    · cases hattach.symm.trans h
      rfl
  | close =>
    rw [Builder.step] at h
    split at h
    · cases h
    · rename_i e outer hopened
      have hroot : b.root = none := hb (hopened ▸ List.cons_ne_nil _ _)
      rcases attach_cases { b with opened := outer } (close e) with ⟨_, _, -, hattach⟩ |
        ⟨-, -, hattach⟩ | ⟨-, hsome, -⟩
      · cases hattach.symm.trans h
      · cases hattach.symm.trans h
      · rw [hroot] at hsome
        cases hsome
  | text content | verbatim content =>
    change b.addText content = .error fault at h
    unfold Builder.addText at h
    split at h
    · split at h <;> cases h
    · split at h
      · cases h
      · cases h
        rfl
  | aside => cases h

/-- What a builder holds after a run. -/
theorem Sound.foldlM {events : List Event} (hb : b.Sound) (hmatched : Event.Matched b.names events)
    (h : events.foldlM Builder.step b = .ok b') :
    b'.Sound ∧ b'.tokens = b.tokens ++ Event.tokens b.names events ∧
      b'.names = Event.openNames b.names events := by
  induction events generalizing b with
  | nil =>
    cases h
    exact ⟨hb, (List.append_nil _).symm, rfl⟩
  | cons e rest ih =>
    obtain ⟨hclose, hrest⟩ := hmatched
    obtain ⟨middle, hstep, h⟩ := exists_of_foldlM_cons h
    have hnames := names_of_step hstep
    obtain ⟨hsound, htokens⟩ := hb.step hclose hstep
    obtain ⟨hsound', htokens', hnames'⟩ := ih hsound (hnames ▸ hrest) h
    refine ⟨hsound', ?_, ?_⟩
    · rw [htokens', htokens, hnames, Event.tokens, List.append_assoc]
    · rw [hnames', hnames]
      rfl

end Builder

/-- The builder at the start holds nothing. -/
theorem sound_new : Builder.Sound {} :=
  fun h => (h rfl).elim

theorem built_of_foldlM {events : List Event} {b : Builder} (hmatched : Event.Matched [] events)
    (h : events.foldlM Builder.step {} = .ok b) :
    b.Sound ∧ b.tokens = Event.tokens [] events ∧ b.names = Event.openNames [] events := by
  obtain ⟨hsound, htokens, hnames⟩ := sound_new.foldlM hmatched h
  refine ⟨hsound, ?_, hnames⟩
  rw [htokens]
  have hnothing : Builder.tokens {} = [] := by
    simp [Builder.tokens, Builder.openTokens, Node.tokens]
  rw [hnothing]
  rfl

/-- What is built from events is spelled by them. -/
theorem spells_of_ofEvents {events : List Event} {document : Document}
    (hmatched : Event.Matched [] events) (h : ofEvents events = .ok document) :
    Spells events document := by
  cases hbuilt : events.foldlM Builder.step {} with
  | error fault =>
    rw [ofEvents, hbuilt] at h
    cases h
  | ok b =>
    rw [ofEvents_of_foldlM hbuilt] at h
    obtain ⟨-, htokens, -⟩ := built_of_foldlM hmatched hbuilt
    rw [Builder.finish_eq_ok_iff.mp h] at htokens
    rw [Spells, ← htokens]
    simp [Builder.tokens, Builder.openTokens]

/-! ## Endings -/

/-- Events that can go on to a document. -/
def Completable (events : List Event) : Prop :=
  ∃ more document, Event.Matched [] (events ++ more) ∧ Spells (events ++ more) document

/-- How the events of a document end, and what is made of them. -/
inductive Ending (events : List Event) : Except DocumentFault Document → Prop where
  /-- They spell a document. -/
  | whole {document : Document} (hspells : Spells events document) : Ending events (.ok document)
  /-- At one of them there is no way on to a document any more. -/
  | refused {before after : List Event} {e : Event} {fault : DocumentFault}
      (hevents : events = before ++ e :: after) (hbefore : Completable before)
      (hnot : ¬Completable (before ++ [e])) (hfault : e.refusal? = some fault) :
      Ending events (.error fault)
  /-- They stop inside an element, of which `name` is the innermost one. -/
  | unclosed {name : String} {outer : List String} (hcompletable : Completable events)
      (hopen : Event.openNames [] events = name :: outer) : Ending events (.error (.unclosed name))
  /-- They stop before an element has started. -/
  | nothing (hcompletable : Completable events)
      (hnone : ∀ name attributes, Event.start name attributes ∉ events ∧
        Event.empty name attributes ∉ events) : Ending events (.error .noRoot)

/-- Where there is no way on, none comes back later. -/
theorem Completable.of_append {events more : List Event} (h : Completable (events ++ more)) :
    Completable events := by
  obtain ⟨rest, document, hmatched, hspells⟩ := h
  rw [List.append_assoc] at hmatched hspells
  exact ⟨more ++ rest, document, hmatched, hspells⟩

theorem ofEvents_append {events : List Event} {b : Builder}
    (h : events.foldlM Builder.step {} = .ok b) (more : List Event) :
    ofEvents (events ++ more) = (more.foldlM Builder.step b).bind Builder.finish := by
  rw [ofEvents, List.foldlM_append, h]
  rfl

/-- Open elements can be closed one after the other. -/
theorem exists_closed (e : Element) (outer : List Element) :
    ∃ root, (List.replicate (outer.length + 1) Event.close).foldlM Builder.step
      ⟨e :: outer, none⟩ = .ok ⟨[], some root⟩ := by
  induction outer generalizing e with
  | nil => exact ⟨Builder.close e, rfl⟩
  | cons parent outer ih =>
    obtain ⟨root, hroot⟩ := ih (Builder.push parent (Builder.close e).toNode)
    exact ⟨root, hroot⟩

theorem matched_replicate (opened : List String) :
    Event.Matched opened (List.replicate opened.length .close) := by
  induction opened with
  | nil => trivial
  | cons name outer ih => exact ⟨fun _ => List.cons_ne_nil _ _, ih⟩

/-- As long as the builder goes on, so can the events. -/
theorem completable_of_foldlM {events : List Event} {b : Builder}
    (hmatched : Event.Matched [] events) (h : events.foldlM Builder.step {} = .ok b) :
    Completable events := by
  obtain ⟨hsound, -, hnames⟩ := built_of_foldlM hmatched h
  have hmore : ∃ more document, Event.Matched b.names more ∧
      (more.foldlM Builder.step b).bind Builder.finish = .ok document := by
    obtain ⟨opened, root⟩ := b
    rcases opened with _ | ⟨e, outer⟩
    · rcases root with _ | root
      · exact ⟨[.empty "" []], ⟨⟨"", [], []⟩⟩, ⟨nofun, trivial⟩, rfl⟩
      · exact ⟨[], ⟨root⟩, trivial, rfl⟩
    · have hroot : root = none := hsound (List.cons_ne_nil _ _)
      obtain ⟨closed, hclosed⟩ := exists_closed e outer
      have hends := matched_replicate (Builder.names ⟨e :: outer, root⟩)
      have hlength : (Builder.names ⟨e :: outer, root⟩).length = outer.length + 1 := by
        simp [Builder.names]
      rw [hlength] at hends
      refine ⟨_, ⟨closed⟩, hends, ?_⟩
      rw [hroot, hclosed]
      rfl
  obtain ⟨more, document, hends, hfinish⟩ := hmore
  have hall : Event.Matched [] (events ++ more) :=
    Event.matched_append.mpr ⟨hmatched, hnames ▸ hends⟩
  exact ⟨more, document, hall, spells_of_ofEvents hall ((ofEvents_append h more).trans hfinish)⟩

theorem foldlM_of_completable {events : List Event} (h : Completable events) :
    ∃ b, events.foldlM Builder.step {} = .ok b := by
  obtain ⟨more, document, -, hspells⟩ := h
  have hok := ofEvents_of_spells hspells
  rw [ofEvents, List.foldlM_append] at hok
  cases hbuilt : events.foldlM Builder.step {} with
  | error fault =>
    rw [hbuilt] at hok
    cases hok
  | ok b => exact ⟨b, rfl⟩

/-- Behind events that are read there is a way on with one more exactly if there is a step. -/
theorem completable_concat_iff {before : List Event} {e : Event} {b : Builder}
    (hmatched : Event.Matched [] (before ++ [e]))
    (h : before.foldlM Builder.step {} = .ok b) :
    Completable (before ++ [e]) ↔ ∃ b', b.step e = .ok b' := by
  have hlast : (before ++ [e]).foldlM Builder.step {} = b.step e := by
    rw [List.foldlM_append, h]
    exact bind_pure (b.step e)
  rw [← hlast]
  exact ⟨foldlM_of_completable, fun ⟨_, hbuilt⟩ => completable_of_foldlM hmatched hbuilt⟩

/-- A run that fails does so at one event, and the events before it are read. -/
theorem exists_of_foldlM_error {events : List Event} {b : Builder} {fault : DocumentFault}
    (h : events.foldlM Builder.step b = .error fault) :
    ∃ before e after b', events = before ++ e :: after ∧
      before.foldlM Builder.step b = .ok b' ∧ b'.step e = .error fault := by
  induction events generalizing b with
  | nil => cases h
  | cons e rest ih =>
    rw [List.foldlM_cons] at h
    cases hstep : b.step e with
    | error fault' =>
      rw [hstep] at h
      cases h
      exact ⟨[], e, rest, b, rfl, rfl, hstep⟩
    | ok middle =>
      rw [hstep] at h
      obtain ⟨before, e', after, b', rfl, hbefore, hfault⟩ := ih h
      refine ⟨e :: before, e', after, b', rfl, ?_, hfault⟩
      rw [List.foldlM_cons, hstep]
      exact hbefore

/-- An element is opened by its start, or by an event that is all of it. -/
theorem opening_mem_tokens_iff {opened : List String} {events : List Event} {name : String}
    {attributes : List (String × String)} :
    Token.opening name attributes ∈ Event.tokens opened events ↔
      Event.start name attributes ∈ events ∨ Event.empty name attributes ∈ events := by
  induction events generalizing opened with
  | nil => simp [Event.tokens]
  | cons e rest ih =>
    have htoken : Token.opening name attributes ∈ Event.token opened e ↔
        Event.start name attributes = e ∨ Event.empty name attributes = e := by
      cases e with
      | text content | verbatim content =>
        rw [Event.token]
        split <;> simp
      | start | empty | close | aside => simp [Event.token]
    rw [Event.tokens, List.mem_append, ih, htoken, List.mem_cons, List.mem_cons]
    exact or_or_or_comm

/-- Before an element has started the builder holds nothing, and only then. -/
theorem unstarted_iff {events : List Event} {b : Builder} (hmatched : Event.Matched [] events)
    (h : events.foldlM Builder.step {} = .ok b) :
    (∀ name attributes, Event.start name attributes ∉ events ∧
      Event.empty name attributes ∉ events) ↔ b.opened = [] ∧ b.root = none := by
  obtain ⟨-, htokens, -⟩ := built_of_foldlM hmatched h
  have hopening : ∀ name attributes, Token.opening name attributes ∉ b.tokens ↔
      Event.start name attributes ∉ events ∧ Event.empty name attributes ∉ events := by
    intro name attributes
    rw [htokens, opening_mem_tokens_iff, not_or]
  simp only [← hopening]
  constructor
  · intro hnone
    obtain ⟨opened, root⟩ := b
    rcases opened with _ | ⟨e, outer⟩
    · rcases root with _ | root
      · exact ⟨rfl, rfl⟩
      · exact (hnone root.name root.attributes
          (by simp [Builder.tokens, tokens_toNode])).elim
    · exact (hnone e.name e.attributes
        (by simp [Builder.tokens, Builder.openTokens])).elim
  · rintro ⟨hopened, hroot⟩ name attributes
    simp [Builder.tokens, Builder.openTokens, hopened, hroot, Node.tokens]

/-- The builder ends as the events do. -/
theorem ending_ofEvents {events : List Event} (hmatched : Event.Matched [] events) :
    Ending events (ofEvents events) := by
  cases hbuilt : events.foldlM Builder.step {} with
  | error fault =>
    obtain ⟨before, e, after, b, rfl, hbefore, hstep⟩ := exists_of_foldlM_error hbuilt
    have hresult : ofEvents (before ++ e :: after) = .error fault := by
      rw [ofEvents, hbuilt]
      rfl
    have hfirst := (Event.matched_append.mp hmatched).1
    rw [List.append_cons] at hmatched
    have hone := (Event.matched_append.mp hmatched).1
    obtain ⟨hsound, -, -⟩ := built_of_foldlM hfirst hbefore
    rw [hresult]
    refine .refused rfl (completable_of_foldlM hfirst hbefore) ?_ (hsound.refusal?_of_step hstep)
    rw [completable_concat_iff hone hbefore]
    rintro ⟨b', hok⟩
    rw [hstep] at hok
    cases hok
  | ok b =>
    have hcompletable := completable_of_foldlM hmatched hbuilt
    obtain ⟨-, -, hnames⟩ := built_of_foldlM hmatched hbuilt
    have hresult := ofEvents_of_foldlM hbuilt
    rw [hresult]
    cases hfinish : b.finish with
    | ok document => exact .whole (spells_of_ofEvents hmatched (hresult.trans hfinish))
    | error fault =>
      unfold Builder.finish at hfinish
      split at hfinish
      · rename_i e outer hopened
        cases hfinish
        have hopen : Event.openNames [] events = e.name :: outer.map (·.name) := by
          rw [← hnames, Builder.names, hopened, List.map_cons]
        exact .unclosed hcompletable hopen
      · cases hfinish
      · rename_i hopened hroot
        cases hfinish
        exact .nothing hcompletable ((unstarted_iff hmatched hbuilt).mpr ⟨hopened, hroot⟩)

/-- Events end in one way only. -/
theorem ofEvents_of_ending {events : List Event} (hmatched : Event.Matched [] events)
    {result : Except DocumentFault Document} (h : Ending events result) :
    ofEvents events = result := by
  cases h with
  | whole hspells => exact ofEvents_of_spells hspells
  | @refused before after e fault hevents hbefore hnot hfault =>
    obtain ⟨b, hbuilt⟩ := foldlM_of_completable hbefore
    rw [hevents] at hmatched
    obtain ⟨hsound, -, -⟩ := built_of_foldlM (Event.matched_append.mp hmatched).1 hbuilt
    rw [List.append_cons] at hmatched
    have hone := (Event.matched_append.mp hmatched).1
    cases hstep : b.step e with
    | ok b' => exact (hnot ((completable_concat_iff hone hbuilt).mpr ⟨b', hstep⟩)).elim
    | error fault' =>
      have hsame : fault' = fault :=
        Option.some.inj ((hsound.refusal?_of_step hstep).symm.trans hfault)
      rw [hevents, ofEvents_append hbuilt, List.foldlM_cons, hstep, hsame]
      rfl
  | @unclosed name outer hcompletable hopen =>
    obtain ⟨b, hbuilt⟩ := foldlM_of_completable hcompletable
    obtain ⟨-, -, hnames⟩ := built_of_foldlM hmatched hbuilt
    rw [ofEvents_of_foldlM hbuilt]
    rw [hopen, Builder.names] at hnames
    cases hopened : b.opened with
    | nil =>
      rw [hopened] at hnames
      cases hnames
    | cons e rest =>
      rw [hopened] at hnames
      rw [Builder.finish, hopened, ← (List.cons.inj hnames).1]
  | nothing hcompletable hnone =>
    obtain ⟨b, hbuilt⟩ := foldlM_of_completable hcompletable
    obtain ⟨hopened, hroot⟩ := (unstarted_iff hmatched hbuilt).mp hnone
    rw [ofEvents_of_foldlM hbuilt, Builder.finish, hopened, hroot]

/-- What becomes of the events of a document, whatever they are: they are built into the document
that they spell; else they are refused at the first event that no document has there, or they
stop too early. -/
theorem ofEvents_eq_iff {events : List Event} (hmatched : Event.Matched [] events)
    {result : Except DocumentFault Document} :
    ofEvents events = result ↔ Ending events result := by
  constructor
  · rintro rfl
    exact ending_ofEvents hmatched
  · exact ofEvents_of_ending hmatched

/-- An element, a comment and a blank text, and then another element. -/
def twoRoots : List Event :=
  [.aside, .start "forms" [("version", "1")], .text "list", .empty "form" [], .close, .text " ",
    .empty "more" [], .text "stray"]

theorem ofEvents_eq_iff_twoRoots :
    Event.Matched [] twoRoots ∧ ofEvents twoRoots = .error (.secondRoot "more") ∧
      Ending twoRoots (.error (.secondRoot "more")) := by
  have hmatched : Event.Matched [] twoRoots := by
    simp [Event.Matched, twoRoots, Event.openAfter]
  have hresult : ofEvents twoRoots = .error (.secondRoot "more") := rfl
  exact ⟨hmatched, hresult, (ofEvents_eq_iff hmatched).mp hresult⟩

end Document

end FormFetch.Markup
