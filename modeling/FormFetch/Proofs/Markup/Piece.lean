import Mathlib.Data.List.TakeWhile
import FormFetch.Proofs.Markup.Scan
import FormFetch.Proofs.Markup.Ending

/-!
# Everything that a scan reads

A text that is read without a fault is text runs and pieces of markup, and what is read from it
does not change when something else follows.

* `EndsAtMark` are the scans that stop at a `>`, whatever is behind it.
* `Piece` says what a reader of markup has read, and `piece_next` that each reader does; its
  cases are `piece_declaration`, `piece_endTag`, `piece_instruction` and `piece_startTag`.
* `Scanned` is the shape of a text that is read, and `scanned_of_scanFrom` finds it.
  `Scanned.matched` says that what is read closes what it opened.
* `Scanned.cut` and `isText_of_cut` say what is read from a text that is cut.
-/

namespace FormFetch.Markup.Event

open FormFetch.Text
open FormFetch.Markup.Tag (isSpace)

/-! ## Pieces of markup and their end -/

/-- A scan for the end of markup: what it finds is in front of a `>`, and it finds the same
whatever is behind. -/
def EndsAtMark (scan : List Char → Option (List Char × List Char)) : Prop :=
  ∀ input inside rest, scan input = some (inside, rest) →
    input = inside ++ '>' :: rest ∧ ∀ more, scan (inside ++ '>' :: more) = some (inside, more)

theorem endsAtMark_untilTagEnd (quote : Option Char) : EndsAtMark (untilTagEnd quote) := by
  intro input
  induction input generalizing quote with
  | nil =>
    intro inside rest h
    cases h
  | cons c tail ih =>
    intro inside rest h
    have hstep : ∀ after, (untilTagEnd after tail).map (fun found => (c :: found.1, found.2)) =
        some (inside, rest) → ∃ inside', inside = c :: inside' ∧ tail = inside' ++ '>' :: rest ∧
          ∀ more, untilTagEnd after (inside' ++ '>' :: more) = some (inside', more) := by
      intro after hfound
      obtain ⟨⟨inside', rest'⟩, hafter, heq⟩ := Option.map_eq_some_iff.mp hfound
      cases heq
      exact ⟨inside', rfl, ih after inside' rest' hafter⟩
    cases quote with
    | none =>
      by_cases hc : c = '>'
      · rw [untilTagEnd, if_pos hc] at h
        cases h
        exact ⟨by rw [hc]; rfl, fun more => rfl⟩
      · rw [untilTagEnd, if_neg hc] at h
        obtain ⟨inside', rfl, htail, hmore⟩ := hstep _ h
        refine ⟨by rw [htail]; rfl, fun more => ?_⟩
        rw [List.cons_append, untilTagEnd, if_neg hc, hmore]
        rfl
    | some q =>
      obtain ⟨inside', rfl, htail, hmore⟩ := hstep _ h
      refine ⟨by rw [htail]; rfl, fun more => ?_⟩
      rw [List.cons_append, untilTagEnd, hmore]
      rfl

theorem endsAtMark_untilMark (accept : List Char → Bool) (before : List Char) :
    EndsAtMark (untilMark accept before) := by
  intro input
  induction input generalizing before with
  | nil =>
    intro inside rest h
    cases h
  | cons c tail ih =>
    intro inside rest h
    rw [untilMark] at h
    split at h
    · rename_i hend
      cases h
      refine ⟨by rw [hend.1]; rfl, fun more => ?_⟩
      exact if_pos ⟨rfl, hend.2⟩
    · rename_i hgo
      obtain ⟨⟨inside', rest'⟩, hfound, heq⟩ := Option.map_eq_some_iff.mp h
      cases heq
      obtain ⟨htail, hmore⟩ := ih (c :: before) inside' rest' hfound
      refine ⟨by rw [htail]; rfl, fun more => ?_⟩
      rw [List.cons_append, untilMark, if_neg hgo, hmore]
      rfl

theorem endsAtMark_untilBalance (depth : Nat) : EndsAtMark (untilBalance depth) := by
  intro input
  induction input generalizing depth with
  | nil =>
    intro inside rest h
    cases h
  | cons c tail ih =>
    intro inside rest h
    rw [untilBalance] at h
    split at h
    · rename_i hend
      cases h
      refine ⟨by rw [hend.1]; rfl, fun more => ?_⟩
      exact if_pos ⟨rfl, hend.2⟩
    · rename_i hgo
      obtain ⟨⟨inside', rest'⟩, hfound, heq⟩ := Option.map_eq_some_iff.mp h
      cases heq
      obtain ⟨htail, hmore⟩ := ih _ inside' rest' hfound
      refine ⟨by rw [htail]; rfl, fun more => ?_⟩
      rw [List.cons_append, untilBalance, if_neg hgo]
      exact congrArg (Option.map _) (hmore more)

variable {opened : List (List Char)} {input : List Char} {step : Step}

/-- What `read` reads is a piece of markup: it ends with a `>`, it is the same whatever is behind
that, and it opens and closes the elements that its event says. -/
structure Piece (opened : List (List Char)) (read : List Char → Except Stop Step)
    (input : List Char) (step : Step) : Prop where
  ends : ∃ inside, input = inside ++ '>' :: step.rest ∧
    ∀ more, read (inside ++ '>' :: more) = .ok { step with rest := more }
  matched : step.event = .close → opened ≠ []
  opens : step.opened.map String.ofList = openAfter (opened.map String.ofList) step.event

section Declaration

variable {inside rest behind : List Char}

theorem declaration_of_comment (hstart : "!--".toList.isPrefixOf inside = true)
    (hfound : untilMark endsComment [] (inside ++ behind) = some (inside, rest)) :
    declaration opened (inside ++ behind) = .ok ⟨.aside, opened, rest⟩ := by
  obtain ⟨text, rfl⟩ := List.isPrefixOf_iff_prefix.mp hstart
  simp only [String.reduceToList, List.cons_append, List.nil_append] at hfound hstart ⊢
  simp only [declaration, hfound]
  exact if_pos hstart

theorem declaration_of_verbatim (hstart : "![CDATA[".toList.isPrefixOf inside = true)
    (hfound : untilMark endsVerbatim [] (inside ++ behind) = some (inside, rest)) :
    declaration opened (inside ++ behind) =
      .ok ⟨.verbatim (String.ofList ((inside.drop 8).take (inside.length - 10))), opened,
        rest⟩ := by
  obtain ⟨text, rfl⟩ := List.isPrefixOf_iff_prefix.mp hstart
  simp only [String.reduceToList, List.cons_append, List.nil_append] at hfound hstart ⊢
  simp only [declaration, hfound]
  exact if_pos hstart

theorem declaration_of_doctype {first c : Char} {text : List Char}
    (hletter : c = 'D' ∨ c = 'd')
    (hname : ((first :: c :: text).take 8).map Char.toLower = "!doctype".toList)
    (hspaces : ¬((first :: c :: text).drop 8).all isSpace = true)
    (hfound : untilBalance 0 (first :: c :: (text ++ behind)) = some (first :: c :: text, rest)) :
    declaration opened (first :: c :: (text ++ behind)) = .ok ⟨.aside, opened, rest⟩ := by
  rcases hletter with rfl | rfl
  · simp only [declaration, hfound, hname, hspaces, if_true, Bool.false_eq_true, if_false]
    rfl
  · simp only [declaration, hfound, hname, hspaces, if_true, Bool.false_eq_true, if_false]
    rfl

end Declaration

theorem piece_declaration (h : declaration opened input = .ok step) :
    Piece opened (declaration opened) input step := by
  unfold declaration at h
  split at h
  · split at h
    · cases h
    · rename_i inside rest hfound
      split at h
      · rename_i hstart
        cases h
        obtain ⟨hinput, hmore⟩ := endsAtMark_untilMark _ _ _ _ _ hfound
        exact ⟨⟨inside, hinput, fun more => declaration_of_comment hstart (hmore more)⟩,
          (fun hclose => by cases hclose), rfl⟩
      · cases h
  · split at h
    · cases h
    · rename_i inside rest hfound
      split at h
      · rename_i hstart
        cases h
        obtain ⟨hinput, hmore⟩ := endsAtMark_untilMark _ _ _ _ _ hfound
        exact ⟨⟨inside, hinput, fun more => declaration_of_verbatim hstart (hmore more)⟩,
          (fun hclose => by cases hclose), rfl⟩
      · cases h
  · rename_i first c tail hdash hbracket
    split at h
    · rename_i hletter
      split at h
      · cases h
      · rename_i inside rest hfound
        split at h
        · rename_i hname
          split at h
          · cases h
          · rename_i hspaces
            cases h
            obtain ⟨hinput, hmore⟩ := endsAtMark_untilBalance _ _ _ _ hfound
            obtain ⟨text, rfl⟩ : ∃ text, inside = first :: c :: text := by
              rcases inside with _ | ⟨a, _ | ⟨b, text⟩⟩
              · cases hname
              · cases congrArg List.length hname
              · cases hinput
                exact ⟨text, rfl⟩
            refine ⟨⟨first :: c :: text, hinput, fun more => ?_⟩,
              (fun hclose => by cases hclose), rfl⟩
            exact declaration_of_doctype hletter hname hspaces (hmore more)
        · cases h
    · cases h
  · cases h

theorem piece_endTag (h : endTag opened input = .ok step) :
    Piece opened (endTag opened) input step := by
  unfold endTag at h
  split at h
  · cases h
  · rename_i inside rest hfound
    obtain ⟨hinput, hmore⟩ := endsAtMark_untilTagEnd _ _ _ _ hfound
    dsimp only at h
    split at h
    · cases h
    · rename_i expected outer
      split at h
      · rename_i hname
        cases h
        refine ⟨⟨inside, hinput, fun more => ?_⟩, fun _ => List.cons_ne_nil _ _, rfl⟩
        simp only [endTag, hmore more, hname, if_true]
      · cases h

theorem piece_instruction (h : instruction opened input = .ok step) :
    Piece opened (instruction opened) input step := by
  unfold instruction at h
  split at h
  · cases h
  · rename_i inside rest hfound
    obtain ⟨hinput, hmore⟩ := endsAtMark_untilMark _ _ _ _ _ hfound
    split at h
    · rename_i hlength
      cases h
      refine ⟨⟨inside, hinput, fun more => ?_⟩, (fun hclose => by cases hclose), rfl⟩
      simp only [instruction, hmore more, hlength, if_true]
    · cases h

theorem piece_startTag (h : startTag opened input = .ok step) :
    Piece opened (startTag opened) input step := by
  unfold startTag at h
  split at h
  · cases h
  · rename_i inside rest hfound
    obtain ⟨hinput, hmore⟩ := endsAtMark_untilTagEnd _ _ _ _ hfound
    dsimp only at h
    split at h
    · cases h
    · cases h
    · rename_i attributes hattributes
      split at h
      · rename_i hslash
        cases h
        refine ⟨⟨inside, hinput, fun more => ?_⟩, (fun hclose => by cases hclose), rfl⟩
        rw [if_pos hslash] at hattributes
        simp only [startTag, hmore more, hslash, if_true, hattributes]
      · rename_i hslash
        cases h
        refine ⟨⟨inside, hinput, fun more => ?_⟩, (fun hclose => by cases hclose), rfl⟩
        rw [if_neg hslash] at hattributes
        rw [Bool.not_eq_true] at hslash
        simp only [startTag, hmore more, hslash, Bool.false_eq_true, if_false, hattributes]

/-- Which markup it is is decided by its first character. -/
theorem next_cons (opened : List (List Char)) (c : Char) (tail : List Char) :
    next opened (c :: tail) =
      if c = '!' then declaration opened (c :: tail)
      else if c = '/' then endTag opened (c :: tail)
      else if c = '?' then instruction opened (c :: tail)
      else startTag opened (c :: tail) := by
  unfold next
  split
  · rename_i hnil
    cases hnil
  · rename_i heq
    rw [(List.cons.inj heq).1, if_pos rfl]
  · rename_i heq
    rw [(List.cons.inj heq).1, if_neg (by decide), if_pos rfl]
  · rename_i heq
    rw [(List.cons.inj heq).1, if_neg (by decide), if_neg (by decide), if_pos rfl]
  · rename_i hdeclaration hend hinstruction
    rw [if_neg fun hc => hdeclaration tail (by rw [hc]), if_neg fun hc => hend tail (by rw [hc]),
      if_neg fun hc => hinstruction tail (by rw [hc])]

theorem piece_next (h : next opened input = .ok step) : Piece opened (next opened) input step := by
  cases input with
  | nil => cases h
  | cons c tail =>
    have hread : ∀ read : List Char → Except Stop Step,
        (∀ tail, next opened (c :: tail) = read (c :: tail)) →
        (read (c :: tail) = .ok step → Piece opened read (c :: tail) step) →
        Piece opened (next opened) (c :: tail) step := by
      intro read hnext hpiece
      obtain ⟨⟨inside, hinput, hmore⟩, hmatched, hopens⟩ := hpiece ((hnext tail).symm.trans h)
      refine ⟨⟨inside, hinput, fun more => ?_⟩, hmatched, hopens⟩
      obtain ⟨tail', htail⟩ : ∃ tail', inside ++ '>' :: more = c :: tail' := by
        cases inside with
        | nil =>
          cases hinput
          exact ⟨more, rfl⟩
        | cons a inside =>
          cases hinput
          exact ⟨inside ++ '>' :: more, rfl⟩
      rw [htail, hnext, ← htail]
      exact hmore more
    by_cases hdeclaration : c = '!'
    · exact hread _ (fun tail => by rw [next_cons, if_pos hdeclaration]) piece_declaration
    by_cases hend : c = '/'
    · exact hread _ (fun tail => by rw [next_cons, if_neg hdeclaration, if_pos hend])
        piece_endTag
    by_cases hinstruction : c = '?'
    · exact hread _ (fun tail => by
        rw [next_cons, if_neg hdeclaration, if_neg hend, if_pos hinstruction]) piece_instruction
    · exact hread _ (fun tail => by
        rw [next_cons, if_neg hdeclaration, if_neg hend, if_neg hinstruction]) piece_startTag

/-! ## Text runs -/

/-- A text run is at most one text. -/
theorem run_cases {start : List Char} {events : List Event} (h : run start = .ok events) :
    events = [] ∨ ∃ content, events = [.text content] := by
  unfold run at h
  split at h
  · cases h
    exact Or.inl rfl
  · split at h
    · cases h
      exact Or.inr ⟨_, rfl⟩
    · cases h

/-- A text run goes up to the next `<`. -/
theorem run_append_mark {lead : List Char} (hlead : '<' ∉ lead) (body : List Char)
    {events : List Event} :
    run (lead ++ '<' :: body) = .ok events ↔ run lead = .ok events := by
  have hall := forall_bne_of_notMem hlead
  have htake : (lead ++ '<' :: body).takeWhile (· != '<') = lead.takeWhile (· != '<') := by
    rw [takeWhile_append_of_head? hall (by simp), List.takeWhile_eq_self_iff.mpr hall]
  unfold run
  rw [htake]
  split
  · rfl
  · split
    · rfl
    · constructor <;> intro h <;> cases h

variable {opened : List (List Char)} {input : List Char} {events : List Event}

theorem scanFrom_of_stop {stop : Stop} (h : run (input.dropWhile isSpace) = .error stop) :
    scanFrom opened input = ([], some stop) := by
  rw [scanFrom]
  split
  · rename_i hstop
    rw [h] at hstop
    cases hstop
    rfl
  · rename_i hok
    rw [h] at hok
    cases hok

theorem scanFrom_append_mark {lead body : List Char} {texts : List Event} (hlead : '<' ∉ lead)
    (hrun : run (lead.dropWhile isSpace) = .ok texts) :
    scanFrom opened (lead ++ '<' :: body) =
      match next opened body with
      | .error stop => (texts, some stop)
      | .ok step =>
        (texts ++ step.event :: (scanFrom step.opened step.rest).1,
          (scanFrom step.opened step.rest).2) := by
  have hmark := mark_notMem_dropWhile hlead
  refine scanFrom_of_mark (AtMark.dropWhile_append (Or.inr ⟨body, rfl⟩) lead)
    ((run_append_mark hmark body).mpr hrun) ?_
  exact dropWhile_append_of_head? (forall_bne_of_notMem hmark) (by simp)

/-- Everything that a scan reads before it meets a fault: a text run up to the end, or up to a
piece of markup and what is behind it. -/
theorem scanFrom_cases (h : scanFrom opened input = (events, none)) :
    ('<' ∉ input ∧ run (input.dropWhile isSpace) = .ok events) ∨
    ∃ lead body texts step later, input = lead ++ '<' :: body ∧ '<' ∉ lead ∧
      run (lead.dropWhile isSpace) = .ok texts ∧ next opened body = .ok step ∧
      scanFrom step.opened step.rest = (later, none) ∧ events = texts ++ step.event :: later := by
  cases hrun : run (input.dropWhile isSpace) with
  | error stop =>
    rw [scanFrom_of_stop hrun] at h
    cases h
  | ok texts =>
    by_cases hmark : '<' ∈ input
    · obtain ⟨lead, body, rfl, hlead⟩ := List.eq_append_cons_of_mem hmark
      rw [AtMark.dropWhile_append (Or.inr ⟨body, rfl⟩),
        run_append_mark (mark_notMem_dropWhile hlead)] at hrun
      rw [scanFrom_append_mark hlead hrun] at h
      cases hnext : next opened body with
      | error stop =>
        rw [hnext] at h
        cases h
      | ok step =>
        rw [hnext] at h
        cases hlater : scanFrom step.opened step.rest with
        | mk later stop =>
          dsimp only at h
          rw [hlater] at h
          cases h
          exact Or.inr ⟨lead, body, texts, step, later, rfl, hlead, hrun, hnext, hlater, rfl⟩
    · have hnone : (input.dropWhile isSpace).dropWhile (· != '<') = [] :=
        dropWhile_ne_of_notMem (mark_notMem_dropWhile hmark)
      rw [scanFrom_of_nil rfl hrun hnone] at h
      cases h
      exact Or.inl ⟨hmark, rfl⟩

/-- A text that is read without a fault, as its pieces: text runs with markup behind them, and a
text run at the end. -/
inductive Scanned : List (List Char) → List Char → List Event → Prop where
  | run {opened : List (List Char)} {cs : List Char} {texts : List Event} (hmark : '<' ∉ cs)
      (hrun : run (cs.dropWhile isSpace) = .ok texts) : Scanned opened cs texts
  | piece {opened : List (List Char)} {lead inside : List Char} {texts later : List Event}
      {step : Step} (hlead : '<' ∉ lead) (hrun : Event.run (lead.dropWhile isSpace) = .ok texts)
      (hnext : next opened (inside ++ '>' :: step.rest) = .ok step)
      (hlater : Scanned step.opened step.rest later) :
      Scanned opened (lead ++ '<' :: (inside ++ '>' :: step.rest)) (texts ++ step.event :: later)

theorem scanned_of_scanFrom (h : scanFrom opened input = (events, none)) :
    Scanned opened input events := by
  induction hlength : input.length using Nat.strongRecOn generalizing opened input events with
  | ind n ih =>
    rcases scanFrom_cases h with ⟨hmark, hrun⟩ | ⟨lead, body, texts, step, later, rfl, hlead, hrun,
      hnext, hlater, rfl⟩
    · exact .run hmark hrun
    · obtain ⟨inside, rfl, -⟩ := (piece_next hnext).ends
      have hshort : step.rest.length < n := by
        simp only [← hlength, List.length_append, List.length_cons]
        omega
      exact .piece hlead hrun hnext (ih _ hshort hlater rfl)

/-- A text run and a piece of markup are read the same whatever is behind them. -/
theorem reads_piece {lead inside : List Char} {texts : List Event} {step : Step}
    (hlead : '<' ∉ lead) (hrun : run (lead.dropWhile isSpace) = .ok texts)
    (hnext : next opened (inside ++ '>' :: step.rest) = .ok step) (more : List Char) :
    Reads opened (lead ++ '<' :: (inside ++ '>' :: more)) (texts ++ [step.event]) step.opened
      more := by
  obtain ⟨inside', hinside, hmore⟩ := (piece_next hnext).ends
  rw [List.append_cancel_right_eq] at hinside
  subst hinside
  rw [Reads, scanFrom_append_mark hlead hrun, hmore]
  simp

/-- An event that is a text run. -/
def IsText (e : Event) : Prop :=
  ∃ content, e = .text content

theorem isText_of_run {start : List Char} (h : run start = .ok events) :
    ∀ e ∈ events, IsText e := by
  intro e he
  rcases run_cases h with rfl | ⟨content, rfl⟩
  · cases he
  · exact ⟨content, List.mem_singleton.mp he⟩

/-- Text runs open and close nothing. -/
theorem matched_append_texts {names : List String} {texts more : List Event}
    (htexts : ∀ e ∈ texts, IsText e) (hmore : Matched names more) :
    Matched names (texts ++ more) := by
  induction texts with
  | nil => exact hmore
  | cons e rest ih =>
    obtain ⟨⟨content, rfl⟩, hrest⟩ := List.forall_mem_cons.mp htexts
    exact ⟨(fun hclose => by cases hclose), ih hrest⟩

/-- Behind a piece of markup those elements are open that its event leaves open. -/
theorem openNames_of_piece {lead : List Char} {texts : List Event}
    (hrun : run (lead.dropWhile isSpace) = .ok texts) (hnext : next opened input = .ok step) :
    step.opened.map String.ofList =
      openNames (opened.map String.ofList) (texts ++ [step.event]) := by
  have htexts : openNames (opened.map String.ofList) texts = opened.map String.ofList := by
    rcases run_cases hrun with rfl | ⟨content, rfl⟩ <;> rfl
  calc step.opened.map String.ofList
      = openAfter (openNames (opened.map String.ofList) texts) step.event := by
        rw [htexts, (piece_next hnext).opens]
    _ = openNames (opened.map String.ofList) (texts ++ [step.event]) := by
        rw [openNames, openNames, List.foldl_append]
        rfl

/-- What is read closes what it opened. -/
theorem Scanned.matched (h : Scanned opened input events) :
    Matched (opened.map String.ofList) events := by
  induction h with
  | @run opened cs texts hmark hrun =>
    rw [← List.append_nil texts]
    exact matched_append_texts (isText_of_run hrun) trivial
  | piece hlead hrun hnext hlater ih =>
    obtain ⟨-, hmatched, hopens⟩ := piece_next hnext
    refine matched_append_texts (isText_of_run hrun) ⟨fun hclose => ?_, ?_⟩
    · rw [ne_eq, List.map_eq_nil_iff]
      exact hmatched hclose
    · rw [← hopens]
      exact ih

/-! ## Cut texts -/

/-- What is read from a cut text is the beginning of what is read from the whole one, up to a text
run that the cut shortens. -/
theorem Scanned.cut (h : Scanned opened input events) :
    ∃ read texts, events = read ++ texts ∧ (∀ e ∈ texts, IsText e) ∧
      ∀ more, read <+: (scanFrom opened (input ++ more)).1 := by
  induction h with
  | @run opened cs texts hmark hrun =>
    exact ⟨[], texts, rfl, isText_of_run hrun, fun more => List.nil_prefix⟩
  | @piece opened lead inside texts later step hlead hrun hnext hlater ih =>
    obtain ⟨read, tail, rfl, htail, hprefix⟩ := ih
    refine ⟨texts ++ step.event :: read, tail, ?_, htail, fun more => ?_⟩
    · rw [List.append_assoc, List.cons_append]
    · have hcut : lead ++ '<' :: (inside ++ '>' :: step.rest) ++ more =
          lead ++ '<' :: (inside ++ '>' :: (step.rest ++ more)) := by
        simp
      have hreads := reads_piece hlead hrun hnext (step.rest ++ more)
      rw [Reads] at hreads
      rw [hcut, hreads, List.append_assoc, List.singleton_append, List.prefix_append_right_inj,
        List.cons_prefix_cons]
      exact ⟨rfl, hprefix more⟩

/-- Nothing but a text run is read from a piece of markup that is cut in front of its end. -/
theorem isText_of_cut {lead inside cut : List Char} {step : Step} (hlead : '<' ∉ lead)
    (hnext : next opened (inside ++ '>' :: step.rest) = .ok step)
    (hcut : cut <+: lead ++ '<' :: inside) (h : Scanned opened cut events) :
    ∀ e ∈ events, IsText e := by
  cases h with
  | run hmark hrun => exact isText_of_run hrun
  | @piece _ lead' inside' texts later step' hlead' hrun hnext' hlater =>
    -- The markup would end in the cut text already, and then it does not end where it does.
    obtain ⟨missing, hmissing⟩ := hcut
    rw [List.append_assoc, List.cons_append] at hmissing
    obtain ⟨-, hinside⟩ := append_cons_inj hlead' hlead hmissing
    obtain ⟨inside'', hsplit, hmore⟩ := (piece_next hnext').ends
    have hlong := hmore (step'.rest ++ (missing ++ '>' :: step.rest))
    have hsame : inside'' ++ '>' :: (step'.rest ++ (missing ++ '>' :: step.rest)) =
        inside ++ '>' :: step.rest := by
      rw [← hinside, hsplit]
      simp
    rw [hsame, hnext] at hlong
    have hrest := congrArg (·.rest.length) (Except.ok.inj hlong)
    simp only [List.length_append, List.length_cons] at hrest
    omega

end FormFetch.Markup.Event
