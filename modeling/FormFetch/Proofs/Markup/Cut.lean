import FormFetch.Proofs.Markup.Piece
import FormFetch.Proofs.Markup.Writing
import FormFetch.Proofs.Text.Utf8

/-!
# Documents that are cut

A document that breaks off is never another document: what is left of it is the same document
or none, and it is none if the end of the root element is missing.

* `foldlM_of_finished` and `foldlM_of_texts` say what the builder makes of the events that a cut
  may take away.
* `RootEnd` is the `>` that ends the root element.  `rootEnd_of_piece` and `RootEnd.behind` are
  the steps, and `exists_rootEnd` finds it by induction on the pieces of the text.
* `eq_of_ofText_cut` and `exists_endsRoot` are the two halves for texts, and
  `parse_of_prefix` puts them together for bytes, which may also break off inside a character.
-/

namespace FormFetch.Markup.Document

open FormFetch.Text
open Event (Reads Scanned)
open Builder (step)

/-! ## What a cut takes away -/

namespace Builder

variable {b b' : Builder} {root : Element}

/-- A text is left out, or it becomes a child of the innermost open element. -/
theorem addText_cases {content : String} (h : b.addText content = .ok b') :
    b' = b ∨ ∃ parent outer, b.opened = parent :: outer ∧
      b' = { b with opened := push parent (.text content) :: outer } := by
  unfold addText at h
  split at h
  · rename_i parent outer hopened
    split at h
    · exact Or.inl (Except.ok.inj h).symm
    · exact Or.inr ⟨parent, outer, hopened, (Except.ok.inj h).symm⟩
  · split at h
    · exact Or.inl (Except.ok.inj h).symm
    · cases h

/-- Behind the root element nothing is built any more. -/
theorem step_of_finished {e : Event} (h : step ⟨[], some root⟩ e = .ok b') :
    b' = ⟨[], some root⟩ := by
  cases e with
  | start name attributes => cases h
  | empty name attributes => cases h
  | close => exact (Except.ok.inj h).symm
  | text content | verbatim content =>
    have htext : addText ⟨[], some root⟩ content = .ok b' := h
    rcases addText_cases htext with hsame | ⟨parent, outer, hopened, -⟩
    · exact hsame
    · cases hopened
  | aside => exact (Except.ok.inj h).symm

theorem foldlM_of_finished {events : List Event}
    (h : events.foldlM step ⟨[], some root⟩ = .ok b') : b' = ⟨[], some root⟩ := by
  induction events with
  | nil => exact (Except.ok.inj h).symm
  | cons e rest ih =>
    obtain ⟨middle, hstep, hrest⟩ := exists_of_foldlM_cons h
    rw [step_of_finished hstep] at hrest
    exact ih hrest

/-- Text runs change neither the root nor what is open, and nothing at all where nothing is open. -/
theorem foldlM_of_texts {events : List Event} (htexts : ∀ e ∈ events, Event.IsText e)
    (h : events.foldlM step b = .ok b') :
    b'.root = b.root ∧ (b'.opened = [] → b' = b) := by
  induction events generalizing b with
  | nil =>
    cases h
    exact ⟨rfl, fun _ => rfl⟩
  | cons e rest ih =>
    obtain ⟨⟨content, rfl⟩, hrest⟩ := List.forall_mem_cons.mp htexts
    obtain ⟨middle, hstep, h⟩ := exists_of_foldlM_cons h
    obtain ⟨hroot, hsame⟩ := ih hrest h
    have htext : b.addText content = .ok middle := hstep
    rcases addText_cases htext with rfl | ⟨parent, outer, hopened, rfl⟩
    · exact ⟨hroot, hsame⟩
    · refine ⟨hroot, fun hnil => ?_⟩
      rw [hsame hnil] at hnil
      cases hnil

/-- The root element is attached by the event that ends it. -/
theorem finished_of_step {e : Event} (hroot : b.root = none) (h : b.step e = .ok b')
    (hroot' : b'.root = some root) :
    b' = ⟨[], some root⟩ ∧ (e = .close ∨ ∃ name attributes, e = .empty name attributes) := by
  have hattach : ∀ {b : Builder} {e : Element}, b.root = none → b.attach e = .ok b' →
      b' = ⟨[], some root⟩ := by
    intro b e hroot h
    rcases attach_cases b e with ⟨parent, outer, -, hattach⟩ | ⟨hopened, -, hattach⟩ |
      ⟨-, -, hattach⟩
    · cases hattach.symm.trans h
      cases hroot.symm.trans hroot'
    · cases hattach.symm.trans h
      rw [hopened, ← hroot']
    · cases hattach.symm.trans h
  cases e with
  | start name attributes =>
    rcases step_start_cases b name attributes with ⟨-, hstep⟩ | ⟨-, -, hstep⟩
    · cases hstep.symm.trans h
      cases hroot.symm.trans hroot'
    · cases hstep.symm.trans h
  | empty name attributes => exact ⟨hattach hroot h, Or.inr ⟨name, attributes, rfl⟩⟩
  | close =>
    rw [Builder.step] at h
    split at h
    · cases h
      cases hroot.symm.trans hroot'
    · rename_i e outer hopened
      exact ⟨hattach (b := { b with opened := outer }) hroot h, Or.inl rfl⟩
  | text content | verbatim content =>
    have htext : b.addText content = .ok b' := h
    rcases addText_cases htext with rfl | ⟨parent, outer, -, rfl⟩
    · cases hroot.symm.trans hroot'
    · cases hroot.symm.trans hroot'
  | aside =>
    cases h
    cases hroot.symm.trans hroot'

end Builder

/-! ## The end of the root element -/

/-- A cut in front of a mark, or behind it. -/
theorem cut_cases {cut xs ys : List Char} (h : cut <+: xs ++ '>' :: ys) :
    cut <+: xs ∨ ∃ cut', cut = xs ++ '>' :: cut' ∧ cut' <+: ys := by
  obtain ⟨missing, hmissing⟩ := h
  rcases exists_of_append_eq_append_cons hmissing with ⟨cut', hcut, hys⟩ | ⟨tail, hxs, -⟩
  · exact Or.inr ⟨cut', hcut, missing, hys.symm⟩
  · exact Or.inl ⟨tail, hxs.symm⟩

/-- The `>` behind `front` ends the root element, if `b` is built in front of it: the text up to
there has the events `read` and `last`, and no text that is cut in front of it has a root
element. -/
structure RootEnd (opened : List (List Char)) (b : Builder) (root : Element) (front : List Char)
    (read : List Event) (last : Event) (opened' : List (List Char)) : Prop where
  reads : ∀ more, Reads opened (front ++ '>' :: more) (read ++ [last]) opened' more
  names : opened'.map String.ofList =
    Event.openNames (opened.map String.ofList) (read ++ [last])
  ends : last = .close ∨ ∃ name attributes, last = .empty name attributes
  built : (read ++ [last]).foldlM step b = .ok ⟨[], some root⟩
  before : ∀ cut few short, cut <+: front → Event.scanFrom opened cut = (few, none) →
    few.foldlM step b = .ok short → short.root = none

section Piece

variable {opened : List (List Char)} {lead inside : List Char} {texts : List Event}
  {piece : Event.Step} {b inner outer : Builder} {root : Element}
  (hlead : '<' ∉ lead) (hrun : Event.run (lead.dropWhile Tag.isSpace) = .ok texts)
  (hnext : Event.next opened (inside ++ '>' :: piece.rest) = .ok piece) (hroot : b.root = none)
  (htexts : texts.foldlM step b = .ok inner) (hevent : step inner piece.event = .ok outer)

include hlead hnext hroot in
/-- A piece of markup that is cut in front of its end gives no root element. -/
theorem root_of_cut {cut : List Char} {few : List Event} {short : Builder}
    (hcut : cut <+: lead ++ '<' :: inside) (hscan : Event.scanFrom opened cut = (few, none))
    (hfew : few.foldlM step b = .ok short) : short.root = none := by
  have htexts := Event.isText_of_cut hlead hnext hcut (Event.scanned_of_scanFrom hscan)
  exact (Builder.foldlM_of_texts htexts hfew).1.trans hroot

include htexts hevent in
theorem foldlM_of_piece : (texts ++ [piece.event]).foldlM step b = .ok outer := by
  rw [List.foldlM_append, htexts]
  exact (bind_pure _).trans hevent

include hlead hrun hnext hroot

/-- A piece of markup whose event ends the root element. -/
theorem rootEnd_of_piece (htexts : texts.foldlM step b = .ok inner)
    (hevent : step inner piece.event = .ok ⟨[], some root⟩)
    (hends : piece.event = .close ∨ ∃ name attributes, piece.event = .empty name attributes) :
    RootEnd opened b root (lead ++ '<' :: inside) texts piece.event piece.opened := by
  refine {
    reads := fun more => ?_
    names := Event.openNames_of_piece hrun hnext
    ends := hends
    built := foldlM_of_piece htexts hevent
    before := fun cut few short => root_of_cut hlead hnext hroot }
  rw [List.append_assoc, List.cons_append]
  exact Event.reads_piece hlead hrun hnext more

include htexts hevent

/-- The end of the root element may be behind a piece of markup. -/
theorem RootEnd.behind {front : List Char} {read : List Event} {last : Event}
    {opened' : List (List Char)}
    (h : RootEnd piece.opened outer root front read last opened') :
    RootEnd opened b root (lead ++ '<' :: (inside ++ '>' :: front)) (texts ++ piece.event :: read)
      last opened' := by
  have hone := foldlM_of_piece htexts hevent
  have hreads := Event.reads_piece hlead hrun hnext
  have hsplit : texts ++ piece.event :: read ++ [last] =
      texts ++ [piece.event] ++ (read ++ [last]) := by
    simp
  refine {
    reads := fun more => ?_
    names := ?_
    ends := h.ends
    built := ?_
    before := ?_ }
  · have hboth := (hreads (front ++ '>' :: more)).trans (h.reads more)
    simpa using hboth
  · rw [h.names, Event.openNames_of_piece hrun hnext, Event.openNames, Event.openNames,
      ← List.foldl_append, hsplit]
    rfl
  · rw [hsplit, List.foldlM_append, hone]
    exact h.built
  · intro cut few short hprefix hscan hfew
    rw [← List.cons_append, ← List.append_assoc] at hprefix
    rcases cut_cases hprefix with hshort | ⟨cut', rfl, hshort⟩
    · exact root_of_cut hlead hnext hroot hshort hscan hfew
    · have hread := hreads cut'
      rw [Reads, ← List.cons_append, ← List.append_assoc, hscan, Prod.mk.injEq] at hread
      rw [hread.1] at hfew
      obtain ⟨middle, hfirst, hrest⟩ := Builder.exists_of_foldlM_append hfew
      cases hone.symm.trans hfirst
      exact h.before cut' _ short hshort (Prod.ext rfl hread.2.symm) hrest

end Piece

/-- In what is read into a document there is a `>` that ends the root element. -/
theorem exists_rootEnd {opened : List (List Char)} {input : List Char} {events : List Event}
    {b b' : Builder} {root : Element} (h : Scanned opened input events) (hroot : b.root = none)
    (hbuilt : events.foldlM step b = .ok b') (hroot' : b'.root = some root) :
    ∃ front rest read last opened', input = front ++ '>' :: rest ∧
      RootEnd opened b root front read last opened' := by
  induction h generalizing b with
  | run hmark hrun =>
    obtain ⟨hsame, -⟩ := Builder.foldlM_of_texts (Event.isText_of_run hrun) hbuilt
    cases (hroot.symm.trans hsame.symm).trans hroot'
  | @piece opened lead inside texts later piece hlead hrun hnext hlater ih =>
    obtain ⟨inner, htexts, hbehind⟩ := Builder.exists_of_foldlM_append hbuilt
    obtain ⟨outer, hevent, hbehind⟩ := Builder.exists_of_foldlM_cons hbehind
    cases houter : outer.root with
    | some found =>
      have hinner : inner.root = none :=
        (Builder.foldlM_of_texts (Event.isText_of_run hrun) htexts).1.trans hroot
      obtain ⟨rfl, hends⟩ := Builder.finished_of_step hinner hevent houter
      obtain rfl : found = root := by
        rw [Builder.foldlM_of_finished hbehind] at hroot'
        exact Option.some.inj hroot'
      exact ⟨lead ++ '<' :: inside, piece.rest, texts, piece.event, piece.opened, by simp,
        rootEnd_of_piece hlead hrun hnext hroot htexts hevent hends⟩
    | none =>
      obtain ⟨front, rest, read, last, opened', hrest, hend⟩ := ih houter hbehind
      refine ⟨lead ++ '<' :: (inside ++ '>' :: front), rest, texts ++ piece.event :: read, last,
        opened', ?_, hend.behind hlead hrun hnext hroot htexts hevent⟩
      rw [hrest]
      simp

/-! ## Cut documents -/

/-- What is read into a document. -/
theorem ofText_eq_ok_iff {text : List Char} {document : Document} :
    ofText text = .ok document ↔
      ∃ events, Event.scan (withoutMark text) = (events, none) ∧
        events.foldlM step {} = .ok ⟨[], some document.root⟩ := by
  rw [ofText]
  cases hscan : Event.scan (withoutMark text) with
  | mk events stop =>
    cases hbuilt : events.foldlM step {} with
    | error fault =>
      constructor
      · intro h
        dsimp only at h
        rw [hbuilt] at h
        cases h
      · rintro ⟨events', heq, h⟩
        cases heq
        cases hbuilt.symm.trans h
    | ok b =>
      cases stop with
      | some stop =>
        constructor
        · intro h
          dsimp only at h
          rw [hbuilt] at h
          cases h
        · rintro ⟨events', heq, -⟩
          cases heq
      | none =>
        constructor
        · intro h
          dsimp only at h
          rw [hbuilt] at h
          exact ⟨events, rfl, hbuilt.trans (congrArg Except.ok (Builder.finish_eq_ok_iff.mp h))⟩
        · rintro ⟨events', heq, h⟩
          cases heq
          dsimp only
          rw [h]
          rfl

/-- The mark at the start of a text stays there when the text is cut behind it. -/
theorem exists_withoutMark {text front : List Char} {c : Char} {rest : List Char}
    (h : withoutMark text = front ++ c :: rest) :
    ∃ front', withoutMark front' = front ∧ text = front' ++ c :: rest ∧
      ∀ more, withoutMark (front' ++ c :: more) = front ++ c :: more := by
  by_cases hmark : text.head? = some '\uFEFF'
  · obtain ⟨tail, rfl⟩ := List.head?_eq_some_iff.mp hmark
    exact ⟨'\uFEFF' :: front, rfl, congrArg (List.cons _) h, fun more => rfl⟩
  · rw [withoutMark_of_head? hmark] at h
    subst h
    cases front with
    | nil => exact ⟨[], rfl, rfl, fun more => withoutMark_of_head? hmark⟩
    | cons d front =>
      exact ⟨d :: front, withoutMark_of_head? hmark, rfl, fun more => withoutMark_of_head? hmark⟩

theorem withoutMark_of_prefix {cut text : List Char} (h : cut <+: text) :
    withoutMark cut <+: withoutMark text := by
  obtain ⟨missing, rfl⟩ := h
  cases cut with
  | nil => exact List.nil_prefix
  | cons c tail =>
    by_cases hmark : c = '\uFEFF'
    · subst hmark
      exact List.prefix_append tail missing
    · have hhead : ∀ more, (c :: (tail ++ more)).head? ≠ some '\uFEFF' :=
        fun more heq => hmark (Option.some.inj heq)
      have hcut := hhead []
      rw [List.append_nil] at hcut
      rw [withoutMark_of_head? hcut, List.cons_append, withoutMark_of_head? (hhead missing),
        ← List.cons_append]
      exact List.prefix_append _ _

variable {text : List Char} {document : Document}

/-- A document of a cut text is the document of the whole text. -/
theorem eq_of_ofText_cut {cut : List Char} {other : Document} (h : ofText text = .ok document)
    (hcut : cut <+: text) (hother : ofText cut = .ok other) : other = document := by
  obtain ⟨events, hscan, hbuilt⟩ := ofText_eq_ok_iff.mp h
  obtain ⟨few, hscan', hfew⟩ := ofText_eq_ok_iff.mp hother
  obtain ⟨missing, hmissing⟩ := withoutMark_of_prefix hcut
  obtain ⟨read, texts, rfl, htexts, hread⟩ := (Event.scanned_of_scanFrom hscan').cut
  obtain ⟨later, hlater⟩ := hread missing
  rw [hmissing, ← Event.scan, hscan] at hlater
  obtain ⟨middle, hfirst, hrest⟩ := Builder.exists_of_foldlM_append hfew
  obtain rfl := (Builder.foldlM_of_texts htexts hrest).2 rfl
  dsimp only at hlater
  rw [← hlater] at hbuilt
  obtain ⟨middle', hfirst', hrest'⟩ := Builder.exists_of_foldlM_append hbuilt
  cases hfirst.symm.trans hfirst'
  have hsame := Builder.foldlM_of_finished hrest'
  simp only [Builder.mk.injEq, Option.some.injEq, true_and] at hsame
  obtain ⟨root⟩ := document
  obtain ⟨root'⟩ := other
  exact congrArg Document.mk hsame.symm

/-- The root element of a document ends with the `>` behind `front`: the markup up to there spells
the document, and the last of it ends an element. -/
def EndsRoot (document : Document) (front rest : List Char) : Prop :=
  ∃ events last, Reads [] (withoutMark (front ++ '>' :: rest)) (events ++ [last]) [] rest ∧
    (last = .close ∨ ∃ name attributes, last = .empty name attributes) ∧
      Spells (events ++ [last]) document

/-- The text of a document goes up to the end of the root element at least. -/
theorem exists_endsRoot (h : ofText text = .ok document) :
    ∃ front rest, text = front ++ '>' :: rest ∧ EndsRoot document front rest ∧
      ofText (front ++ ['>']) = .ok document ∧
        ∀ cut other, cut <+: front → ofText cut ≠ .ok other := by
  obtain ⟨events, hscan, hbuilt⟩ := ofText_eq_ok_iff.mp h
  have hscanned := Event.scanned_of_scanFrom hscan
  obtain ⟨front, rest, read, last, opened, hinput, hend⟩ :=
    exists_rootEnd hscanned rfl hbuilt rfl
  obtain ⟨front', hfront, rfl, hmark⟩ := exists_withoutMark hinput
  have hmatched : Event.Matched [] (read ++ [last]) := by
    have hevents := hend.reads rest
    rw [Reads, ← hinput, ← Event.scan, hscan, Prod.mk.injEq] at hevents
    have hall := hscanned.matched
    rw [hevents.1, Event.matched_append] at hall
    exact hall.1
  have hdocument : ofEvents (read ++ [last]) = .ok document := by
    rw [ofEvents_of_foldlM hend.built, Builder.finish_eq_ok_iff]
  obtain rfl : opened = [] := by
    obtain ⟨-, -, hopen⟩ := built_of_foldlM hmatched hend.built
    have hnames := hend.names
    rw [List.map_nil, ← hopen] at hnames
    exact List.map_eq_nil_iff.mp hnames
  refine ⟨front', rest, rfl, ⟨read, last, ?_, hend.ends, spells_of_ofEvents hmatched hdocument⟩, ?_,
    ?_⟩
  · rw [hmark]
    exact hend.reads rest
  · have hnil : Event.scanFrom [] [] = ([], none) := Event.scanFrom_of_nil rfl rfl rfl
    have hwhole := hend.reads []
    rw [Reads, hnil, List.append_nil] at hwhole
    refine ofText_eq_ok_iff.mpr ⟨read ++ [last], ?_, hend.built⟩
    rw [hmark]
    exact hwhole
  · intro cut other hprefix hother
    obtain ⟨few, hscan', hfew⟩ := ofText_eq_ok_iff.mp hother
    have hshort := hend.before _ _ _ (hfront ▸ withoutMark_of_prefix hprefix) hscan' hfew
    cases hshort

theorem exists_of_parse {bytes : List UInt8} (h : parse bytes = .ok document) :
    ∃ text, bytes = Utf8.encode text ∧ ofText text = .ok document := by
  unfold parse at h
  split at h
  · cases h
  · rename_i text htext
    exact ⟨text, Utf8.decode_eq_ok_iff.mp htext, h⟩

theorem parse_encode (text : List Char) : parse (Utf8.encode text) = ofText text := by
  rw [parse, Utf8.decode_encode]

/-- What is left of a document that is cut is the same document or none, and it is none if the cut
is in front of the end of the root element. -/
theorem parse_of_prefix {bytes : List UInt8} {document : Document}
    (h : parse bytes = .ok document) :
    (∀ cut, cut <+: bytes → parse cut = .ok document ∨ ∃ fault, parse cut = .error fault) ∧
      ∃ front rest, bytes = Utf8.encode (front ++ '>' :: rest) ∧ EndsRoot document front rest ∧
        parse (Utf8.encode (front ++ ['>'])) = .ok document ∧
        ∀ cut, cut <+: Utf8.encode front → ∃ fault, parse cut = .error fault := by
  obtain ⟨text, rfl, htext⟩ := exists_of_parse h
  constructor
  · intro cut hcut
    cases hparse : parse cut with
    | error fault => exact Or.inr ⟨fault, rfl⟩
    | ok other =>
      obtain ⟨text', rfl, hother⟩ := exists_of_parse hparse
      rw [eq_of_ofText_cut htext (Utf8.prefix_of_encode hcut) hother]
      exact Or.inl rfl
  · obtain ⟨front, rest, rfl, hends, hwhole, hnone⟩ := exists_endsRoot htext
    refine ⟨front, rest, rfl, hends, (parse_encode _).trans hwhole, fun cut hcut => ?_⟩
    cases hparse : parse cut with
    | error fault => exact ⟨fault, rfl⟩
    | ok other =>
      obtain ⟨text', rfl, hother⟩ := exists_of_parse hparse
      exact (hnone _ _ (Utf8.prefix_of_encode hcut) hother).elim

/-- A comment and an attribute with marks in them, a text of one blank and a line end at last. -/
def guardedText : List Char :=
  "<!-- < > --><forms of='>'>&#32;<form/></forms>\n".toList

/-- What the text says. -/
def guarded : Document :=
  ⟨⟨"forms", [("of", ">")], [.text " ", .element "form" [] []]⟩⟩

theorem parse_of_prefix_guarded :
    parse (Utf8.encode guardedText) = .ok guarded ∧
      (∀ cut, cut <+: Utf8.encode guardedText →
        parse cut = .ok guarded ∨ ∃ fault, parse cut = .error fault) ∧
      ∃ front rest, Utf8.encode guardedText = Utf8.encode (front ++ '>' :: rest) ∧
        EndsRoot guarded front rest ∧ parse (Utf8.encode (front ++ ['>'])) = .ok guarded ∧
        ∀ cut, cut <+: Utf8.encode front → ∃ fault, parse cut = .error fault := by
  have hscan : Event.scan (withoutMark guardedText) =
      ([.aside, .start "forms" [("of", ">")], .text " ", .empty "form" [], .close], none) := by
    decide +kernel
  have hparse : parse (Utf8.encode guardedText) = .ok guarded := by
    rw [parse_encode]
    exact ofText_eq_ok_iff.mpr ⟨_, hscan, rfl⟩
  exact ⟨hparse, parse_of_prefix hparse⟩

end FormFetch.Markup.Document
