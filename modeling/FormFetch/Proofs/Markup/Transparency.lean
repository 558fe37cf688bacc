import FormFetch.Proofs.Markup.Content

/-!
# Ways to write the same content

An element without child elements may be written in many ways: with comments and instructions
between its characters, and with any part of them in a character data section.  What is read is
the same up to white space at the two ends, unless white space inside stands next to such a mark.

* `Writing.KeepsInner` says that this is not the case, and `strip_text_iff` that then, and only
  then, all of the text is read.
* `ofText_of_writing` puts any writing in the place of another one.
* `text_rewritten_iff` is the result, and `inner_space_lost` a document whose text changes.
-/

namespace FormFetch.Markup

open FormFetch.Text
open FormFetch.Markup.Tag (isSpace)
open FormFetch.Markup.Event (Scanned)

/-! ## Losses -/

/-- No white space inside is lost: what is lost has only white space in front of it or only white
space behind it. -/
def Writing.KeepsInner (w : Writing) : Prop :=
  LostOutside isSpace w.marked

/-- A text without white space at its ends. -/
def outerStripped (text : String) : List Char :=
  strip isSpace text.toList

/-- The text of a writing is what it stands for, up to white space at the ends, exactly if no white
space inside is lost. -/
theorem strip_text_iff (name : String) (attributes : List (String × String)) (w : Writing) :
    outerStripped (Element.text ⟨name, attributes, w.nodes⟩) = strip isSpace w.meaning ↔
      w.KeepsInner := by
  rw [outerStripped, text_nodes, String.toList_ofList, ← w.map_marked]
  exact strip_kept_eq_iff w.isSpace_of_lost

/-- A run alone loses only white space at its ends. -/
theorem keepsInner_last (run : Run) : (Writing.last run).KeepsInner := by
  intro before c after hsplit
  rw [Writing.marked, Run.marked] at hsplit
  have hspaces : ∀ (cs : List Char), (∀ c ∈ cs, isSpace c = true) →
      ∀ x ∈ flagged false cs, isSpace x.1 = true :=
    fun cs hcs x hx => hcs x.1 (mem_flagged.mp hx).1
  rcases exists_of_append_eq_append_cons hsplit with ⟨tail, hfront, -⟩ | ⟨head, -, hrest⟩
  · exact Or.inl fun y hy => hspaces _ run.space_front y (by simp [hfront, hy])
  · rcases exists_of_append_eq_append_cons hrest with ⟨tail, hcontent, -⟩ | ⟨head', -, hback⟩
    · have hkept : (c, false) ∈ flagged true run.content := by
        simp [hcontent]
      cases (mem_flagged.mp hkept).2
    · exact Or.inr fun y hy => hspaces _ run.space_back y (by simp [hback, hy])

/-! ## Other writings -/

namespace Document

variable {path : Path} {front tail : List Char} {opened : List (List Char)} {name : String}
  {attributes : List (String × String)} {later : List Event}

/-- Any writing may stand behind the tag of an element and in front of its end. -/
theorem ofText_of_writing (htag : TagAt path front (.start name attributes) opened)
    (hbehind : Scanned opened ('<' :: tail) (.close :: later))
    (hclosing : Event.tokens (opened.map String.ofList).tail later = path.closing) (w : Writing) :
    ofText (front ++ (w.chars ++ '<' :: tail)) =
      .ok ⟨path.plug ⟨name, attributes, w.nodes⟩⟩ := by
  obtain ⟨read, hread, hnames, hreads⟩ := htag
  have hopen : opened.map String.ofList = name :: Event.openNames [] read := by
    rw [hnames, Event.openNames, List.foldl_append]
    rfl
  have hopened : opened ≠ [] := by
    rintro rfl
    cases hopen
  obtain ⟨content, hcontent, hspells⟩ := w.reads hopened (Or.inr ⟨tail, rfl⟩)
  have hscan : Event.scan (withoutMark (front ++ (w.chars ++ '<' :: tail))) =
      (read ++ .start name attributes :: (content ++ .close :: later), none) := by
    have hboth := (hreads _).trans hcontent
    rw [Event.Reads, hbehind.scanFrom_eq] at hboth
    rw [Event.scan]
    simpa using hboth
  refine ofText_of_spells hscan ?_
  calc Event.tokens [] (read ++ .start name attributes :: (content ++ .close :: later))
      = path.opening ++ (.opening name attributes ::
          Event.tokens (name :: Event.openNames [] read) (content ++ .close :: later)) := by
        rw [Event.tokens_append, hread]
        rfl
    _ = path.opening ++ (.opening name attributes ::
          (Node.tokens w.nodes ++ .closing :: path.closing)) := by
        rw [← hopen, hspells, Event.tokens]
        exact congrArg (fun behind => path.opening ++ (.opening name attributes ::
          (Node.tokens w.nodes ++ .closing :: behind))) hclosing
    _ = Node.tokens [(path.plug ⟨name, attributes, w.nodes⟩).toNode] := by
        rw [Path.tokens_plug, tokens_toNode]
        simp

variable {bytes : List UInt8} {document : Document} {e : Element}

/-- Children that are no elements are spelled by texts. -/
theorem exists_text_of_elements_nil (h : e.elements = []) :
    ∀ t ∈ Node.tokens e.children, ∃ content, t = Token.text content := by
  rw [Element.elements, List.filterMap_eq_nil_iff] at h
  generalize e.children = children at h
  induction children with
  | nil =>
    intro t ht
    rw [Node.tokens] at ht
    cases ht
  | cons node rest ih =>
    obtain ⟨hnode, hrest⟩ := List.forall_mem_cons.mp h
    cases node with
    | element name attributes children => cases hnode
    | text content =>
      rw [Node.tokens]
      exact List.forall_mem_cons.mpr ⟨⟨content, rfl⟩, ih hrest⟩

/-- In the text of a document an element without child elements is one tag, or its content is a
writing between its tags, and any other writing may stand there: the document is the same but for
the children of this element.  Where the first writing loses no white space inside and the other
one stands for the same characters, the text of the element is the same up to white space at the
ends exactly if the other one loses no white space inside either. -/
theorem text_rewritten_iff (h : parse bytes = .ok document) (hpath : document.root = path.plug e)
    (hchildren : e.elements = []) :
    ∃ front rest event opened, bytes = Utf8.encode (front ++ rest) ∧
      TagAt path front event opened ∧
      (event = .empty e.name e.attributes ∧ e.children = [] ∨
        event = .start e.name e.attributes ∧ ∃ (w : Writing) (back : List Char),
          rest = w.chars ++ back ∧ e.children = w.nodes ∧ ∀ w' : Writing,
            parse (Utf8.encode (front ++ (w'.chars ++ back))) =
                .ok ⟨path.plug { e with children := w'.nodes }⟩ ∧
              (w.KeepsInner → w'.meaning = w.meaning →
                (outerStripped ({ e with children := w'.nodes } : Element).text =
                  outerStripped e.text ↔ w'.KeepsInner))) := by
  obtain ⟨text, rfl, htext⟩ := exists_of_parse h
  obtain ⟨front, rest, event, opened, later, rfl, htag, hscanned, hplace⟩ :=
    exists_tagAt htext hpath
  refine ⟨front, rest, event, opened, rfl, htag, ?_⟩
  rcases hplace with ⟨rfl, htokens⟩ | hempty
  · obtain ⟨content, behind, rfl, hcontent, hclosing⟩ :=
      Event.exists_of_tokens_closing htokens (exists_text_of_elements_nil hchildren)
    obtain ⟨w, tail, rfl, hbehind⟩ := exists_writing hscanned hcontent
    have hwrite := ofText_of_writing htag hbehind hclosing
    have hnodes : e = { e with children := w.nodes } := by
      have hsame := htext.symm.trans (hwrite w)
      rw [Except.ok.injEq] at hsame
      exact Path.plug_injective (hpath.symm.trans (congrArg Document.root hsame))
    refine Or.inr ⟨rfl, w, '<' :: tail, rfl, congrArg Element.children hnodes, fun w' =>
      ⟨(parse_encode _).trans (hwrite w'), fun hkeeps hmeaning => ?_⟩⟩
    have htext : outerStripped e.text = strip isSpace w'.meaning := by
      rw [hnodes, hmeaning]
      exact (strip_text_iff e.name e.attributes w).mpr hkeeps
    rw [htext]
    exact strip_text_iff e.name e.attributes w'
  · exact Or.inl hempty

/-- A name with a reference in it, beside an element without content. -/
def menuText : List Char :=
  "<menu><name> fish &amp; chips</name><br/></menu>".toList

/-- Where the name stands. -/
def menuPath : Path :=
  .child "menu" [] [] [.element "br" [] []] .here

/-- The name. -/
def dish : Element :=
  ⟨"name", [], [.text "fish & chips"]⟩

theorem text_rewritten_iff_menu :
    parse (Utf8.encode menuText) = .ok ⟨menuPath.plug dish⟩ ∧ dish.elements = [] ∧
      ∃ front rest event opened, Utf8.encode menuText = Utf8.encode (front ++ rest) ∧
        TagAt menuPath front event opened ∧
        (event = .empty dish.name dish.attributes ∧ dish.children = [] ∨
          event = .start dish.name dish.attributes ∧ ∃ (w : Writing) (back : List Char),
            rest = w.chars ++ back ∧ dish.children = w.nodes ∧ ∀ w' : Writing,
              parse (Utf8.encode (front ++ (w'.chars ++ back))) =
                  .ok ⟨menuPath.plug { dish with children := w'.nodes }⟩ ∧
                (w.KeepsInner → w'.meaning = w.meaning →
                  (outerStripped ({ dish with children := w'.nodes } : Element).text =
                    outerStripped dish.text ↔ w'.KeepsInner))) := by
  have hscan : Event.scan (withoutMark menuText) =
      ([.start "menu" [], .start "name" [], .text "fish & chips", .close, .empty "br" [], .close],
        none) := by
    decide +kernel
  have hparse : parse (Utf8.encode menuText) = .ok ⟨menuPath.plug dish⟩ := by
    rw [parse_encode]
    exact ofText_eq_ok_iff.mpr ⟨_, hscan, rfl⟩
  exact ⟨hparse, rfl, text_rewritten_iff hparse rfl rfl⟩

/-- A name with a space in it. -/
def spaced : Writing :=
  .last {
    front := []
    core := "fish chips".toList
    back := []
    content := "fish chips".toList
    space_front := by simp
    space_back := by simp
    edged := by simp [Edged, isSpace]
    unmarked := by decide
    standsFor := Reference.standsFor_self (by decide) }

/-- The same name with a comment behind the space. -/
def commented : Writing :=
  .more {
    front := []
    core := "fish".toList
    back := [' ']
    content := "fish".toList
    space_front := by simp
    space_back := by simp [isSpace]
    edged := by simp [Edged, isSpace]
    unmarked := by decide
    standsFor := Reference.standsFor_self (by decide) }
    (.comment " and ".toList (by decide +kernel))
    (.last {
      front := []
      core := "chips".toList
      back := []
      content := "chips".toList
      space_front := by simp
      space_back := by simp
      edged := by simp [Edged, isSpace]
      unmarked := by decide
      standsFor := Reference.standsFor_self (by decide) })

/-- A name that reads `fish chips`, and `fishchips` when a comment stands behind its space. -/
theorem inner_space_lost :
    spaced.meaning = commented.meaning ∧ spaced.KeepsInner ∧
      "<name>".toList ++ spaced.chars ++ "</name>".toList = "<name>fish chips</name>".toList ∧
      parse (Utf8.encode "<name>fish chips</name>".toList) =
        .ok ⟨⟨"name", [], [.text "fish chips"]⟩⟩ ∧
      "<name>".toList ++ commented.chars ++ "</name>".toList =
        "<name>fish <!-- and -->chips</name>".toList ∧
      parse (Utf8.encode "<name>fish <!-- and -->chips</name>".toList) =
        .ok ⟨⟨"name", [], [.text "fish", .text "chips"]⟩⟩ ∧
      outerStripped (Element.text ⟨"name", [], [.text "fish", .text "chips"]⟩) ≠
        outerStripped (Element.text ⟨"name", [], [.text "fish chips"]⟩) := by
  have hspaced : Event.scan (withoutMark "<name>fish chips</name>".toList) =
      ([.start "name" [], .text "fish chips", .close], none) := by
    decide +kernel
  have hcommented : Event.scan (withoutMark "<name>fish <!-- and -->chips</name>".toList) =
      ([.start "name" [], .text "fish", .aside, .text "chips", .close], none) := by
    decide +kernel
  refine ⟨by decide +kernel, keepsInner_last _, by decide +kernel, ?_, by decide +kernel, ?_,
    by decide +kernel⟩
  · rw [parse_encode]
    exact ofText_eq_ok_iff.mpr ⟨_, hspaced, rfl⟩
  · rw [parse_encode]
    exact ofText_eq_ok_iff.mpr ⟨_, hcommented, rfl⟩

end Document

end FormFetch.Markup
