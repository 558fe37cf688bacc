import FormFetch.Proofs.Auth.Characters
import FormFetch.Proofs.Auth.Spelling

/-!
# Lists of challenges

One header value may hold several challenges, with commas between them as between parameters.
They are read as one: the first parameter of a later challenge gets the scheme into its name
and is lost, and all others count as if they belonged to the first challenge.

* `Item` is what may stand between two commas, and `pairs_items` reads a list of items.
* `ChallengeList` is a list that begins with a Digest challenge.
* `ChallengeList.lookup_params` says which challenge a part is taken from, and `parse?_list` what
  is read of a list and when all parts come from the same challenge.
* `mixed_challenges` is a list of two challenges that is read as neither of them.
-/

namespace FormFetch.Auth.Param

open FormFetch.Text

/-! ## Words and parameters -/

/-- A word without a value. -/
structure Word where
  chars : List Char
  chars_ne : chars ≠ []
  isKeyChar_chars : ∀ c ∈ chars, isKeyChar c = true
  isBlank_chars : ∀ c ∈ chars, isBlank c = false

/-- What stands between two separators. -/
inductive Item where
  | word (w : Word)
  | param (p : Spelled)

namespace Item

/-- The characters of an item. -/
def chars : Item → List Char
  | word w => w.chars
  | param p => p.chars

/-- The parameter that an item is. -/
def pair? : Item → Option (String × String)
  | word _ => none
  | param p => some p.pair

/-- Something in an item is no blank. -/
theorem exists_mark (item : Item) :
    ∃ front c back, item.chars = front ++ c :: back ∧ isBlank c = false := by
  cases item with
  | word w =>
    obtain ⟨c, more, hchars⟩ := List.exists_cons_of_ne_nil w.chars_ne
    exact ⟨[], c, more, hchars, w.isBlank_chars c (hchars ▸ List.mem_cons_self ..)⟩
  | param p => exact ⟨p.key ++ p.before, '=', p.after ++ p.value.chars, rfl, rfl⟩

/-- What is cut at the end of a list is not in front of its last item. -/
theorem trimEnd_append (front : List Char) (item : Item) (rest : List Char) :
    trimEnd (front ++ (item.chars ++ rest)) = front ++ trimEnd (item.chars ++ rest) := by
  obtain ⟨init, c, back, hchars, hc⟩ := item.exists_mark
  rw [hchars, trimEnd, trimEnd, List.append_assoc, List.cons_append, dropEndWhile_append_cons _ _ hc,
    ← List.append_assoc, dropEndWhile_append_cons _ _ hc, List.append_assoc]

end Item

theorem head_word (w : Word) : ∃ first more, w.chars = first :: more ∧ isSeparator first = false := by
  obtain ⟨first, more, hchars⟩ := List.exists_cons_of_ne_nil w.chars_ne
  have hmem : first ∈ w.chars := hchars ▸ List.mem_cons_self ..
  have hkey := w.isKeyChar_chars first hmem
  simp only [isKeyChar, Bool.and_eq_true, bne_iff_ne] at hkey
  exact ⟨first, more, hchars, by simp [isSeparator, w.isBlank_chars first hmem, hkey.2]⟩

theorem dropWhile_word (w : Word) (rest : List Char) :
    (w.chars ++ rest).dropWhile isSeparator = w.chars ++ rest := by
  obtain ⟨first, more, hchars, hfirst⟩ := head_word w
  rw [hchars, List.cons_append, List.dropWhile_cons_of_neg (by simp [hfirst])]

/-- A word in front of a separator is skipped. -/
theorem pairs_word (w : Word) (s : Separator) (rest : List Char) :
    pairs (w.chars ++ (s.chars ++ rest)) = pairs rest := by
  obtain ⟨pad, more, hs, hpad⟩ := List.eq_append_cons_of_mem s.comma_mem
  have hkey : ∀ c ∈ w.chars ++ pad, isKeyChar c = true := by
    intro c hc
    rcases List.mem_append.mp hc with hc | hc
    · exact w.isKeyChar_chars c hc
    · have hsep := s.isSeparator_chars c (hs ▸ List.mem_append_left _ hc)
      have hcomma : c ≠ ',' := fun heq => hpad (heq ▸ hc)
      refine isKeyChar_of_isBlank ?_
      simpa [isSeparator, hcomma] using hsep
  have hmore : ∀ c ∈ more, isSeparator c = true := fun c hc =>
    s.isSeparator_chars c (hs ▸ List.mem_append_right _ (List.mem_cons_of_mem _ hc))
  have hchars : w.chars ++ (s.chars ++ rest) = w.chars ++ pad ++ ',' :: (more ++ rest) := by
    simp [hs]
  have hcomma : ∀ c ∈ (',' :: (more ++ rest)).head?, isKeyChar c = false := by
    simp [isKeyChar]
  rw [pairs_eq, dropWhile_word, hchars, dropWhile_append_of_head? hkey hcomma]
  exact pairs_separators hmore rest

/-- A word at the end is skipped. -/
theorem pairs_word_last (w : Word) : pairs w.chars = [] := by
  have hdrop := dropWhile_word w []
  have hkey : w.chars.dropWhile isKeyChar = [] := by
    simpa using w.isKeyChar_chars
  rw [List.append_nil] at hdrop
  rw [pairs_eq, hdrop, hkey]

/-- An item in front of a separator. -/
theorem pairs_item (item : Item) (s : Separator) (rest : List Char) :
    pairs (item.chars ++ (s.chars ++ rest)) = item.pair?.toList ++ pairs rest := by
  cases item with
  | word w => exact pairs_word w s rest
  | param p => exact pairs_spelled p s rest

theorem pairs_item_last (item : Item) : pairs (trimEnd item.chars) = item.pair?.toList := by
  cases item with
  | word w =>
    have htrim : trimEnd w.chars = w.chars := dropEndWhile_of_forall_not w.isBlank_chars
    rw [Item.chars, htrim]
    exact pairs_word_last w
  | param p => exact pairs_spelled_last p

/-- Items, each behind a separator. -/
def itemChars (items : List (Separator × Item)) : List Char :=
  items.flatMap fun x => x.1.chars ++ x.2.chars

theorem itemChars_cons (s : Separator) (item : Item) (items : List (Separator × Item)) :
    itemChars ((s, item) :: items) = s.chars ++ (item.chars ++ itemChars items) := by
  rw [itemChars, List.flatMap_cons, List.append_assoc, itemChars]

theorem itemChars_append (items more : List (Separator × Item)) :
    itemChars (items ++ more) = itemChars items ++ itemChars more :=
  List.flatMap_append

/-- The parameters among the items are read, in their order. -/
theorem pairs_items (item : Item) (items : List (Separator × Item)) :
    pairs (trimEnd (item.chars ++ itemChars items)) =
      item.pair?.toList ++ items.filterMap (·.2.pair?) := by
  induction items generalizing item with
  | nil =>
    rw [itemChars, List.flatMap_nil, List.append_nil, List.filterMap_nil, List.append_nil]
    exact pairs_item_last item
  | cons x rest ih =>
    obtain ⟨s, next⟩ := x
    rw [itemChars_cons, ← List.append_assoc, Item.trimEnd_append, List.append_assoc, pairs_item, ih next]
    cases next <;> rfl

end FormFetch.Auth.Param

namespace FormFetch.Auth.Digest

open FormFetch.Text
open FormFetch.Auth.Param (Spelled Separator Word Item texts)

/-! ## Lists of challenges -/

/-- The parameters of a challenge, behind blanks. -/
structure Params where
  gap : List Char
  first : Spelled
  others : List (Separator × Spelled)
  gap_ne : gap ≠ []
  isBlank_gap : ∀ c ∈ gap, isBlank c = true

/-- A challenge behind another one. -/
structure Later where
  separator : Separator
  scheme : Word
  /-- There may be none. -/
  params? : Option Params := none

/-- Challenges one after the other, the first of them a Digest challenge. -/
structure ChallengeList where
  first : Header
  later : List Later

namespace Later

/-- The characters of a later challenge and of the separator in front of it. -/
def chars (x : Later) : List Char :=
  x.separator.chars ++ x.scheme.chars ++
    (x.params?.map fun p => p.gap ++ Param.body p.first p.others).getD []

def isDigest (x : Later) : Bool :=
  sameIgnoringCase (String.ofList x.scheme.chars) "digest"

/-- All parameters of a challenge behind its first one. -/
def behind (x : Later) : List (String × String) :=
  (x.params?.map fun p => p.others.map (·.2.pair)).getD []

/-- All parameters of a challenge. -/
def own (x : Later) : List (String × String) :=
  (x.params?.map fun p => p.first.pair :: p.others.map (·.2.pair)).getD []

end Later

/-- The names of the parts of a challenge. -/
def partNames : List String :=
  ["realm", "nonce", "opaque", "algorithm", "qop", "stale"]

namespace ChallengeList

def text (l : ChallengeList) : String :=
  String.ofList (l.first.text.toList ++ l.later.flatMap Later.chars)

/-- The parameters that count: all of the first challenge, and of the later ones all but the
first of each. -/
def params (l : ChallengeList) : List (String × String) :=
  l.first.params ++ l.later.flatMap Later.behind

/-- What the last of the later challenges says about a part, behind its first parameter. -/
def stated? (l : ChallengeList) (name : String) : Option String :=
  l.later.reverse.findSome? fun x => Param.lookup name x.behind

/-- The parameters of each Digest challenge. -/
def digests (l : ChallengeList) : List (List (String × String)) :=
  l.first.params :: (l.later.filter Later.isDigest).map Later.own

/-- All parts that count are those of one challenge. -/
def AllFrom (l : ChallengeList) (own : List (String × String)) : Prop :=
  ∀ name ∈ partNames, Param.lookup name l.params = Param.lookup name own

end ChallengeList

/-! ## What is read -/

/-- The first parameter of a later challenge as it is read: its name begins with the scheme. -/
def Params.merged (p : Params) (scheme : Word) : Spelled where
  key := scheme.chars ++ p.gap ++ p.first.key
  before := p.first.before
  after := p.first.after
  value := p.first.value
  key_ne := List.append_ne_nil_of_right_ne_nil _ p.first.key_ne
  isKeyChar_key := by
    intro c hc
    rw [List.mem_append, List.mem_append] at hc
    rcases hc with (hc | hc) | hc
    · exact scheme.isKeyChar_chars c hc
    · exact Param.isKeyChar_of_isBlank (p.isBlank_gap c hc)
    · exact p.first.isKeyChar_key c hc
  trimStart_key := by
    obtain ⟨c, more, hchars⟩ := List.exists_cons_of_ne_nil scheme.chars_ne
    have hc := scheme.isBlank_chars c (hchars ▸ List.mem_cons_self ..)
    rw [hchars]
    exact List.dropWhile_cons_of_neg (by simp [hc])
  trimEnd_key := by
    have hend := p.first.trimEnd_key
    rcases List.eq_nil_or_concat p.first.key with hnil | ⟨init, last, hkey⟩
    · exact absurd hnil p.first.key_ne
    · rw [hkey, List.concat_eq_append] at hend ⊢
      rw [← List.append_assoc, trimEnd, dropEndWhile_append_cons _ _ (isBlank_of_trimEnd hend)]
      rfl
  isBlank_before := p.first.isBlank_before
  isBlank_after := p.first.isBlank_after
  readable := p.first.readable

/-- No part has a name with a blank. -/
theorem name_merged_ne (p : Params) (scheme : Word) :
    ∀ name ∈ partNames, (p.merged scheme).pair.1 ≠ name := by
  have hparts : ∀ name ∈ partNames, ∀ c ∈ name.toList, isBlank c = false := by
    simp [partNames, isBlank]
  obtain ⟨blank, more, hgap⟩ := List.exists_cons_of_ne_nil p.gap_ne
  have hblank := p.isBlank_gap blank (hgap ▸ List.mem_cons_self ..)
  rintro name hname rfl
  have hmem : blank.toLower ∈ ((p.merged scheme).pair.1).toList := by
    rw [Spelled.pair, String.toList_ofList]
    exact List.mem_map_of_mem (List.mem_append_left _ (List.mem_append_right _
      (hgap ▸ List.mem_cons_self ..)))
  rw [toLower_of_isBlank hblank] at hmem
  rw [hparts _ hname blank hmem] at hblank
  cases hblank

/-- Parameters as items. -/
def paramItems (others : List (Separator × Spelled)) : List (Separator × Item) :=
  others.map fun y => (y.1, .param y.2)

theorem itemChars_paramItems (others : List (Separator × Spelled)) :
    Param.itemChars (paramItems others) = others.flatMap fun y => y.1.chars ++ y.2.chars :=
  List.flatMap_map ..

theorem filterMap_paramItems (others : List (Separator × Spelled)) :
    (paramItems others).filterMap (·.2.pair?) = others.map (·.2.pair) := by
  rw [paramItems, List.filterMap_map, ← List.filterMap_eq_map]
  rfl

/-- The items of a later challenge as they are read. -/
def Later.items (x : Later) : List (Separator × Item) :=
  (x.params?.map fun p =>
    (x.separator, .param (p.merged x.scheme)) :: paramItems p.others).getD
      [(x.separator, .word x.scheme)]

theorem itemChars_items (x : Later) : Param.itemChars x.items = x.chars := by
  unfold Later.items Later.chars
  cases x.params? with
  | none => simp [Param.itemChars, Item.chars]
  | some p =>
    simp only [Option.map_some, Option.getD_some]
    rw [Param.itemChars_cons, itemChars_paramItems]
    simp [Item.chars, Param.body, Spelled.chars, Params.merged]

/-- Of a later challenge only what is behind its first parameter has the name of a part. -/
theorem texts_items (x : Later) : ∀ name ∈ partNames,
    texts name (x.items.filterMap (·.2.pair?)) = texts name x.behind := by
  intro name hname
  unfold Later.items Later.behind
  cases x.params? with
  | none => rfl
  | some p =>
    have hmerged := name_merged_ne p x.scheme name hname
    have hpairs : ((x.separator, Item.param (p.merged x.scheme)) ::
        paramItems p.others).filterMap (·.2.pair?) =
        (p.merged x.scheme).pair :: p.others.map (·.2.pair) :=
      congrArg _ (filterMap_paramItems p.others)
    simp only [Option.map_some, Option.getD_some]
    rw [hpairs, texts, List.filter_cons_of_neg (by simpa using hmerged), texts]

theorem texts_append (name : String) (xs ys : List (String × String)) :
    texts name (xs ++ ys) = texts name xs ++ texts name ys := by
  rw [texts, List.filter_append, List.map_append, texts, texts]

theorem texts_flatMap {α : Type} (name : String) (xs : List α) (f : α → List (String × String)) :
    texts name (xs.flatMap f) = xs.flatMap fun x => texts name (f x) := by
  induction xs with
  | nil => rfl
  | cons x rest ih => rw [List.flatMap_cons, texts_append, ih, List.flatMap_cons]

/-- A challenge depends on the look-ups of its parts. -/
theorem ofParams?_congr {xs ys : List (String × String)}
    (h : ∀ name ∈ partNames, Param.lookup name xs = Param.lookup name ys) :
    Challenge.ofParams? xs = Challenge.ofParams? ys := by
  simp only [partNames, List.forall_mem_cons] at h
  obtain ⟨hrealm, hnonce, hgiven, halgorithm, hqop, hstale, -⟩ := h
  rw [ofParams?_eq, ofParams?_eq, hrealm, hnonce, hgiven, halgorithm, hqop, hstale]

namespace ChallengeList

variable (l : ChallengeList)

/-- A part is taken from the last later challenge that states it behind its first parameter, and
else from the first challenge. -/
theorem lookup_params (name : String) :
    Param.lookup name l.params = (l.stated? name).or (Param.lookup name l.first.params) := by
  rw [Param.lookup_eq_getLast?, params, texts_append, List.getLast?_append, texts_flatMap,
    List.getLast?_flatMap, ← Param.lookup_eq_getLast?, stated?]
  simp only [Param.lookup_eq_getLast?]

theorem text_eq : l.text = String.ofList (l.first.scheme ++ l.first.gap ++
    ((Item.param l.first.first).chars ++
      Param.itemChars (paramItems l.first.others ++ l.later.flatMap Later.items))) := by
  have hlater : Param.itemChars (l.later.flatMap Later.items) = l.later.flatMap Later.chars := by
    rw [Param.itemChars, List.flatMap_assoc]
    exact congrArg (l.later.flatMap ·) (funext itemChars_items)
  rw [text, Header.text, String.toList_ofList, Param.itemChars_append, hlater,
    itemChars_paramItems]
  simp only [Param.body, Item.chars, List.append_assoc]

/-- A list is read as the parameters that count. -/
theorem parse?_text : Challenge.parse? l.text = Challenge.ofParams? l.params := by
  rw [text_eq, parse?_append l.first.isDigest l.first.gap_ne l.first.isBlank_gap
    (fun front => Item.trimEnd_append front _ _), Param.pairs_items]
  refine ofParams?_congr fun name hname => ?_
  have hlater : texts name ((l.later.flatMap Later.items).filterMap (·.2.pair?)) =
      texts name (l.later.flatMap Later.behind) := by
    rw [List.filterMap_flatMap, texts_flatMap, texts_flatMap]
    exact congrArg (l.later.flatMap ·) (funext fun x => texts_items x name hname)
  rw [Param.lookup_eq_getLast?, Param.lookup_eq_getLast?, List.filterMap_append,
    filterMap_paramItems, params, texts_append, texts_append, texts_append, hlater,
    ← List.append_assoc, ← texts_append]
  rfl

/-- All parts are those of the first challenge unless a later one states another text. -/
theorem allFrom_first_iff : l.AllFrom l.first.params ↔ ∀ name ∈ partNames, ∀ text,
    l.stated? name = some text → Param.lookup name l.first.params = some text := by
  refine forall₂_congr fun name _ => ?_
  rw [lookup_params]
  cases l.stated? name with
  | none => simp
  | some text => simp [eq_comm]

end ChallengeList

/-- A list is read as one challenge, whatever challenges it consists of.  Each part is the one of
the last later challenge that states it behind its first parameter, and else the one of the first
challenge.

If all of these come from one Digest challenge of the list, it is this challenge that is read.  It
is the first one exactly if nothing that a later challenge states behind its first parameter, of
whatever scheme, has the last word with another text. -/
theorem parse?_list (l : ChallengeList) :
    Challenge.parse? l.text = Challenge.ofParams? l.params ∧
      (∀ name, Param.lookup name l.params =
        (l.stated? name).or (Param.lookup name l.first.params)) ∧
      (∀ own ∈ l.digests, l.AllFrom own →
        Challenge.parse? l.text = Challenge.ofParams? own) ∧
      (l.AllFrom l.first.params → Challenge.parse? l.text = Challenge.parse? l.first.text) ∧
      (l.AllFrom l.first.params ↔ ∀ name ∈ partNames, ∀ text,
        l.stated? name = some text → Param.lookup name l.first.params = some text) := by
  refine ⟨l.parse?_text, l.lookup_params, fun own _ hall => ?_, fun hall => ?_,
    l.allFrom_first_iff⟩
  · exact l.parse?_text.trans (ofParams?_congr hall)
  · rw [Header.parse?_text]
    exact l.parse?_text.trans (ofParams?_congr hall)

/-! ## Lists of several challenges -/

/-- The words of the lists below. -/
inductive Keyword where
  | realm
  | nonce
  | algorithm
  | digest
  | basic
  | negotiate

namespace Keyword

def text : Keyword → String
  | realm => "realm"
  | nonce => "nonce"
  | algorithm => "algorithm"
  | digest => "Digest"
  | basic => "Basic"
  | negotiate => "Negotiate"

theorem isKey (k : Keyword) : k.text.toList ≠ [] ∧
    k.text.toList.all (fun c => Param.isKeyChar c && !isBlank c) = true := by
  cases k <;> decide

theorem isWord (k : Keyword) :
    ∀ c ∈ k.text.toList, Param.isKeyChar c = true ∧ isBlank c = false := by
  simpa using k.isKey.2

/-- A word of a list. -/
def word (k : Keyword) : Word where
  chars := k.text.toList
  chars_ne := k.isKey.1
  isKeyChar_chars := fun c hc => (k.isWord c hc).1
  isBlank_chars := fun c hc => (k.isWord c hc).2

/-- A parameter. -/
def is (k : Keyword) (value : Param.Written) (h : value.Readable) : Spelled :=
  spelled k.text "" "" value k.isKey.1 k.isKey.2 rfl rfl h

end Keyword

/-- A Digest challenge with a realm, a nonce and an algorithm. -/
def digestHeader (realm nonce : String) (a : Algorithm) : Header where
  scheme := Keyword.digest.text.toList
  gap := [' ']
  first := Keyword.realm.is (.quoted realm) trivial
  others := [(comma, Keyword.nonce.is (.quoted nonce) trivial),
    (comma, Keyword.algorithm.is (.token a.name) (bareText_algorithm a))]
  isDigest := by decide
  gap_ne := List.cons_ne_nil _ _
  isBlank_gap := List.all_eq_true.mp (by decide)

/-- A Digest challenge and what else the server takes. -/
def manyWays : ChallengeList where
  first := digestHeader "forms" "n" .md5
  later := [
    { separator := comma
      scheme := Keyword.negotiate.word },
    { separator := comma
      scheme := Keyword.basic.word
      params? := some
        { gap := [' ']
          first := Keyword.realm.is (.quoted "users") trivial
          others := []
          gap_ne := List.cons_ne_nil _ _
          isBlank_gap := List.all_eq_true.mp (by decide) } }]

/-- Challenges with one parameter or none change nothing of the one in front of them. -/
theorem parse?_list_manyWays :
    manyWays.text = "Digest realm=\"forms\", nonce=\"n\", algorithm=MD5, Negotiate, " ++
        "Basic realm=\"users\"" ∧
      manyWays.AllFrom manyWays.first.params ∧
      Challenge.parse? manyWays.text = Challenge.parse? manyWays.first.text := by
  obtain ⟨-, -, -, hfirst, hiff⟩ := parse?_list manyWays
  have hstated : ∀ name, manyWays.stated? name = none := fun name => rfl
  have hall : manyWays.AllFrom manyWays.first.params := by
    refine hiff.mpr fun name _ text htext => ?_
    rw [hstated] at htext
    cases htext
  exact ⟨by decide +kernel, hall, hfirst hall⟩

/-- The same challenge for two algorithms, the better one first. -/
def twoDigests : ChallengeList where
  first := digestHeader "forms" "n1" .sha256
  later := [
    { separator := comma
      scheme := Keyword.digest.word
      params? := some
        { gap := [' ']
          first := Keyword.realm.is (.quoted "other") trivial
          others := (digestHeader "other" "n2" .md5).others
          gap_ne := List.cons_ne_nil _ _
          isBlank_gap := List.all_eq_true.mp (by decide) } }]

/-- Of two Digest challenges neither is read, but the realm of the first with the nonce and the
algorithm of the second. -/
theorem mixed_challenges :
    twoDigests.text = "Digest realm=\"forms\", nonce=\"n1\", algorithm=SHA-256, " ++
        "Digest realm=\"other\", nonce=\"n2\", algorithm=MD5" ∧
      ∃ c, Challenge.parse? twoDigests.text = some c ∧
        (∀ own ∈ twoDigests.digests, Challenge.ofParams? own ≠ some c) ∧
        ∀ own ∈ twoDigests.digests, ¬twoDigests.AllFrom own := by
  have hread : Challenge.parse? twoDigests.text = some ⟨"forms", "n2", none, .md5, false, false⟩ := by
    rw [ChallengeList.parse?_text]
    decide +kernel
  have hown : ∀ own ∈ twoDigests.digests,
      Challenge.ofParams? own ≠ some ⟨"forms", "n2", none, .md5, false, false⟩ := by
    decide +kernel
  refine ⟨by decide +kernel, _, hread, hown, fun own hmem hall => hown own hmem ?_⟩
  rw [← hread, ChallengeList.parse?_text]
  exact (ofParams?_congr hall).symm

end FormFetch.Auth.Digest
