import Mathlib
import FormFetch.Proofs.Auth.Digest

/-!
# Challenges in any spelling

A server is free in how it writes a challenge: the case of letters, the blanks, the order
of the parameters, quotes or none, and parameters of its own in between.  All spellings of
one challenge are read as this challenge.

* `Spelled` is one parameter as it stands in a header, `Separator` is what may stand
  between two of them.  `pairs_spelled` and `pairs_spelled_last` read one parameter,
  `pairs_body` a whole list.
* `parse?_append` reads what is behind the scheme.
* `Header` is a header, and `parse?_text` is what is left of its spelling.
* `States` says that parameters state a challenge, and `parse?_of_states` is the result.
-/

namespace FormFetch.Auth.Param

open FormFetch.Text

/-! ## One parameter -/

/-- A parameter as it stands in a header. -/
structure Spelled where
  key : List Char
  /-- Blanks in front of the equals sign. -/
  before : List Char := []
  /-- Blanks behind the equals sign. -/
  after : List Char := []
  value : Written
  key_ne : key ≠ []
  isKeyChar_key : ∀ c ∈ key, isKeyChar c = true
  trimStart_key : trimStart key = key
  trimEnd_key : trimEnd key = key
  isBlank_before : ∀ c ∈ before, isBlank c = true
  isBlank_after : ∀ c ∈ after, isBlank c = true
  readable : value.Readable

/-- What may stand between two parameters: blanks and commas, with at least one comma. -/
structure Separator where
  chars : List Char
  isSeparator_chars : ∀ c ∈ chars, isSeparator c = true
  comma_mem : ',' ∈ chars

/-- The parameter itself: its name in lower case and its value. -/
def Spelled.pair (p : Spelled) : String × String :=
  (String.ofList (p.key.map Char.toLower), p.value.text)

/-- The characters of a parameter. -/
def Spelled.chars (p : Spelled) : List Char :=
  p.key ++ p.before ++ '=' :: (p.after ++ p.value.chars)

theorem isKeyChar_of_isBlank {c : Char} (h : isBlank c = true) : isKeyChar c = true := by
  have hequals : c ≠ '=' := by
    rintro rfl
    cases h
  have hcomma : c ≠ ',' := by
    rintro rfl
    cases h
  simp [isKeyChar, hequals, hcomma]

/-- A value starts and ends with other characters than blanks. -/
theorem trim_chars {w : Written} (h : w.Readable) :
    trimStart w.chars = w.chars ∧ trimEnd w.chars = w.chars := by
  have hquoted : ∀ cs : List Char, trimStart ('"' :: cs ++ ['"']) = '"' :: cs ++ ['"'] ∧
      trimEnd ('"' :: cs ++ ['"']) = '"' :: cs ++ ['"'] :=
    fun cs => ⟨rfl, dropEndWhile_append_cons _ _ rfl⟩
  cases w with
  | quoted text => exact hquoted _
  | verbatim text => exact hquoted _
  | token text => exact ⟨h.trimStart, h.trimEnd⟩

theorem named_key (p : Spelled) (text : String) :
    named (p.key ++ p.before) text.toList =
      [(String.ofList (p.key.map Char.toLower), text)] := by
  have hstart : trimStart (p.key ++ p.before) = p.key ++ p.before := by
    cases hkey : p.key with
    | nil => exact absurd hkey p.key_ne
    | cons c cs =>
      have hc : isBlank c = false := isBlank_of_trimStart (hkey ▸ p.trimStart_key)
      exact List.dropWhile_cons_of_neg (by simp [hc])
  have htrim : trim (p.key ++ p.before) = p.key := by
    rw [trim, hstart]
    exact (dropEndWhile_append_of_forall p.key p.isBlank_before).trans p.trimEnd_key
  rw [named, htrim]
  split
  · rename_i hnil
    exact absurd (List.map_eq_nil_iff.mp hnil) p.key_ne
  · rw [String.ofList_toList]

/-- The key of a parameter is read up to the equals sign, and a value follows. -/
theorem pairs_key (p : Spelled) {tail left : List Char}
    (h : Param.value (trimStart tail) = (p.value.text.toList, left)) :
    pairs (p.key ++ p.before ++ '=' :: tail) = p.pair :: pairs left := by
  have hnamed := named_key p p.value.text
  have hall : (p.key ++ p.before).all isKeyChar = true := by
    refine List.all_eq_true.mpr fun c hc => ?_
    rcases List.mem_append.mp hc with hc | hc
    · exact p.isKeyChar_key c hc
    · exact isKeyChar_of_isBlank (p.isBlank_before c hc)
  cases hkey : p.key with
  | nil => exact absurd hkey p.key_ne
  | cons first more =>
    have hblank : isBlank first = false := isBlank_of_trimStart (hkey ▸ p.trimStart_key)
    have hchar := p.isKeyChar_key first (hkey ▸ List.mem_cons_self ..)
    have hfirst : isSeparator first = false := by
      simp only [isKeyChar, Bool.and_eq_true, bne_iff_ne] at hchar
      simp [isSeparator, hblank, hchar.2]
    rw [hkey, List.cons_append] at hall hnamed
    rw [List.cons_append, pairs_of_key hfirst hall, h, hnamed, Spelled.pair, hkey]
    rfl

/-- A value in front of a comma or at the end, with blanks around it. -/
theorem value_padded {w : Written} (h : w.Readable) {front pad rest : List Char}
    (hfront : ∀ c ∈ front, isBlank c = true) (hpad : ∀ c ∈ pad, isBlank c = true)
    (hrest : EndsToken rest) :
    ∃ left, value (trimStart (front ++ (w.chars ++ pad ++ rest))) = (w.text.toList, left) ∧
      pairs left = pairs rest := by
  have hseparators : ∀ c ∈ pad, isSeparator c = true := fun c hc => by simp [isSeparator, hpad c hc]
  have hskip : ∀ cs, trimStart (front ++ cs) = trimStart cs :=
    fun cs => List.dropWhile_append_of_pos hfront
  rw [hskip]
  cases w with
  | quoted text =>
    refine ⟨pad ++ rest, ?_, pairs_separators hseparators rest⟩
    have hvalue := value_quoted text.toList (pad ++ rest)
    rw [Written.chars, List.append_assoc, List.append_assoc]
    exact hvalue
  | verbatim text =>
    refine ⟨pad ++ rest, ?_, pairs_separators hseparators rest⟩
    have hvalue := value_verbatim h (pad ++ rest)
    rw [Written.chars, List.append_assoc, List.append_assoc]
    exact hvalue
  | token text =>
    refine ⟨rest, ?_, rfl⟩
    rw [Written.chars]
    cases htext : text.toList with
    | nil =>
      -- Nothing stands between the equals sign and the comma: the blanks are all in front.
      have hends : trimStart (pad ++ rest) = rest := by
        rw [trimStart, List.dropWhile_append_of_pos hpad]
        rcases hrest with rfl | ⟨tail, rfl⟩ <;> rfl
      have hvalue : value ([] ++ [] ++ rest) = ([], rest) :=
        value_token (by simp) (by simp) rfl (by simp) hrest
      rw [List.nil_append, hends, Written.text, htext]
      exact hvalue
    | cons c cs =>
      have hblank : isBlank c = false := isBlank_of_trimStart (htext ▸ h.trimStart)
      have hvalue := value_token h.start h.comma h.trimEnd hpad hrest
      have hstart : trimStart (c :: cs ++ pad ++ rest) = c :: cs ++ pad ++ rest :=
        List.dropWhile_cons_of_neg (by simp [hblank])
      rw [htext] at hvalue
      rw [hstart, Written.text, htext]
      exact hvalue

/-- A parameter in front of a separator. -/
theorem pairs_spelled (p : Spelled) (s : Separator) (rest : List Char) :
    pairs (p.chars ++ (s.chars ++ rest)) = p.pair :: pairs rest := by
  obtain ⟨pad, more, hs, hpad⟩ := List.eq_append_cons_of_mem s.comma_mem
  have hblank : ∀ c ∈ pad, isBlank c = true := by
    intro c hc
    have hsep := s.isSeparator_chars c (hs ▸ List.mem_append_left _ hc)
    have hcomma : c ≠ ',' := fun heq => hpad (heq ▸ hc)
    simpa [isSeparator, hcomma] using hsep
  have hrest : EndsToken (',' :: (more ++ rest)) := Or.inr ⟨_, rfl⟩
  obtain ⟨left, hvalue, hleft⟩ := value_padded p.readable p.isBlank_after hblank hrest
  have hmore : ∀ c ∈ ',' :: more, isSeparator c = true := fun c hc =>
    s.isSeparator_chars c (hs ▸ List.mem_append_right _ hc)
  have hchars : p.chars ++ (s.chars ++ rest) =
      p.key ++ p.before ++
        '=' :: (p.after ++ (p.value.chars ++ pad ++ ',' :: (more ++ rest))) := by
    simp [Spelled.chars, hs]
  rw [hchars, pairs_key p hvalue, hleft]
  exact congrArg _ (pairs_separators hmore rest)

/-- A parameter at the end, where a blank value may have lost the blanks in front of it. -/
theorem pairs_spelled_last (p : Spelled) : pairs (trimEnd p.chars) = [p.pair] := by
  obtain ⟨hstart, hend⟩ := trim_chars p.readable
  have htail := trimStart_trimEnd_append p.isBlank_after hstart hend
  have hchars : trimEnd p.chars =
      p.key ++ p.before ++ '=' :: trimEnd (p.after ++ p.value.chars) :=
    dropEndWhile_append_cons _ _ rfl
  have hnothing : EndsToken [] := Or.inl rfl
  have hvalue := value_chars p.readable hnothing
  rw [List.append_nil, hstart, ← htail] at hvalue
  rw [hchars, pairs_key p hvalue, pairs_nil]

/-! ## Lists of parameters -/

/-- Parameters one after the other, each after the first behind a separator. -/
def body (first : Spelled) (others : List (Separator × Spelled)) : List Char :=
  first.chars ++ others.flatMap fun other => other.1.chars ++ other.2.chars

theorem body_cons (first : Spelled) (s : Separator) (p : Spelled)
    (others : List (Separator × Spelled)) :
    body first ((s, p) :: others) = first.chars ++ (s.chars ++ body p others) := by
  simp [body]

/-- What is cut at the end of a list is behind its first equals sign. -/
theorem trimEnd_append_body (front : List Char) (first : Spelled)
    (others : List (Separator × Spelled)) :
    trimEnd (front ++ body first others) = front ++ trimEnd (body first others) := by
  obtain ⟨init, tail, hbody⟩ : ∃ init tail, body first others = init ++ '=' :: tail :=
    ⟨_, _, List.append_assoc _ _ _⟩
  rw [hbody, trimEnd, trimEnd, ← List.append_assoc, dropEndWhile_append_cons _ _ rfl,
    dropEndWhile_append_cons _ _ rfl, List.append_assoc]

/-- A list is read as its parameters, in their order. -/
theorem pairs_body (first : Spelled) (others : List (Separator × Spelled)) :
    pairs (trimEnd (body first others)) = first.pair :: others.map (·.2.pair) := by
  induction others generalizing first with
  | nil =>
    rw [body, List.flatMap_nil, List.append_nil, List.map_nil]
    exact pairs_spelled_last first
  | cons other rest ih =>
    obtain ⟨s, p⟩ := other
    rw [body_cons, ← List.append_assoc, trimEnd_append_body, List.append_assoc, pairs_spelled,
      ih p, List.map_cons]

end FormFetch.Auth.Param

namespace FormFetch.Auth.Digest

open FormFetch.Text
open FormFetch.Auth.Param (Spelled Separator texts)

/-! ## Schemes -/

/-- The word `Digest` holds no blanks, whatever the case of its letters. -/
theorem isBlank_of_mem_scheme {scheme : List Char}
    (h : sameIgnoringCase (String.ofList scheme) "digest" = true) :
    ∀ c ∈ scheme, isBlank c = false := by
  have hlower : scheme.map Char.toLower = "digest".toList := by
    rw [sameIgnoringCase, String.toList_ofList, beq_iff_eq] at h
    exact h
  have hletters : ∀ c ∈ "digest".toList, isBlank c = false :=
    fun c hc => by simpa using List.all_eq_true.mp (by decide : "digest".toList.all (!isBlank ·)) c hc
  intro c hc
  have hletter := hletters c.toLower (hlower ▸ List.mem_map_of_mem hc)
  by_cases hblank : isBlank c = true
  · rwa [toLower_of_isBlank hblank] at hletter
  · simpa using hblank

theorem scheme_ne {scheme : List Char}
    (h : sameIgnoringCase (String.ofList scheme) "digest" = true) : scheme ≠ [] := by
  rintro rfl
  exact absurd h (by decide)

/-- Behind the scheme and its blanks the parameters are read. -/
theorem parse?_append {scheme gap rest : List Char}
    (hdigest : sameIgnoringCase (String.ofList scheme) "digest" = true) (hgap_ne : gap ≠ [])
    (hgap : ∀ c ∈ gap, isBlank c = true)
    (hrest : ∀ front, trimEnd (front ++ rest) = front ++ trimEnd rest) :
    Challenge.parse? (String.ofList (scheme ++ gap ++ rest)) =
      Challenge.ofParams? (Param.pairs (trimEnd rest)) := by
  have hscheme := isBlank_of_mem_scheme hdigest
  have htrim : trim (scheme ++ gap ++ rest) = scheme ++ (gap ++ trimEnd rest) := by
    have hstart : trimStart (scheme ++ gap ++ rest) = scheme ++ gap ++ rest := by
      cases hs : scheme with
      | nil => exact absurd hs (scheme_ne hdigest)
      | cons c cs =>
        have hc : isBlank c = false := hscheme c (hs ▸ List.mem_cons_self ..)
        exact List.dropWhile_cons_of_neg (by simp [hc])
    rw [trim, hstart, hrest, List.append_assoc]
  have hword : ∀ c ∈ scheme, (!isBlank c) = true := fun c hc => by simp [hscheme c hc]
  cases gap with
  | nil => exact absurd rfl hgap_ne
  | cons g more =>
    have hg : ∀ more, ∀ c ∈ (g :: more).head?, (!isBlank c) = false := by
      simp [hgap g (List.mem_cons_self ..)]
    have hmore : ∀ c ∈ more, Param.isSeparator c = true := by
      intro c hc
      simp [Param.isSeparator, hgap c (List.mem_cons_of_mem _ hc)]
    have htake : (scheme ++ (g :: more ++ trimEnd rest)).takeWhile (!isBlank ·) = scheme :=
      takeWhile_append_of_head? hword (hg _)
    have hdrop : (scheme ++ (g :: more ++ trimEnd rest)).dropWhile (!isBlank ·) =
        g :: (more ++ trimEnd rest) := dropWhile_append_of_head? hword (hg _)
    rw [Challenge.parse?, String.toList_ofList, htrim, htake, hdrop]
    dsimp only
    rw [if_pos hdigest, Param.pairs_separators hmore]

/-! ## Headers -/

/-- The value of a header with one challenge. -/
structure Header where
  /-- The word `Digest` in any case of its letters. -/
  scheme : List Char
  /-- The blanks behind the scheme. -/
  gap : List Char
  first : Spelled
  others : List (Separator × Spelled)
  isDigest : sameIgnoringCase (String.ofList scheme) "digest" = true
  gap_ne : gap ≠ []
  isBlank_gap : ∀ c ∈ gap, isBlank c = true

namespace Header

/-- The characters of a header. -/
def text (header : Header) : String :=
  String.ofList (header.scheme ++ header.gap ++ Param.body header.first header.others)

/-- The parameters of a header, in their order. -/
def params (header : Header) : List (String × String) :=
  header.first.pair :: header.others.map (·.2.pair)

/-- Of the spelling of a header nothing but its parameters counts. -/
theorem parse?_text (header : Header) :
    Challenge.parse? header.text = Challenge.ofParams? header.params := by
  have hrest := fun front => Param.trimEnd_append_body front header.first header.others
  rw [text, parse?_append header.isDigest header.gap_ne header.isBlank_gap hrest,
    Param.pairs_body, params]

end Header

/-! ## Challenges -/

/-- Parameters that state a challenge: each of its parts stands once, and what has another name
does not count. -/
structure States (c : Challenge) (params : List (String × String)) : Prop where
  realm : texts "realm" params = [c.realm]
  nonce : texts "nonce" params = [c.nonce]
  opaqueValue : texts "opaque" params = c.opaqueValue.toList
  /-- The name of the algorithm in any case of its letters; MD5 needs no name. -/
  algorithm : c.algorithm = .md5 ∧ texts "algorithm" params = [] ∨
    ∃ name, texts "algorithm" params = [name] ∧ sameIgnoringCase name c.algorithm.name = true
  /-- A list of options, one of which is `auth`, or none at all. -/
  qop : c.offersAuth = false ∧ texts "qop" params = [] ∨
    c.offersAuth = true ∧ ∃ options : List (List Char),
      texts "qop" params = [String.ofList ([','].intercalate options)] ∧
      (∀ option ∈ options, ',' ∉ option) ∧
      ∃ option ∈ options, sameIgnoringCase (String.ofList (trim option)) "auth" = true
  stale : ∃ text : Option String, texts "stale" params = text.toList ∧
    text.any (sameIgnoringCase · "true") = c.stale

section States

variable {c : Challenge} {params : List (String × String)}

/-- The name of an algorithm is known in any case of its letters. -/
theorem ofName?_of_sameIgnoringCase {name : String} {a : Algorithm}
    (h : sameIgnoringCase name a.name = true) : Algorithm.ofName? name = some a := by
  have hlower : name.toList.map Char.toLower = a.name.toList.map Char.toLower := by
    rwa [sameIgnoringCase, beq_iff_eq] at h
  have hupper : upper name = upper a.name := by
    have hmap := congrArg (List.map Char.toUpper) hlower
    simp only [List.map_map, Function.comp_def, Char.toUpper_toLower_eq_toUpper] at hmap
    rw [upper, upper, hmap]
  have hname := ofName?_name a
  rw [Algorithm.ofName?] at hname ⊢
  rw [hupper]
  exact hname

/-- A list of options offers `auth` when it is one of them. -/
theorem listsAuth_intercalate {options : List (List Char)} (hcomma : ∀ option ∈ options, ',' ∉ option)
    (h : ∃ option ∈ options, sameIgnoringCase (String.ofList (trim option)) "auth" = true) :
    Challenge.listsAuth (String.ofList ([','].intercalate options)) = true := by
  have hne : options ≠ [] := by
    rintro rfl
    obtain ⟨option, hmem, -⟩ := h
    cases hmem
  rw [Challenge.listsAuth, String.toList_ofList, List.splitOn_intercalate ',' hcomma hne]
  exact List.any_eq_true.mpr h

/-- Parameters are read as the challenge that they state. -/
theorem ofParams?_of_states (h : States c params) : Challenge.ofParams? params = some c := by
  obtain ⟨realm, nonce, opaqueValue, algorithm, offersAuth, stale⟩ := c
  obtain ⟨hrealm, hnonce, hopaque, halgorithm, hqop, text, hstale, rfl⟩ := h
  have hopaque' : opaqueValue.toList.getLast? = opaqueValue := by
    cases opaqueValue <;> rfl
  have hstale' : text.toList.getLast? = text := by
    cases text <;> rfl
  unfold Challenge.ofParams?
  simp only [Param.lookup_eq_getLast?, hrealm, hnonce, hopaque, hstale, hopaque', hstale']
  rcases halgorithm with ⟨rfl, hnone⟩ | ⟨name, hname, hsame⟩
  · rcases hqop with ⟨rfl, hoff⟩ | ⟨rfl, options, hon, hcomma, hmem⟩
    · simp [hnone, hoff]
    · simp [hnone, hon, listsAuth_intercalate hcomma hmem]
  · have hknown := ofName?_of_sameIgnoringCase hsame
    rcases hqop with ⟨rfl, hoff⟩ | ⟨rfl, options, hon, hcomma, hmem⟩
    · simp [hname, hknown, hoff]
    · simp [hname, hknown, hon, listsAuth_intercalate hcomma hmem]

end States

/-- A challenge is read from every header that states it, however it is spelled. -/
theorem parse?_of_states {c : Challenge} {header : Header} (h : States c header.params) :
    Challenge.parse? header.text = some c := by
  rw [Header.parse?_text]
  exact ofParams?_of_states h

/-! ## A header in mixed case -/

/-- A parameter whose key holds no blanks. -/
def spelled (key before after : String) (value : Param.Written) (hne : key.toList ≠ [])
    (hkey : key.toList.all (fun c => Param.isKeyChar c && !isBlank c) = true)
    (hbefore : before.toList.all isBlank = true) (hafter : after.toList.all isBlank = true)
    (hvalue : value.Readable) : Spelled :=
  have hchars : ∀ c ∈ key.toList, Param.isKeyChar c = true ∧ isBlank c = false := by
    simpa using hkey
  { key := key.toList, before := before.toList, after := after.toList, value
    key_ne := hne
    isKeyChar_key := fun c hc => (hchars c hc).1
    trimStart_key := dropWhile_of_forall_not fun c hc => (hchars c hc).2
    trimEnd_key := dropEndWhile_of_forall_not fun c hc => (hchars c hc).2
    isBlank_before := List.all_eq_true.mp hbefore
    isBlank_after := List.all_eq_true.mp hafter
    readable := hvalue }

/-- A comma with a blank behind it. -/
def comma : Separator where
  chars := [',', ' ']
  isSeparator_chars := List.all_eq_true.mp (by decide)
  comma_mem := List.mem_cons_self

/-- Commas with blanks in front of and between them. -/
def commas : Separator where
  chars := [' ', ',', '\t', ',']
  isSeparator_chars := List.all_eq_true.mp (by decide)
  comma_mem := List.mem_cons_of_mem _ (List.mem_cons_self ..)

/-- A demand with marks in its texts. -/
def markedDemand : Challenge where
  realm := "x, y=z"
  nonce := "a\"b\\c"
  opaqueValue := some ""
  algorithm := .sha256Session
  offersAuth := true
  stale := true

/-- The demand with every liberty that a server has. -/
def markedHeader : Header where
  scheme := "dIGEST".toList
  gap := " \t".toList
  first := spelled "NONCE" " " " " (.quoted "a\"b\\c") (by decide) (by decide) (by decide)
    (by decide) trivial
  others := [
    (commas, spelled "charset" "" "" (.token "UTF-8; v=\"1\"") (by decide) (by decide) (by decide)
      (by decide) ⟨by decide, by simp, by decide, by decide⟩),
    (comma, spelled "realm" "" "\n" (.quoted "x, y=z") (by decide) (by decide) (by decide)
      (by decide) trivial),
    (comma, spelled "Qop" "" "" (.quoted "auth-int , AUTH") (by decide) (by decide) (by decide)
      (by decide) trivial),
    (comma, spelled "algorithm" " " "" (.token "sha-256-SESS") (by decide) (by decide) (by decide)
      (by decide) ⟨by decide, by simp, by decide, by decide⟩),
    (commas, spelled "stale" "" "" (.token "TRUE") (by decide) (by decide) (by decide)
      (by decide) ⟨by decide, by simp, by decide, by decide⟩),
    (comma, spelled "opaque" "" " " (.token "") (by decide) (by decide) (by decide)
      (by decide) ⟨by decide, by simp, by decide, by decide⟩)]
  isDigest := by decide
  gap_ne := by decide
  isBlank_gap := List.all_eq_true.mp (by decide)

theorem parse?_markedHeader :
    States markedDemand markedHeader.params ∧
      markedHeader.text = "dIGEST \tNONCE = \"a\\\"b\\\\c\" ,\t,charset=UTF-8; v=\"1\", " ++
        "realm=\n\"x, y=z\", Qop=\"auth-int , AUTH\", algorithm =sha-256-SESS ,\t,stale=TRUE, " ++
        "opaque= " ∧
      Challenge.parse? markedHeader.text = some markedDemand := by
  have hstates : States markedDemand markedHeader.params := by
    refine ⟨by decide, by decide, by decide, Or.inr ⟨"sha-256-SESS", by decide, by decide⟩,
      Or.inr ⟨rfl, ["auth-int ".toList, " AUTH".toList], by decide, by simp, " AUTH".toList,
        by simp, by decide⟩, some "TRUE", by decide, by decide⟩
  exact ⟨hstates, by decide +kernel, parse?_of_states hstates⟩

end FormFetch.Auth.Digest
