import Mathlib.Data.List.Nodup
import FormFetch.Auth.Param
import FormFetch.Proofs.Text.Trim

/-!
# Parameters that are written are read back

What `Param.pairs` makes of one parameter in front of others, and of a list that
`Param.writeAll` has written.

* `pairs_of_key` is the step of the reader: a key, a value and the rest.
* `value_quoted`, `value_verbatim` and `value_token` are the three kinds of values.
* `lookup_eq_getLast?` and `lookup_eq_some_iff` say what a look-up finds.
* `pairs_writeAll` is the result for whole lists.
-/

namespace FormFetch.Auth.Param

open FormFetch.Text

/-! ## Keys -/

/-- One step of the reader, as a plain match. -/
theorem pairs_eq (input : List Char) :
    pairs input =
      match (input.dropWhile isSeparator).dropWhile isKeyChar with
      | '=' :: tail =>
        named ((input.dropWhile isSeparator).takeWhile isKeyChar) (value (trimStart tail)).1 ++
          pairs (value (trimStart tail)).2
      | _ :: rest => pairs rest
      | [] => [] := by
  rw [pairs.eq_def]
  dsimp only
  split
  · rename_i heq
    simp only [heq]
  · rename_i hne heq
    rw [heq]
    split
    · rename_i hcons
      exact absurd (List.cons.inj hcons).1 hne
    · rename_i hcons
      rw [(List.cons.inj hcons).2]
    · rename_i hcons
      cases hcons
  · rename_i heq
    rw [heq]

theorem pairs_nil : pairs [] = [] := by
  rw [pairs_eq]
  rfl

/-- Separators in front of a list are skipped. -/
theorem pairs_separators {separators : List Char} (h : ∀ c ∈ separators, isSeparator c = true)
    (cs : List Char) : pairs (separators ++ cs) = pairs cs := by
  rw [pairs_eq (separators ++ cs), List.dropWhile_append_of_pos h, ← pairs_eq cs]

/-- A key with its value in front of the rest. -/
theorem pairs_of_key {first : Char} {key tail : List Char} (hfirst : isSeparator first = false)
    (hkey : (first :: key).all isKeyChar = true) :
    pairs (first :: key ++ '=' :: tail) =
      named (first :: key) (value (trimStart tail)).1 ++ pairs (value (trimStart tail)).2 := by
  have hstart : (first :: key ++ '=' :: tail).dropWhile isSeparator =
      first :: key ++ '=' :: tail := by
    rw [List.cons_append, List.dropWhile_cons_of_neg (by simp [hfirst])]
  have hmem : ∀ c ∈ first :: key, isKeyChar c = true := List.all_eq_true.mp hkey
  have hequals : ∀ c ∈ ('=' :: tail).head?, isKeyChar c = false := by
    simp [isKeyChar]
  have hdrop : (first :: key ++ '=' :: tail).dropWhile isKeyChar = '=' :: tail :=
    dropWhile_append_of_head? hmem hequals
  have htake : (first :: key ++ '=' :: tail).takeWhile isKeyChar = first :: key :=
    takeWhile_append_of_head? hmem hequals
  rw [pairs_eq, hstart, hdrop, htake]
  rfl

/-! ## Values -/

/-- A quoted text is read up to its closing quote, with the backslashes taken back. -/
theorem quoted_escape (text rest : List Char) :
    quoted (escape text ++ '"' :: rest) = (text, rest) := by
  induction text with
  | nil => rfl
  | cons c cs ih =>
    by_cases hc : c = '"' ∨ c = '\\'
    · have hescape : escape (c :: cs) = '\\' :: c :: escape cs := by
        simp [escape, hc]
      rw [hescape, List.cons_append, List.cons_append, quoted, ih]
    · have hescape : escape (c :: cs) = c :: escape cs := by
        simp [escape, hc]
      rw [hescape, List.cons_append, quoted, ih]
      · exact fun h => hc (Or.inl h)
      · exact fun _ _ h => absurd h (fun h => hc (Or.inr h))
      · exact fun h => absurd h (fun h => hc (Or.inr h))

/-- A text without quotes and backslashes is its own escape. -/
theorem escape_of_plain {text : List Char} (h : ∀ c ∈ text, c ≠ '"' ∧ c ≠ '\\') :
    escape text = text := by
  induction text with
  | nil => rfl
  | cons c cs ih =>
    have hc := h c (List.mem_cons_self ..)
    have hcs := ih fun d hd => h d (List.mem_cons_of_mem _ hd)
    rw [escape] at hcs
    rw [escape, List.flatMap_cons, if_neg (by simp [hc]), hcs]
    rfl

theorem value_quoted (text rest : List Char) :
    value ('"' :: escape text ++ '"' :: rest) = (text, rest) := by
  rw [List.cons_append, value]
  exact quoted_escape text rest

theorem value_verbatim {text : List Char} (h : ∀ c ∈ text, c ≠ '"' ∧ c ≠ '\\')
    (rest : List Char) : value ('"' :: text ++ '"' :: rest) = (text, rest) := by
  have hvalue := value_quoted text rest
  rwa [escape_of_plain h] at hvalue

/-- What may follow a bare value: nothing, or a comma. -/
def EndsToken (rest : List Char) : Prop :=
  rest = [] ∨ ∃ tail, rest = ',' :: tail

/-- A bare value reaches to the next comma, but for the blanks in front of it. -/
theorem value_token {text pad rest : List Char} (hquote : text.head? ≠ some '"')
    (hcomma : ∀ c ∈ text, c ≠ ',') (htrim : trimEnd text = text)
    (hpad : ∀ c ∈ pad, isBlank c = true) (hrest : EndsToken rest) :
    value (text ++ pad ++ rest) = (text, rest) := by
  have hblank : ∀ c, isBlank c = true → c ≠ ',' ∧ c ≠ '"' := by
    rintro c hc
    constructor <;> rintro rfl <;> cases hc
  have hmem : ∀ c ∈ text ++ pad, (c != ',') = true := by
    intro c hc
    rcases List.mem_append.mp hc with hc | hc
    · simpa using hcomma c hc
    · simpa using (hblank c (hpad c hc)).1
  have hnot : ∀ more, text ++ pad ++ rest ≠ '"' :: more := by
    intro more heq
    rcases text with _ | ⟨c, cs⟩
    · rcases pad with _ | ⟨c, cs⟩
      · rcases hrest with rfl | ⟨tail, rfl⟩
        · cases heq
        · exact absurd (List.cons.inj heq).1 (by decide)
      · exact (hblank c (hpad c (List.mem_cons_self ..))).2 (List.cons.inj heq).1
    · exact hquote (by rw [(List.cons.inj heq).1]; rfl)
  have hcommas : ∀ c ∈ rest.head?, (c != ',') = false := by
    rcases hrest with rfl | ⟨tail, rfl⟩ <;> simp
  have htake : (text ++ pad ++ rest).takeWhile (· != ',') = text ++ pad :=
    takeWhile_append_of_head? hmem hcommas
  have hdrop : (text ++ pad ++ rest).dropWhile (· != ',') = rest :=
    dropWhile_append_of_head? hmem hcommas
  have hend : trimEnd (text ++ pad) = text := (dropEndWhile_append_of_forall text hpad).trans htrim
  rw [value, htake, hdrop, hend]
  exact hnot

/-! ## Look-ups -/

/-- The values of a name, in the order of the list. -/
def texts (name : String) (params : List (String × String)) : List String :=
  (params.filter (·.1 == name)).map (·.2)

/-- Of several values of a name the last one counts. -/
theorem lookup_eq_getLast? (name : String) (params : List (String × String)) :
    lookup name params = (texts name params).getLast? := by
  rw [lookup, texts, List.getLast?_map, ← List.head?_reverse, ← List.filter_reverse,
    List.head?_filter]

/-- Where no name comes twice, a look-up finds what stands in the list. -/
theorem lookup_eq_some_iff {params : List (String × String)} (h : (params.map (·.1)).Nodup)
    {name text : String} : lookup name params = some text ↔ (name, text) ∈ params := by
  rw [lookup, Option.map_eq_some_iff]
  constructor
  · rintro ⟨p, hp, rfl⟩
    have hname : p.1 = name := by simpa using List.find?_some hp
    have hmem : p ∈ params := List.mem_reverse.mp (List.mem_of_find?_eq_some hp)
    exact hname ▸ hmem
  · intro hmem
    cases hp : params.reverse.find? (·.1 == name) with
    | none =>
      have hnone := List.find?_eq_none.mp hp (name, text) (List.mem_reverse.mpr hmem)
      simp at hnone
    | some p =>
      have hname : p.1 = name := by simpa using List.find?_some hp
      have hp' : p ∈ params := List.mem_reverse.mp (List.mem_of_find?_eq_some hp)
      have hsame := List.inj_on_of_nodup_map h hp' hmem hname
      exact ⟨p, rfl, by rw [hsame]⟩

/-! ## Lists -/

/-- The text of a written value. -/
def Written.text : Written → String
  | .quoted text | .verbatim text | .token text => text

/-- A character of a name that is read as it is written. -/
def isNameChar (c : Char) : Bool :=
  !isSeparator c && isKeyChar c && c.toLower == c

/-- A bare value that is read as it is written. -/
structure BareText (text : List Char) : Prop where
  start : text.head? ≠ some '"'
  comma : ∀ c ∈ text, c ≠ ','
  trimStart : Text.trimStart text = text
  trimEnd : Text.trimEnd text = text

theorem bareText_of_forall {text : List Char}
    (h : ∀ c ∈ text, c ≠ '"' ∧ c ≠ ',' ∧ isBlank c = false) : BareText text where
  start := fun hhead => (h '"' (List.mem_of_mem_head? hhead)).1 rfl
  comma := fun c hc => (h c hc).2.1
  trimStart := dropWhile_of_forall_not fun c hc => (h c hc).2.2
  trimEnd := dropEndWhile_of_forall_not fun c hc => (h c hc).2.2

/-- A value that is read as it is written. -/
def Written.Readable : Written → Prop
  | .quoted _ => True
  | .verbatim text => ∀ c ∈ text.toList, c ≠ '"' ∧ c ≠ '\\'
  | .token text => BareText text.toList

/-- A parameter that is read as it is written. -/
structure Readable (param : String × Written) : Prop where
  name_ne : param.1 ≠ ""
  name : param.1.toList.all isNameChar = true
  value : param.2.Readable

theorem value_chars {w : Written} (h : w.Readable) {rest : List Char} (hrest : EndsToken rest) :
    value (trimStart (w.chars ++ rest)) = (w.text.toList, rest) := by
  have hquote : ∀ more, trimStart ('"' :: more) = '"' :: more := fun more => rfl
  cases w with
  | quoted text =>
    rw [Written.chars, List.append_assoc, List.cons_append, hquote]
    exact value_quoted text.toList rest
  | verbatim text =>
    rw [Written.chars, List.append_assoc, List.cons_append, hquote]
    exact value_verbatim h rest
  | token text =>
    have hstart : trimStart (text.toList ++ rest) = text.toList ++ rest := by
      cases ht : text.toList with
      | nil =>
        rcases hrest with rfl | ⟨tail, rfl⟩
        · rfl
        · rfl
      | cons c cs =>
        have hblank : isBlank c = false := isBlank_of_trimStart (ht ▸ h.trimStart)
        rw [List.cons_append, trimStart, List.dropWhile_cons_of_neg (by simp [hblank])]
    have hvalue : value (text.toList ++ [] ++ rest) = (text.toList, rest) :=
      value_token h.start h.comma h.trimEnd (by simp) hrest
    rw [Written.chars, hstart]
    rwa [List.append_nil] at hvalue

theorem named_of_name {name : String} (hne : name ≠ "") (h : name.toList.all isNameChar = true)
    (text : String) : named name.toList text.toList = [(name, text)] := by
  have hmem : ∀ c ∈ name.toList, isBlank c = false ∧ c.toLower = c := by
    intro c hc
    have := List.all_eq_true.mp h c hc
    simp only [isNameChar, isSeparator, Bool.and_eq_true, Bool.not_eq_true', Bool.or_eq_false_iff,
      beq_iff_eq] at this
    exact ⟨this.1.1.1, this.2⟩
  have htrim : trim name.toList = name.toList := trim_of_forall_not fun c hc => (hmem c hc).1
  have hlower : name.toList.map Char.toLower = name.toList := by
    rw [List.map_congr_left fun c hc => (hmem c hc).2, List.map_id']
  have hnil : name.toList ≠ [] := fun hn => hne (String.toList_eq_nil_iff.mp hn)
  rw [named, htrim, hlower]
  split
  · rename_i heq
    exact absurd heq hnil
  · rw [String.ofList_toList, String.ofList_toList]

/-- A parameter in front of a comma or at the end. -/
theorem pairs_write {param : String × Written} (h : Readable param) {rest : List Char}
    (hrest : EndsToken rest) :
    pairs (write param ++ rest) = (param.1, param.2.text) :: pairs rest := by
  have hnamed := named_of_name h.name_ne h.name param.2.text
  have hname := h.name
  cases hn : param.1.toList with
  | nil => exact absurd (String.toList_eq_nil_iff.mp hn) h.name_ne
  | cons first key =>
    rw [hn] at hnamed hname
    have hkey : (first :: key).all isKeyChar = true := by
      refine List.all_eq_true.mpr fun c hc => ?_
      have := List.all_eq_true.mp hname c hc
      simp only [isNameChar, Bool.and_eq_true] at this
      exact this.1.2
    have hfirst : isSeparator first = false := by
      have := List.all_eq_true.mp hname first (List.mem_cons_self ..)
      simp only [isNameChar, Bool.and_eq_true, Bool.not_eq_true'] at this
      exact this.1.1
    have hwrite : write param ++ rest = first :: key ++ '=' :: (param.2.chars ++ rest) := by
      rw [write, hn, List.append_assoc]
      rfl
    rw [hwrite, pairs_of_key hfirst hkey, value_chars h.value hrest, hnamed]
    rfl

theorem writeAll_singleton (p : String × Written) : writeAll [p] = write p := by
  simp [writeAll, List.intercalate]

theorem writeAll_cons_cons (p q : String × Written) (rest : List (String × Written)) :
    writeAll (p :: q :: rest) = write p ++ ',' :: ' ' :: writeAll (q :: rest) := by
  simp [writeAll, List.intercalate]

section Characters

variable {P : Char → Prop}

theorem forall_mem_escape (hmark : P '\\') {text : List Char} (h : ∀ c ∈ text, P c) :
    ∀ c ∈ escape text, P c := by
  intro c hc
  obtain ⟨d, hd, hc⟩ := List.mem_flatMap.mp hc
  split at hc
  · rcases List.mem_cons.mp hc with rfl | hc
    · exact hmark
    · exact List.mem_singleton.mp hc ▸ h d hd
  · exact List.mem_singleton.mp hc ▸ h d hd

theorem forall_mem_chars (hmark : ∀ c ∈ ['"', '\\'], P c) {w : Written}
    (h : ∀ c ∈ w.text.toList, P c) : ∀ c ∈ w.chars, P c := by
  have hquote : P '"' := hmark _ (by simp)
  intro c hc
  cases w with
  | quoted text =>
    simp only [Written.chars, List.cons_append, List.mem_cons, List.mem_append,
      List.not_mem_nil, or_false] at hc
    rcases hc with rfl | hc | rfl
    · exact hquote
    · exact forall_mem_escape (hmark _ (by simp)) h c hc
    · exact hquote
  | verbatim text =>
    simp only [Written.chars, List.cons_append, List.mem_cons, List.mem_append,
      List.not_mem_nil, or_false] at hc
    rcases hc with rfl | hc | rfl
    · exact hquote
    · exact h c hc
    · exact hquote
  | token text => exact h c hc

/-- The characters of a written list are those of its names and texts, and marks. -/
theorem forall_mem_writeAll (hmark : ∀ c ∈ ['"', '\\', '=', ',', ' '], P c)
    {params : List (String × Written)} (hname : ∀ p ∈ params, ∀ c ∈ p.1.toList, P c)
    (htext : ∀ p ∈ params, ∀ c ∈ p.2.text.toList, P c) : ∀ c ∈ writeAll params, P c := by
  have hwrite : ∀ p ∈ params, ∀ c ∈ write p, P c := by
    intro p hp c hc
    rw [write, List.mem_append, List.mem_cons] at hc
    rcases hc with hc | rfl | hc
    · exact hname p hp c hc
    · exact hmark _ (by simp)
    · exact forall_mem_chars (fun d hd => hmark d (List.mem_append_left _ hd)) (htext p hp) c hc
  clear hname htext
  induction params with
  | nil =>
    intro c hc
    cases hc
  | cons p rest ih =>
    have hp := hwrite p (List.mem_cons_self ..)
    have hrest := ih fun q hq => hwrite q (List.mem_cons_of_mem _ hq)
    intro c hc
    cases rest with
    | nil =>
      rw [writeAll_singleton] at hc
      exact hp c hc
    | cons q more =>
      rw [writeAll_cons_cons, List.mem_append, List.mem_cons, List.mem_cons] at hc
      rcases hc with hc | rfl | rfl | hc
      · exact hp c hc
      · exact hmark _ (by simp)
      · exact hmark _ (by simp)
      · exact hrest c hc

end Characters

/-- Parameters that are written as a list are read as the same list. -/
theorem pairs_writeAll {params : List (String × Written)} (h : ∀ p ∈ params, Readable p) :
    pairs (writeAll params) = params.map fun p => (p.1, p.2.text) := by
  induction params with
  | nil => exact pairs_nil
  | cons p rest ih =>
    have hp := h p (List.mem_cons_self ..)
    have hrest := ih fun q hq => h q (List.mem_cons_of_mem _ hq)
    cases rest with
    | nil =>
      have hwrite := pairs_write hp (Or.inl rfl)
      rw [List.append_nil, pairs_nil] at hwrite
      rw [writeAll_singleton, hwrite]
      rfl
    | cons q more =>
      have hskip : pairs ([',', ' '] ++ writeAll (q :: more)) = pairs (writeAll (q :: more)) :=
        pairs_separators (List.all_eq_true.mp (by decide)) _
      rw [writeAll_cons_cons, pairs_write hp (Or.inr ⟨_, rfl⟩)]
      exact congrArg _ (hskip.trans hrest)

end FormFetch.Auth.Param
