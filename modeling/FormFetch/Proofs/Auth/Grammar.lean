import FormFetch.Proofs.Auth.Param

/-!
# The grammar of credentials

How a strict server reads the value of an `Authorization` field (RFC 7235): a scheme
and parameters, each a name and a token or a quoted text, with nothing else between
them than commas and spaces.

* `credentials?` is the reader; unlike `Param.pairs` it refuses whatever is out of
  place.
* `params?_writeAll` says that it reads what `Param.writeAll` writes.
-/

namespace FormFetch.Auth.Grammar

open FormFetch.Auth.Param (Written writeAll write)

/-! ## The reader -/

/-- A character of a token. -/
def isTokenChar (c : Char) : Bool :=
  c.isAlphanum || "!#$%&'*+-.^_`|~".toList.contains c

/-- A character between quotes: no control but the tab. -/
def isTextChar (c : Char) : Bool :=
  c == '\t' || (0x20 ≤ c.toNat && c.toNat != 0x7F)

/-- A space or a tab. -/
def isSpace (c : Char) : Bool :=
  c == ' ' || c == '\t'

/-- A space, a tab or a comma. -/
def isGap (c : Char) : Bool :=
  isSpace c || c == ','

/-- A text up to its closing quote, and what follows the quote. -/
def quoted? : List Char → Option (List Char × List Char)
  | [] => none
  | '"' :: rest => some ([], rest)
  | '\\' :: c :: rest =>
    if isTextChar c then (quoted? rest).map fun found => (c :: found.1, found.2) else none
  | ['\\'] => none
  | c :: rest =>
    if isTextChar c then (quoted? rest).map fun found => (c :: found.1, found.2) else none

/-- A token, and what follows it. -/
def token? (input : List Char) : Option (List Char × List Char) :=
  match input.takeWhile isTokenChar with
  | [] => none
  | text => some (text, input.dropWhile isTokenChar)

/-- A token or a quoted text, and what follows it. -/
def value? : List Char → Option (List Char × List Char)
  | '"' :: rest => quoted? rest
  | input => token? input

/-- A parameter, its name in lower case, and what follows it. -/
def param? (input : List Char) : Option ((String × String) × List Char) :=
  match token? input with
  | none => none
  | some (name, rest) =>
    match rest.dropWhile isSpace with
    | '=' :: tail =>
      (value? (tail.dropWhile isSpace)).map fun found =>
        ((String.ofList (name.map Char.toLower), String.ofList found.1), found.2)
    | _ => none

theorem length_quoted?_le {input text rest : List Char} (h : quoted? input = some (text, rest)) :
    rest.length ≤ input.length := by
  induction input using quoted?.induct generalizing text rest with
  | case1 => cases h
  | case2 tail =>
    rw [quoted?] at h
    simp only [Option.some.injEq, Prod.mk.injEq] at h
    rw [← h.2]
    simp
  | case3 c tail hc ih =>
    rw [quoted?, if_pos hc] at h
    obtain ⟨⟨t, r⟩, hq, heq⟩ := Option.map_eq_some_iff.mp h
    obtain ⟨-, rfl⟩ := Prod.mk.inj heq
    have := ih hq
    simp only [List.length_cons]
    omega
  | case4 c tail hc =>
    rw [quoted?, if_neg hc] at h
    cases h
  | case5 => cases h
  | case6 c tail h1 h2 h3 hc ih =>
    rw [quoted?, if_pos hc] at h
    · obtain ⟨⟨t, r⟩, hq, heq⟩ := Option.map_eq_some_iff.mp h
      obtain ⟨-, rfl⟩ := Prod.mk.inj heq
      have := ih hq
      simp only [List.length_cons]
      omega
    · exact h1
    · exact h2
    · exact h3
  | case7 c tail h1 h2 h3 hc =>
    rw [quoted?, if_neg hc] at h
    · cases h
    · exact h1
    · exact h2
    · exact h3

theorem length_token?_lt {input text rest : List Char} (h : token? input = some (text, rest)) :
    rest.length < input.length := by
  unfold token? at h
  split at h
  · cases h
  · rename_i hne
    simp only [Option.some.injEq, Prod.mk.injEq] at h
    have hlen := congrArg List.length
      (List.takeWhile_append_dropWhile (p := isTokenChar) (l := input))
    have hpos := List.length_pos_iff.mpr hne
    rw [List.length_append] at hlen
    rw [← h.2]
    omega

theorem length_value?_le {input text rest : List Char} (h : value? input = some (text, rest)) :
    rest.length ≤ input.length := by
  unfold value? at h
  split at h
  · have := length_quoted?_le h
    simp only [List.length_cons]
    omega
  · exact Nat.le_of_lt (length_token?_lt h)

theorem length_param?_lt {input rest : List Char} {p : String × String}
    (h : param? input = some (p, rest)) : rest.length < input.length := by
  unfold param? at h
  split at h
  · cases h
  · rename_i name after htoken
    have h1 := length_token?_lt htoken
    split at h
    · rename_i tail heq
      obtain ⟨⟨t, r⟩, hvalue, hpair⟩ := Option.map_eq_some_iff.mp h
      obtain ⟨-, rfl⟩ := Prod.mk.inj hpair
      have h2 := length_value?_le hvalue
      have h3 := Param.length_dropWhile_le isSpace tail
      have h4 := Param.length_dropWhile_le isSpace after
      rw [heq, List.length_cons] at h4
      simp only at h2 ⊢
      omega
    · cases h

/-- The parameters of a list.  Commas separate them; spaces around the commas and empty places do
not count. -/
def params? (input : List Char) : Option (List (String × String)) :=
  match _hstart : input.dropWhile isGap with
  | [] => some []
  | first :: more =>
    match _hparam : param? (first :: more) with
    | none => none
    | some (p, rest) =>
      match _hrest : rest.dropWhile isSpace with
      | [] => some [p]
      | ',' :: tail => (params? tail).map (p :: ·)
      | _ => none
  termination_by input.length
  decreasing_by
    have h1 := Param.length_dropWhile_le isGap input
    have h2 := length_param?_lt _hparam
    have h3 := Param.length_dropWhile_le isSpace rest
    rw [_hstart] at h1
    rw [_hrest, List.length_cons] at h3
    omega

/-- The scheme and the parameters of a field value. -/
def credentials? (text : String) : Option (String × List (String × String)) :=
  match token? text.toList with
  | some (scheme, ' ' :: rest) => (params? rest).map fun found => (String.ofList scheme, found)
  | _ => none

/-! ## What is written is read -/

/-- A value that a strict server reads as it is written. -/
def Wellformed : Written → Prop
  | .quoted text => ∀ c ∈ text.toList, isTextChar c = true
  | .verbatim text => ∀ c ∈ text.toList, isTextChar c = true ∧ c ≠ '"' ∧ c ≠ '\\'
  | .token text => text ≠ "" ∧ ∀ c ∈ text.toList, isTokenChar c = true

/-- A name that a strict server reads as it is written. -/
def IsName (name : String) : Prop :=
  name ≠ "" ∧ ∀ c ∈ name.toList, isTokenChar c = true ∧ c.toLower = c

instance (name : String) : Decidable (IsName name) :=
  decidable_of_iff
    (name ≠ "" ∧ name.toList.all (fun c => isTokenChar c && c.toLower == c) = true) (by
      simp only [IsName, List.all_eq_true, Bool.and_eq_true, beq_iff_eq])

theorem quoted?_escape {text : List Char} (h : ∀ c ∈ text, isTextChar c = true)
    (rest : List Char) : quoted? (Param.escape text ++ '"' :: rest) = some (text, rest) := by
  induction text with
  | nil => rfl
  | cons c cs ih =>
    have hc := h c (List.mem_cons_self ..)
    have hcs := ih fun d hd => h d (List.mem_cons_of_mem _ hd)
    by_cases hspecial : c = '"' ∨ c = '\\'
    · have hescape : Param.escape (c :: cs) = '\\' :: c :: Param.escape cs := by
        simp [Param.escape, hspecial]
      rw [hescape, List.cons_append, List.cons_append, quoted?, if_pos hc, hcs]
      rfl
    · have hescape : Param.escape (c :: cs) = c :: Param.escape cs := by
        simp [Param.escape, hspecial]
      rw [hescape, List.cons_append, quoted?, if_pos hc, hcs]
      · rfl
      · exact fun heq => hspecial (Or.inl heq)
      · exact fun _ _ heq _ => hspecial (Or.inr heq)
      · exact fun heq _ => hspecial (Or.inr heq)

/-- What may follow a token. -/
def EndsToken (rest : List Char) : Prop :=
  rest = [] ∨ ∃ c tail, rest = c :: tail ∧ isTokenChar c = false

theorem token?_append {text rest : List Char} (hne : text ≠ [])
    (h : ∀ c ∈ text, isTokenChar c = true) (hrest : EndsToken rest) :
    token? (text ++ rest) = some (text, rest) := by
  have hstop : ∀ c ∈ rest.head?, isTokenChar c = false := by
    rcases hrest with rfl | ⟨c, tail, rfl, hc⟩
    · simp
    · simpa using hc
  rw [token?, Text.takeWhile_append_of_head? h hstop, Text.dropWhile_append_of_head? h hstop]
  cases text with
  | nil => exact absurd rfl hne
  | cons c cs => rfl

/-- What may follow a parameter: nothing, or a comma. -/
theorem endsToken_of_comma {rest : List Char} (h : Param.EndsToken rest) : EndsToken rest := by
  rcases h with rfl | ⟨tail, rfl⟩
  · exact Or.inl rfl
  · exact Or.inr ⟨',', tail, rfl, by decide⟩

theorem value?_chars {w : Written} (h : Wellformed w) {rest : List Char}
    (hrest : Param.EndsToken rest) :
    value? ((w.chars ++ rest).dropWhile isSpace) = some (w.text.toList, rest) := by
  have hquote : ∀ more : List Char, ('"' :: more).dropWhile isSpace = '"' :: more :=
    fun more => rfl
  cases w with
  | quoted text =>
    rw [Written.chars, List.append_assoc, List.cons_append, hquote, value?]
    exact quoted?_escape h rest
  | verbatim text =>
    have hplain : Param.escape text.toList = text.toList :=
      Param.escape_of_plain fun c hc => (h c hc).2
    rw [Written.chars, List.append_assoc, List.cons_append, hquote, value?, ← hplain]
    exact quoted?_escape (fun c hc => (h c hc).1) rest
  | token text =>
    have hne : text.toList ≠ [] := fun hnil => h.1 (String.toList_eq_nil_iff.mp hnil)
    have hspace : ∀ c, isTokenChar c = true → isSpace c = false ∧ c ≠ '"' := by
      intro c hc
      constructor
      · by_cases hs : isSpace c = true
        · simp only [isSpace, Bool.or_eq_true, beq_iff_eq] at hs
          rcases hs with rfl | rfl
          · exact absurd hc (by decide)
          · exact absurd hc (by decide)
        · simpa using hs
      · rintro rfl
        exact absurd hc (by decide)
    have htoken := token?_append hne h.2 (endsToken_of_comma hrest)
    cases ht : text.toList with
    | nil => exact absurd ht hne
    | cons c cs =>
      obtain ⟨hs, hq⟩ := hspace c (h.2 c (ht ▸ List.mem_cons_self ..))
      rw [Written.chars, ht, List.cons_append, List.dropWhile_cons_of_neg (by simp [hs]), value?]
      · rw [Written.text, ht]
        rw [ht] at htoken
        exact htoken
      · exact fun _ heq => hq (List.cons.inj heq).1

theorem param?_write {p : String × Written} (hname : IsName p.1) (h : Wellformed p.2)
    {rest : List Char} (hrest : Param.EndsToken rest) :
    param? (write p ++ rest) = some ((p.1, p.2.text), rest) := by
  have hne : p.1.toList ≠ [] := fun hnil => hname.1 (String.toList_eq_nil_iff.mp hnil)
  have hwrite : write p ++ rest = p.1.toList ++ '=' :: (p.2.chars ++ rest) := by
    rw [write, List.append_assoc, List.cons_append]
  have htoken : token? (p.1.toList ++ '=' :: (p.2.chars ++ rest)) =
      some (p.1.toList, '=' :: (p.2.chars ++ rest)) :=
    token?_append hne (fun c hc => (hname.2 c hc).1) (Or.inr ⟨_, _, rfl, by decide⟩)
  have hequals : ('=' :: (p.2.chars ++ rest)).dropWhile isSpace = '=' :: (p.2.chars ++ rest) :=
    rfl
  have hlower : p.1.toList.map Char.toLower = p.1.toList := by
    rw [List.map_congr_left fun c hc => (hname.2 c hc).2, List.map_id']
  rw [hwrite, param?, htoken]
  simp only [hequals, value?_chars h hrest, hlower, Option.map_some, String.ofList_toList]

/-- One step of the reader, as a plain match. -/
theorem params?_eq (input : List Char) :
    params? input =
      match input.dropWhile isGap with
      | [] => some []
      | first :: more =>
        match param? (first :: more) with
        | none => none
        | some (p, rest) =>
          match rest.dropWhile isSpace with
          | [] => some [p]
          | ',' :: tail => (params? tail).map (p :: ·)
          | _ => none := by
  rw [params?.eq_def]
  split
  · rename_i heq
    simp only [heq]
  · rename_i first more heq
    simp only [heq]
    split
    · rename_i hparam
      simp only [hparam]
    · rename_i p rest hparam
      simp only [hparam]
      split
      · rename_i hrest
        simp only [hrest]
      · rename_i tail hrest
        simp only [hrest]
      · rename_i hnil hcomma
        split
        · rename_i heq'
          exact absurd heq' hnil
        · rename_i heq'
          exact absurd heq' (fun heq' => hcomma _ heq')
        · rfl

theorem params?_nil : params? [] = some [] := by
  rw [params?_eq]
  rfl

theorem params?_gap {c : Char} (h : isGap c = true) (cs : List Char) :
    params? (c :: cs) = params? cs := by
  rw [params?_eq (c :: cs), List.dropWhile_cons_of_pos h, ← params?_eq cs]

/-- A parameter in front of a comma or at the end. -/
theorem params?_write {p : String × Written} (hname : IsName p.1) (h : Wellformed p.2)
    {rest : List Char} (hrest : Param.EndsToken rest) :
    params? (write p ++ rest) = (params? rest).map ((p.1, p.2.text) :: ·) := by
  have hne : p.1.toList ≠ [] := fun hnil => hname.1 (String.toList_eq_nil_iff.mp hnil)
  have hparam := param?_write hname h hrest
  obtain ⟨first, more, hfirst, htoken⟩ :
      ∃ first more, write p ++ rest = first :: more ∧ isTokenChar first = true := by
    cases hn : p.1.toList with
    | nil => exact absurd hn hne
    | cons first more =>
      refine ⟨first, more ++ '=' :: p.2.chars ++ rest, ?_, ?_⟩
      · rw [write, hn]
        simp
      · exact (hname.2 first (hn ▸ List.mem_cons_self ..)).1
  have hgap : isGap first = false := by
    by_cases hg : isGap first = true
    · simp only [isGap, isSpace, Bool.or_eq_true, beq_iff_eq] at hg
      rcases hg with (rfl | rfl) | rfl
      · exact absurd htoken (by decide)
      · exact absurd htoken (by decide)
      · exact absurd htoken (by decide)
    · simpa using hg
  rw [params?_eq, hfirst, List.dropWhile_cons_of_neg (by simp [hgap])]
  rw [hfirst] at hparam
  simp only [hparam]
  rcases hrest with rfl | ⟨tail, rfl⟩
  · rw [params?_nil]
    rfl
  · rw [params?_gap (by decide)]
    rfl

/-- Parameters that are written as a list are read as the same list. -/
theorem params?_writeAll {params : List (String × Written)}
    (hname : ∀ p ∈ params, IsName p.1) (h : ∀ p ∈ params, Wellformed p.2) :
    params? (writeAll params) = some (params.map fun p => (p.1, p.2.text)) := by
  induction params with
  | nil => exact params?_nil
  | cons p rest ih =>
    have hp := hname p (List.mem_cons_self ..)
    have hp' := h p (List.mem_cons_self ..)
    have hrest := ih (fun q hq => hname q (List.mem_cons_of_mem _ hq))
      fun q hq => h q (List.mem_cons_of_mem _ hq)
    cases rest with
    | nil =>
      have hwrite := params?_write hp hp' (Or.inl rfl)
      rw [List.append_nil, params?_nil] at hwrite
      rw [Param.writeAll_singleton, hwrite]
      rfl
    | cons q more =>
      rw [Param.writeAll_cons_cons, params?_write hp hp' (Or.inr ⟨_, rfl⟩),
        params?_gap (by decide), params?_gap (by decide), hrest]
      rfl

/-- A scheme and parameters that are written as a list are read. -/
theorem credentials?_writeAll {scheme : List Char} (hne : scheme ≠ [])
    (hscheme : ∀ c ∈ scheme, isTokenChar c = true) {params : List (String × Written)}
    (hname : ∀ p ∈ params, IsName p.1) (h : ∀ p ∈ params, Wellformed p.2) :
    credentials? (String.ofList (scheme ++ ' ' :: writeAll params)) =
      some (String.ofList scheme, params.map fun p => (p.1, p.2.text)) := by
  have htoken : token? (scheme ++ ' ' :: writeAll params) =
      some (scheme, ' ' :: writeAll params) :=
    token?_append hne hscheme (Or.inr ⟨_, _, rfl, by decide⟩)
  rw [credentials?, String.toList_ofList, htoken]
  simp only [params?_writeAll hname h, Option.map_some]

/-! ## What is written is text -/

theorem isTextChar_of_isTokenChar {c : Char} (h : isTokenChar c = true) : isTextChar c = true := by
  have hmarks : ∀ d ∈ "!#$%&'*+-.^_`|~".toList, isTextChar d = true :=
    List.all_eq_true.mp (by decide)
  rw [isTokenChar, Bool.or_eq_true] at h
  rcases h with h | h
  · change ((decide ('A'.val ≤ c.val ∧ c.val ≤ 'Z'.val) ||
      (decide ('a'.val ≤ c.val) && decide (c.val ≤ 'z'.val))) ||
      (decide ('0'.val ≤ c.val) && decide (c.val ≤ '9'.val))) = true at h
    simp only [Bool.or_eq_true, Bool.and_eq_true, decide_eq_true_eq,
      UInt32.le_iff_toNat_le] at h
    have hbounds : 'A'.val.toNat = 65 ∧ 'Z'.val.toNat = 90 ∧ 'a'.val.toNat = 97 ∧
        'z'.val.toNat = 122 ∧ '0'.val.toNat = 48 ∧ '9'.val.toNat = 57 := by
      decide
    have hn : c.val.toNat = c.toNat := rfl
    simp only [isTextChar, Bool.or_eq_true, Bool.and_eq_true, decide_eq_true_eq, bne_iff_ne]
    omega
  · exact hmarks c (List.contains_iff_mem.mp h)

theorem isTextChar_of_mem_text {w : Written} (h : Wellformed w) :
    ∀ c ∈ w.text.toList, isTextChar c = true := by
  cases w with
  | quoted text => exact h
  | verbatim text => exact fun c hc => (h c hc).1
  | token text => exact fun c hc => isTextChar_of_isTokenChar (h.2 c hc)

/-- A written list has no control in it. -/
theorem isTextChar_of_mem_writeAll {params : List (String × Written)}
    (hname : ∀ p ∈ params, IsName p.1) (h : ∀ p ∈ params, Wellformed p.2) :
    ∀ c ∈ writeAll params, isTextChar c = true :=
  Param.forall_mem_writeAll (List.all_eq_true.mp (by decide))
    (fun p hp c hc => isTextChar_of_isTokenChar ((hname p hp).2 c hc).1)
    fun p hp => isTextChar_of_mem_text (h p hp)

end FormFetch.Auth.Grammar
