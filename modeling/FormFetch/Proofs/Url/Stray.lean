import FormFetch.Proofs.Text.NormalForm
import FormFetch.Proofs.Text.Utf8
import FormFetch.Proofs.Url.Front

/-!
# Blanks at the end of an authority

No authority ends with a control, a space or another blank, whatever is in front of it:
as part of a port it is no digit, as part of an IPv6 address it stands behind the bracket,
and a domain name keeps it through every step and is refused for it.

There are four groups.

* Stray characters, `isStray`, and what is known of each of them.
* Domain names.  Each step of reading one is followed to the end of the name, and
  `ofEncoded?_concat` is the result.
* Authorities.  `originAt?_concat` is the result.
* Addresses.  `origin?_lead_of_append` says that an address that leads somewhere with
  stray characters behind it leads there without them.
-/

namespace FormFetch

open Text

namespace Url

/-! ## Stray characters -/

/-- A control, a space or another blank. -/
def isStray (c : Char) : Bool :=
  isControlOrSpace c || isBlank c

/-- The codes of the stray characters. -/
def strayCodes : List Nat :=
  List.range 0x21 ++ [0x85, 0xA0, 0x1680] ++ List.range' 0x2000 11 ++
    [0x2028, 0x2029, 0x202F, 0x205F, 0x3000]

/-- What holds of the character of each of the codes holds of every stray character. -/
theorem of_isStray {p : Char → Bool} (hall : ∀ code ∈ strayCodes, p (Char.ofNat code) = true)
    {c : Char} (h : isStray c = true) : p c = true := by
  have hmem : c.toNat ∈ strayCodes := by
    simp only [isStray, isControlOrSpace, isBlank, Bool.or_eq_true, Bool.and_eq_true,
      decide_eq_true_eq, beq_iff_eq] at h
    simp only [strayCodes, List.mem_append, List.mem_range, List.mem_range'_1, List.mem_cons,
      List.not_mem_nil, or_false]
    omega
  have hc := hall c.toNat hmem
  rwa [Char.ofNat_toNat] at hc

/-- A character that means something in the front of an address. -/
def hasMeaning (c : Char) : Bool :=
  c == '@' || c == ':' || c == '[' || c == ']' || c.isDigit || endsAuthority c || !breaksScheme c

theorem hasMeaning_of_isStray {c : Char} (h : isStray c = true) : hasMeaning c = false := by
  have hc := of_isStray (p := fun c => !hasMeaning c) (by decide +kernel) h
  rwa [Bool.not_eq_true'] at hc

theorem toLower_of_isStray {c : Char} (h : isStray c = true) : c.toLower = c := by
  have hc := of_isStray (p := fun c => c.toLower == c) (by decide +kernel) h
  rwa [beq_iff_eq] at hc

/-! ## Domain names -/

/-- A byte that takes no part in a percent-encoded one. -/
def isLiteral (b : UInt8) : Bool :=
  b != 0x25 && (Bytes.hexValue? (Char.ofNat b.toNat)).isNone

theorem isLiteral_of_isStray {c : Char} (h : isStray c = true) :
    ∀ b ∈ Utf8.encodeChar c, isLiteral b = true :=
  List.all_eq_true.mp
    (of_isStray (p := fun c => (Utf8.encodeChar c).all isLiteral) (by decide +kernel) h)

theorem decode_cons_of_ne {a : UInt8} (h : a ≠ 0x25) (rest : List UInt8) :
    Percent.decode (a :: rest) = a :: Percent.decode rest := by
  have ha : (a == 0x25) = false := beq_false_of_ne h
  cases rest with
  | nil => rfl
  | cons b rest =>
    cases rest with
    | nil => rfl
    | cons c rest =>
      rw [Percent.decode, ha]

/-- Behind a byte without a digit after it nothing is decoded, whatever the byte is. -/
theorem decode_cons_of_literal {a b c : UInt8} (h : isLiteral b = true ∨ isLiteral c = true)
    (rest : List UInt8) :
    Percent.decode (a :: b :: c :: rest) = a :: Percent.decode (b :: c :: rest) := by
  rw [Percent.decode]
  split
  · rename_i high low hpercent hhigh hlow
    simp only [isLiteral, hhigh, hlow, Option.isNone_some, Bool.and_false, Bool.false_eq_true,
      or_self] at h
  · rfl

theorem decode_of_literal {bytes : List UInt8} (h : ∀ b ∈ bytes, isLiteral b = true) :
    Percent.decode bytes = bytes := by
  induction bytes with
  | nil => rfl
  | cons a rest ih =>
    have ha := h a (List.mem_cons_self ..)
    rw [isLiteral, Bool.and_eq_true, bne_iff_ne] at ha
    rw [decode_cons_of_ne ha.1, ih fun b hb => h b (List.mem_cons_of_mem _ hb)]

/-- Literal bytes at the end stay there when what is in front of them is decoded. -/
theorem decode_append_literal {last : List UInt8} (h : ∀ b ∈ last, isLiteral b = true)
    (bytes : List UInt8) : ∃ init, Percent.decode (bytes ++ last) = init ++ last := by
  have hone : ∀ a, Percent.decode (a :: last) = a :: last := by
    intro a
    rcases last with _ | ⟨b, _ | ⟨c, more⟩⟩
    · rfl
    · rfl
    · rw [decode_cons_of_literal (Or.inl (h b (List.mem_cons_self ..))), decode_of_literal h]
  induction bytes using Percent.decode.induct with
  | case1 => exact ⟨[], decode_of_literal h⟩
  | case2 a => exact ⟨[a], hone a⟩
  | case3 a b =>
    refine ⟨[a, b], ?_⟩
    show Percent.decode (a :: b :: last) = a :: b :: last
    rcases last with _ | ⟨c, more⟩
    · rfl
    · rw [decode_cons_of_literal (Or.inr (h c (List.mem_cons_self ..))), hone b]
  | case4 a b c rest high low hlow hhigh hpercent ih =>
    obtain ⟨init, hinit⟩ := ih
    refine ⟨(high * 16 + low).toUInt8 :: init, ?_⟩
    rw [List.cons_append, List.cons_append, List.cons_append, Percent.decode, hpercent, hhigh,
      hlow]
    exact congrArg _ hinit
  | case5 a b c rest hnot ih =>
    obtain ⟨init, hinit⟩ := ih
    refine ⟨a :: init, ?_⟩
    rw [List.cons_append, List.cons_append, List.cons_append, Percent.decode]
    split
    · rename_i high low hpercent hhigh hlow
      exact absurd hlow fun hlow => hnot high low hpercent hhigh hlow
    · exact congrArg _ hinit

/-- A stray character that a name may hold stands for a control or a space. -/
theorem char?_of_isStray {c : Char} (h : isStray c = true) {cs : List Char}
    (hchar : Mapping.char? c = some cs) : ∃ d, d.toNat ≤ 0x20 ∧ cs = [d] := by
  have hsingle : (Mapping.char? c).all
      (fun cs => cs.length == 1 && cs.all (·.toNat ≤ 0x20)) = true :=
    of_isStray (p := fun c => (Mapping.char? c).all
      fun cs => cs.length == 1 && cs.all (·.toNat ≤ 0x20)) (by decide +kernel) h
  rw [hchar, Option.all_some, Bool.and_eq_true, beq_iff_eq] at hsingle
  obtain ⟨d, rfl⟩ := List.length_eq_one_iff.mp hsingle.1
  exact ⟨d, by simpa using hsingle.2, rfl⟩

theorem mapM_concat {α β : Type} {f : α → Option β} {xs : List α} {x : α} {ys : List β}
    (h : (xs ++ [x]).mapM f = some ys) :
    ∃ init y, xs.mapM f = some init ∧ f x = some y ∧ ys = init ++ [y] := by
  rw [List.mapM_append] at h
  obtain ⟨init, hinit, h⟩ := Option.bind_eq_some_iff.mp h
  obtain ⟨last, hlast, h⟩ := Option.bind_eq_some_iff.mp h
  rw [List.mapM_cons, List.mapM_nil] at hlast
  obtain ⟨y, hy, hlast⟩ := Option.bind_eq_some_iff.mp hlast
  cases hlast
  cases h
  exact ⟨init, y, hinit, hy, rfl⟩

theorem name?_concat {c : Char} (h : isStray c = true) {name mapped : List Char}
    (hname : Mapping.name? (name ++ [c]) = some mapped) :
    ∃ init d, d.toNat ≤ 0x20 ∧ mapped = init ++ [d] := by
  obtain ⟨parts, hparts, rfl⟩ := Option.map_eq_some_iff.mp hname
  obtain ⟨init, last, -, hlast, rfl⟩ := mapM_concat hparts
  obtain ⟨d, hd, rfl⟩ := char?_of_isStray h hlast
  exact ⟨init.flatten, d, hd, by rw [List.flatten_append, List.flatten_singleton]⟩

section Control

variable {d : Char} (hd : d.toNat ≤ 0x20)

include hd

theorem ne_of_control {c : Char} (h : 0x20 < c.toNat) : d ≠ c := by
  rintro rfl
  omega

/-- The last label of a name ends with its last character. -/
theorem splitOn_concat (name : List Char) :
    ∃ init last, (name ++ [d]).splitOn '.' = init ++ [last ++ [d]] := by
  have hdot : (d == '.') = false := beq_false_of_ne (ne_of_control hd (by decide))
  unfold List.splitOn
  induction name with
  | nil =>
    refine ⟨[], [], ?_⟩
    rw [List.nil_append, List.splitOnP_cons_eq_if_modifyHead, hdot, List.splitOnP_nil]
    rfl
  | cons c rest ih =>
    obtain ⟨init, last, hsplit⟩ := ih
    rw [List.cons_append, List.splitOnP_cons_eq_if_modifyHead, hsplit]
    split
    · exact ⟨[] :: init, last, rfl⟩
    · rcases init with _ | ⟨label, init⟩
      · exact ⟨[], c :: last, rfl⟩
      · exact ⟨(c :: label) :: init, last, rfl⟩

theorem value?_of_control : Punycode.value? d = none := by
  unfold Punycode.value?
  simp only [Bool.and_eq_true, decide_eq_true_eq]
  rw [if_neg (by omega), if_neg (by omega), if_neg (by omega)]

/-- A distance is read up to its last digit, and the last character is none. -/
theorem distance?_concat {bias k weight sum n : Nat} {input rest : List Char}
    (h : Punycode.distance? bias k weight sum (input ++ [d]) = some (n, rest)) :
    ∃ init, rest = init ++ [d] := by
  induction input generalizing k weight sum with
  | nil =>
    rw [List.nil_append, Punycode.distance?, value?_of_control hd] at h
    cases h
  | cons c more ih =>
    rw [List.cons_append, Punycode.distance?] at h
    obtain ⟨digit, -, h⟩ := Option.bind_eq_some_iff.mp h
    dsimp only at h
    split at h
    · cases h
      exact ⟨more, rfl⟩
    · exact ih h

theorem insertAll?_concat (bias code index : Nat) (first : Bool) (label input : List Char) :
    Punycode.insertAll? bias code index first label (input ++ [d]) = none := by
  induction hlength : input.length using Nat.strongRecOn
    generalizing bias code index first label input with
  | ind n ih =>
    have hempty : (input ++ [d]).isEmpty = false := by
      cases input <;> rfl
    rw [Punycode.insertAll?, hempty]
    simp only [Bool.false_eq_true, if_false]
    split
    · rfl
    · rename_i position rest hdistance
      have hlt := Punycode.length_distance? hdistance
      obtain ⟨init, rfl⟩ := distance?_concat hd hdistance
      rw [List.length_append, List.length_append] at hlt
      split
      · exact ih init.length (by omega) _ _ _ _ _ _ rfl
      · rfl

/-- No label is written with a control or a space at its end. -/
theorem decode_concat (input : List Char) : Punycode.decode (input ++ [d]) = none := by
  have hdash : (d != '-') = true := bne_iff_ne.mpr (ne_of_control hd (by decide))
  have htail : ((input ++ [d]).reverse.takeWhile (· != '-')).reverse =
      (input.reverse.takeWhile (· != '-')).reverse ++ [d] := by
    rw [List.reverse_append, List.reverse_singleton, List.singleton_append, List.takeWhile_cons,
      hdash]
    exact List.reverse_cons
  rw [Punycode.decode, htail]
  exact insertAll?_concat hd ..

/-- A label that ends with a control or a space is read as it stands, or not at all. -/
theorem read?_concat {label read : List Char} (h : Label.read? (label ++ [d]) = some read) :
    read = label ++ [d] := by
  unfold Label.read? at h
  split at h
  · rename_i rest hprefixed
    -- What follows the four characters ends like the label.
    have hrest : ∃ init, rest = init ++ [d] := by
      rcases List.eq_nil_or_concat rest with rfl | ⟨init, last, rfl⟩
      · have hlast := congrArg List.getLast? hprefixed
        rw [List.getLast?_concat] at hlast
        have hdash : d = '-' := Option.some.inj hlast
        exact absurd hdash (ne_of_control hd (by decide))
      · have hlast := congrArg List.getLast? hprefixed
        rw [List.getLast?_concat] at hlast
        have heq : ('x' :: 'n' :: '-' :: '-' :: (init ++ [last])).getLast? = some last := by
          rw [← List.cons_append, ← List.cons_append, ← List.cons_append, ← List.cons_append,
            List.getLast?_concat]
        rw [List.concat_eq_append, heq] at hlast
        cases hlast
        exact ⟨init, List.concat_eq_append⟩
    obtain ⟨init, rfl⟩ := hrest
    rw [decode_concat hd] at h
    split at h
    · cases h
    · cases h
  · split at h
    · cases h
      rfl
    · cases h

end Control

/-! What is written in Punycode keeps the ASCII characters of its label. -/

theorem visit_out (basic code : Nat) (w : Punycode.Writer) (c : Char) :
    w.out <+: (w.visit basic code c).out := by
  unfold Punycode.Writer.visit
  split
  · exact List.prefix_rfl
  · split
    · exact List.prefix_append _ _
    · exact List.prefix_rfl

theorem foldl_visit_out (basic code : Nat) (label : List Char) (w : Punycode.Writer) :
    w.out <+: (label.foldl (Punycode.Writer.visit basic code) w).out := by
  induction label generalizing w with
  | nil => exact List.prefix_rfl
  | cons c rest ih => exact (visit_out basic code w c).trans (ih _)

theorem out_insertCodes (label : List Char) (basic code : Nat) (w : Punycode.Writer)
    (codes : List Nat) : w.out <+: Punycode.insertCodes label basic code w codes := by
  induction codes generalizing code w with
  | nil => exact List.prefix_rfl
  | cons next rest ih =>
    rw [Punycode.insertCodes]
    refine List.IsPrefix.trans ?_ (ih _ _)
    exact foldl_visit_out basic next label
      { w with delta := w.delta + (next - code) * (w.count + 1) }

theorem mem_written {label : List Char} {d : Char} (hmem : d ∈ label) (hd : d.toNat < 0x80) :
    d ∈ Label.written label := by
  unfold Label.written
  split
  · exact hmem
  · have hbasic : d ∈ label.filter (·.toNat < 128) :=
      List.mem_filter.mpr ⟨hmem, decide_eq_true hd⟩
    refine List.mem_append_right _ ((out_insertCodes ..).mem ?_)
    dsimp only
    rw [if_neg]
    · exact List.mem_append_left _ hbasic
    · rw [List.isEmpty_iff]
      exact List.ne_nil_of_mem hbasic

theorem mem_intercalate {d : Char} {text : List Char} {texts : List (List Char)}
    (hmem : text ∈ texts) (hd : d ∈ text) (dots : List Char) : d ∈ dots.intercalate texts := by
  induction texts with
  | nil => cases hmem
  | cons first rest ih =>
    rcases rest with _ | ⟨second, rest⟩
    · rw [List.mem_singleton] at hmem
      rw [List.intercalate_singleton, ← hmem]
      exact hd
    · rw [List.intercalate_cons_cons]
      rcases List.mem_cons.mp hmem with rfl | hmem
      · exact List.mem_append_left _ (List.mem_append_left _ hd)
      · exact List.mem_append_right _ (ih hmem)

theorem isForbidden_of_le {d : Char} (h : d.toNat ≤ 0x20) : Domain.isForbidden d = true := by
  simp only [Domain.isForbidden, h, decide_true, Bool.true_or]

/-- The last label of a name that ends with a stray character ends with a control or a space. -/
theorem labels?_concat {c : Char} (h : isStray c = true) {name : List Char}
    {labels : List (List Char)} (hlabels : Domain.labels? (name ++ [c]) = some labels) :
    ∃ label d, label ∈ labels ∧ d ∈ label ∧ d.toNat ≤ 0x20 := by
  unfold Domain.labels? at hlabels
  obtain ⟨mapped, hmapped, hlabels⟩ := Option.bind_eq_some_iff.mp hlabels
  obtain ⟨read, hread, hlabels⟩ := Option.bind_eq_some_iff.mp hlabels
  obtain ⟨init, d, hd, rfl⟩ := name?_concat h hmapped
  rw [NormalForm.compose_concat hd] at hread
  obtain ⟨labelsInit, last, hsplit⟩ := splitOn_concat hd (NormalForm.compose init)
  rw [hsplit] at hread
  obtain ⟨readInit, label, -, hlabel, rfl⟩ := mapM_concat hread
  have hlabel := read?_concat hd hlabel
  split at hlabels
  · cases hlabels
  · cases hlabels
    refine ⟨label, d, List.mem_append_right _ (List.mem_singleton_self _), ?_, hd⟩
    rw [hlabel]
    exact List.mem_append_right _ (List.mem_singleton_self _)

theorem le_of_isStray {c : Char} (h : isStray c = true) (hascii : c.toNat < 0x80) :
    c.toNat ≤ 0x20 := by
  have hstray := of_isStray (p := fun c => 0x80 ≤ c.toNat || c.toNat ≤ 0x20)
    (by decide +kernel) h
  simp only [Bool.or_eq_true, decide_eq_true_eq] at hstray
  omega

theorem toAscii?_concat {c : Char} (h : isStray c = true) (name : List Char) :
    Domain.toAscii? (name ++ [c]) = none := by
  have hlower : (name ++ [c]).map Char.toLower = name.map Char.toLower ++ [c] := by
    rw [List.map_append, List.map_singleton, toLower_of_isStray h]
  have hlast : c ∈ name.map Char.toLower ++ [c] :=
    List.mem_append_right _ (List.mem_singleton_self _)
  unfold Domain.toAscii?
  rw [hlower]
  dsimp only
  split
  · rename_i hsimple
    rw [Domain.isSimple, Bool.and_eq_true, Label.isAscii, List.all_eq_true] at hsimple
    have hcontrol := le_of_isStray h (of_decide_eq_true (hsimple.1 c hlast))
    exact if_pos (List.any_eq_true.mpr ⟨c, hlast, isForbidden_of_le hcontrol⟩)
  · cases hlabels : Domain.labels? (name ++ [c]) with
    | none => rfl
    | some labels =>
      obtain ⟨label, d, hlabel, hmem, hd⟩ := labels?_concat h hlabels
      refine if_pos (List.any_eq_true.mpr ⟨d, ?_, isForbidden_of_le hd⟩)
      exact mem_intercalate (List.mem_map_of_mem hlabel) (mem_written hmem (by omega)) _

/-- No domain name ends with a stray character. -/
theorem ofEncoded?_concat {c : Char} (h : isStray c = true) (input : List Char) :
    Domain.ofEncoded? (input ++ [c]) = none := by
  obtain ⟨init, hinit⟩ := decode_append_literal (isLiteral_of_isStray h) (Utf8.encode input)
  have hencode : Utf8.encode (input ++ [c]) = Utf8.encode input ++ Utf8.encodeChar c := by
    rw [Utf8.encode_append, Utf8.encode, Utf8.encode, List.flatMap_singleton]
  unfold Domain.ofEncoded?
  rw [hencode, hinit]
  split
  · rename_i name hname
    obtain ⟨front, rfl⟩ := Utf8.decodeFrom_append_char hname
    exact toAscii?_concat h front
  · rfl

/-! ## Authorities -/

section Authority

variable {c : Char} (h : isStray c = true)

include h

theorem ne_of_hasMeaning {d : Char} (hd : hasMeaning d = true) : c ≠ d := by
  rintro rfl
  rw [hasMeaning_of_isStray h] at hd
  cases hd

/-- No host ends with a stray character. -/
theorem parse?_concat (input : List Char) : Host.parse? (input ++ [c]) = none := by
  unfold Host.parse?
  split
  · rename_i inside hinput
    rw [if_neg]
    intro hclosed
    have hlast := congrArg List.getLast? hinput
    rw [List.getLast?_concat] at hlast
    rcases List.eq_nil_or_concat inside with rfl | ⟨init, last, rfl⟩
    · cases hclosed
    · rw [List.concat_eq_append] at hclosed hlast
      rw [List.getLast?_concat, beq_iff_eq] at hclosed
      rw [← List.cons_append, List.getLast?_concat, hclosed] at hlast
      exact ne_of_hasMeaning h (d := ']') (by decide) (Option.some.inj hlast)
  · rw [ofEncoded?_concat h]
    rfl

/-- A stray character at the end belongs to the host, or stands behind the colon. -/
theorem splitHost_concat (bracketed : Bool) (input : List Char) :
    (∃ host, splitHost bracketed (input ++ [c]) = (host ++ [c], [])) ∨
      ∃ colon digits, (splitHost bracketed (input ++ [c])).2 = colon :: (digits ++ [c]) := by
  induction input generalizing bracketed with
  | nil =>
    refine Or.inl ⟨[], ?_⟩
    have hcolon : c ≠ ':' := ne_of_hasMeaning h (by decide)
    rw [List.nil_append, splitHost, if_neg fun hc => hcolon hc.1, splitHost]
  | cons d rest ih =>
    rw [List.cons_append, splitHost]
    split
    · exact Or.inr ⟨d, rest, rfl⟩
    · rcases ih (if d = '[' then true else if d = ']' then false else bracketed) with
        ⟨host, hhost⟩ | hport
      · exact Or.inl ⟨d :: host, by rw [hhost]; rfl⟩
      · exact Or.inr hport

theorem readPort?_concat (scheme : Scheme) (colon : Char) (digits : List Char) :
    readPort? scheme (colon :: (digits ++ [c])) = none := by
  have hdigit : c.isDigit = false := by
    have hmeaning := hasMeaning_of_isStray h
    simp only [hasMeaning, Bool.or_eq_false_iff] at hmeaning
    exact hmeaning.1.1.2
  unfold readPort?
  dsimp only
  rw [if_neg]
  rw [List.all_append, Bool.and_eq_true, List.all_cons, hdigit]
  simp

/-- A stray character at the end is not part of the user's name and password. -/
theorem splitUserInfo_concat (authority : List Char) :
    ∃ init, (splitUserInfo (authority ++ [c])).2 = init ++ [c] := by
  have hat : (c != '@') = true := bne_iff_ne.mpr (ne_of_hasMeaning h (by decide))
  have hafter : ((authority ++ [c]).reverse.takeWhile (· != '@')).reverse =
      (authority.reverse.takeWhile (· != '@')).reverse ++ [c] := by
    rw [List.reverse_append, List.reverse_singleton, List.singleton_append, List.takeWhile_cons,
      hat]
    exact List.reverse_cons
  unfold splitUserInfo
  dsimp only
  split
  · exact ⟨authority, rfl⟩
  · exact ⟨_, hafter⟩

/-- No authority ends with a stray character. -/
theorem originAt?_concat (scheme : Scheme) (authority : List Char) :
    originAt? scheme (authority ++ [c]) = none := by
  obtain ⟨init, hinit⟩ := splitUserInfo_concat h authority
  unfold originAt?
  rw [hinit]
  dsimp only
  split
  · rfl
  · rcases splitHost_concat h false init with ⟨host, hhost⟩ | ⟨colon, digits, hport⟩
    · rw [hhost, parse?_concat h]
      rfl
    · rw [hport]
      cases Host.parse? (splitHost false (init ++ [c])).1 with
      | none => rfl
      | some host =>
        show (readPort? scheme (colon :: (digits ++ [c]))).bind _ = none
        rw [readPort?_concat h]
        rfl

end Authority

/-! ## Addresses -/

/-- Stray characters leave the authority in front of them as it is, or end it. -/
theorem authorityIn_append_of_stray (rest : List Char) {more : List Char}
    (h : ∀ c ∈ more, isStray c = true) :
    authorityIn (rest ++ more) = authorityIn rest ∨
      authorityIn (rest ++ more) = authorityIn rest ++ more := by
  have hends : ∀ c ∈ more, endsAuthority c = false := by
    intro c hc
    have hmeaning := hasMeaning_of_isStray (h c hc)
    simp only [hasMeaning, Bool.or_eq_false_iff] at hmeaning
    exact hmeaning.1.2
  have hslash : ∀ c ∈ more, isSlash c = false := by
    intro c hc
    have hc := hends c hc
    rw [endsAuthority, Bool.or_eq_false_iff] at hc
    exact hc.1
  have htake : more.takeWhile (!endsAuthority ·) = more := by
    rw [List.takeWhile_eq_self_iff]
    intro c hc
    rw [hends c hc]
    rfl
  by_cases hall : rest.all isSlash = true
  · right
    have hdrop : more.dropWhile isSlash = more := by
      rcases more with _ | ⟨c, more⟩
      · rfl
      · rw [List.dropWhile_cons, hslash c (List.mem_cons_self ..)]
        rfl
    rw [authorityIn_append_of_slashes hall, authorityIn_of_slashes hall, authorityIn, hdrop, htake]
    rfl
  · rw [authorityIn, dropWhile_isSlash_append more (Bool.eq_false_iff.mpr hall),
      List.takeWhile_append, htake, authorityIn]
    split
    · rename_i hlength
      have hself := (List.takeWhile_prefix (!endsAuthority ·)).eq_of_length hlength
      rw [hself]
      exact Or.inr rfl
    · exact Or.inl rfl

theorem head_all_breaksScheme_of_stray {more : List Char} (h : ∀ c ∈ more, isStray c = true) :
    more.head?.all breaksScheme = true := by
  rcases more with _ | ⟨c, more⟩
  · rfl
  · have hmeaning := hasMeaning_of_isStray (h c (List.mem_cons_self ..))
    simp only [hasMeaning, Bool.or_eq_false_iff, Bool.not_eq_false'] at hmeaning
    exact hmeaning.2

theorem originAt?_append_of_stray {authority more : List Char}
    (h : ∀ c ∈ more, isStray c = true) (hne : more ≠ []) (scheme : Scheme) :
    originAt? scheme (authority ++ more) = none := by
  rcases List.eq_nil_or_concat more with rfl | ⟨init, c, rfl⟩
  · exact absurd rfl hne
  · rw [List.concat_eq_append] at h ⊢
    rw [← List.append_assoc]
    exact originAt?_concat (h c (List.mem_append_right _ (List.mem_singleton_self _))) scheme _

/-- If an address with stray characters behind it leads somewhere, they are not in its
authority. -/
theorem authorityIn_of_originAt? {scheme : Scheme} {rest more : List Char}
    {o : Scheme × Host × Nat} (hmore : ∀ c ∈ more, isStray c = true)
    (h : originAt? scheme (authorityIn (rest ++ more)) = some o) :
    authorityIn (rest ++ more) = authorityIn rest := by
  rcases authorityIn_append_of_stray rest hmore with hsame | hlonger
  · exact hsame
  · by_cases hnil : more = []
    · rw [hnil, List.append_nil]
    · rw [hlonger, originAt?_append_of_stray hmore hnil] at h
      cases h

/-- An address that leads somewhere with stray characters at its end leads there without them. -/
theorem origin?_of_append_stray {input more : List Char} {o : Scheme × Host × Nat}
    (hmore : ∀ c ∈ more, isStray c = true) (h : origin? (input ++ more) = some o) :
    origin? input = some o := by
  rw [origin?_append input (head_all_breaksScheme_of_stray hmore)] at h
  obtain ⟨⟨scheme, rest⟩, hopening, horigin⟩ := Option.bind_eq_some_iff.mp h
  rw [origin?, hopening, Option.bind_some, ← authorityIn_of_originAt? hmore horigin]
  exact horigin

/-- An address leads to the same origin with stray characters and more of a path behind it, if it
leads anywhere then. -/
theorem origin?_eq_of_append {input more ending : List Char} {o o' : Scheme × Host × Nat}
    (hmore : ∀ c ∈ more, isStray c = true) (hending : ending.head?.all endsAuthority = true)
    (h : origin? input = some o) (h' : origin? (input ++ more ++ ending) = some o') : o' = o := by
  obtain ⟨scheme, rest, hopening, horigin, hslash⟩ := exists_of_origin? h
  have hslash' : (rest ++ more).all isSlash = false := by
    rw [List.all_append, hslash, Bool.false_and]
  rw [origin?_append _ (head_all_breaksScheme hending),
    opening?_append input (head_all_breaksScheme_of_stray hmore), hopening, Option.map_some,
    Option.bind_some, authorityIn_append_of_ends hslash' hending] at h'
  rw [authorityIn_of_originAt? hmore h', horigin] at h'
  exact (Option.some.inj h').symm

/-- Stray characters at the end of a text are at the end of what counts of it, if they count. -/
theorem lead_append (cs : List Char) {more : List Char} (h : ∀ c ∈ more, isStray c = true) :
    ∃ kept, (∀ c ∈ kept, isStray c = true) ∧ lead (cs ++ more) = lead cs ++ kept := by
  rw [lead, List.dropWhile_append]
  split
  · rename_i hempty
    refine ⟨lead more, fun c hc => h c ?_, ?_⟩
    · exact (List.dropWhile_sublist _).mem (List.mem_filter.mp hc).1
    · rw [lead, lead, List.isEmpty_iff.mp hempty]
      rfl
  · refine ⟨more.filter (!isIgnored ·), fun c hc => h c (List.mem_filter.mp hc).1, ?_⟩
    rw [List.filter_append, lead]

theorem origin?_lead_of_append {cs more : List Char} {o : Scheme × Host × Nat}
    (hmore : ∀ c ∈ more, isStray c = true) (h : origin? (lead (cs ++ more)) = some o) :
    origin? (lead cs) = some o := by
  obtain ⟨kept, hkept, hlead⟩ := lead_append cs hmore
  rw [hlead] at h
  exact origin?_of_append_stray hkept h

end Url

end FormFetch
