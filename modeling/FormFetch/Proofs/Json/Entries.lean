import FormFetch.Json.Entries
import FormFetch.Proofs.Bytes.Hex
import FormFetch.Proofs.Text.Utf8

/-!
# Credentials in JSON are read back

What `Entries.write` writes, `Entries.read` reads: the same entries in the same order,
whatever their strings hold.

There are three groups.

* Strings.  `escapeChar_cases` lists the forms of a character, `readStringBytes_escapeChar`
  reads one of them, and `readString_chars` is the result for a string with whatever
  follows it.
* Entries.  `readMember_memberBytes` reads one member, and `readEntry_writeEntry` the
  three members of an entry in the order in which they are written.
* Lists.  `readItems_moreChars` is the induction, and `read_write` the result.
-/

namespace FormFetch.Json.Entries

open FormFetch.Text

/-! ## Strings -/

/-- A byte that stands for itself between quotes. -/
def Verbatim (b : UInt8) : Prop :=
  b ≠ byte '"' ∧ b ≠ byte '\\' ∧ ¬b < 0x20

theorem readStringBytes_verbatim {bytes : List UInt8} (h : ∀ b ∈ bytes, Verbatim b)
    (rest : List UInt8) :
    readStringBytes (bytes ++ rest) =
      (readStringBytes rest).map fun found => (bytes ++ found.1, found.2) := by
  induction bytes with
  | nil =>
    show readStringBytes rest = _
    cases readStringBytes rest with
    | error failure => rfl
    | ok found => rfl
  | cons b more ih =>
    obtain ⟨hquote, hslash, hcontrol⟩ := h b (List.mem_cons_self ..)
    rw [List.cons_append, readStringBytes, if_neg hquote, if_neg hslash, if_neg hcontrol,
      ih fun c hc => h c (List.mem_cons_of_mem _ hc)]
    cases readStringBytes rest with
    | error failure => rfl
    | ok found => rfl

/-- A character without an escape is written as bytes that stand for themselves. -/
theorem verbatim_of_mem_encodeChar {c : Char} (hquote : c ≠ '"') (hslash : c ≠ '\\')
    (hcontrol : ¬c.toNat < 0x20) {b : UInt8} (hb : b ∈ Utf8.encodeChar c) : Verbatim b := by
  by_cases hascii : c.toNat < 0x80
  · rw [Utf8.encodeChar_of_lt hascii, List.mem_singleton] at hb
    have hnat : b.toNat = c.toNat := by
      rw [hb]
      exact Utf8.toNat_toUInt8 (by omega)
    have hne : ∀ d : Char, d.toNat < 0x80 → c ≠ d → b ≠ byte d := by
      intro d hd hcd heq
      apply hcd
      apply Char.toNat_inj.mp
      rw [← hnat, heq]
      exact Utf8.toNat_toUInt8 (by omega)
    refine ⟨hne '"' (by decide) hquote, hne '\\' (by decide) hslash, ?_⟩
    rw [UInt8.lt_iff_toNat_lt, hnat]
    exact hcontrol
  · have hle := Utf8.le_of_mem_encodeChar (by omega) hb
    refine ⟨?_, ?_, ?_⟩
    · rintro rfl
      exact absurd hle (by decide)
    · rintro rfl
      exact absurd hle (by decide)
    · rw [UInt8.lt_iff_toNat_lt]
      show ¬b.toNat < 0x20
      omega

/-- An escape is read as the bytes that it stands for. -/
theorem readStringBytes_escape {escape bytes rest : List UInt8}
    (h : readEscape (escape ++ rest) = .ok (bytes, rest)) :
    readStringBytes (byte '\\' :: (escape ++ rest)) =
      (readStringBytes rest).map fun found => (bytes ++ found.1, found.2) := by
  rw [readStringBytes, if_neg (by decide), if_pos rfl]
  split
  · rename_i failure hread
    rw [h] at hread
    cases hread
  · rename_i found left hread
    rw [h] at hread
    cases hread
    cases readStringBytes rest with
    | error failure => rfl
    | ok found => rfl

/-- The four digits of a control character, as bytes and as numbers. -/
theorem digits_hexPadded : ∀ n < 0x20,
    Utf8.encode (Bytes.hexPadded 4 n) =
        [byte '0', byte '0', byte (Bytes.hexDigit (n / 16)), byte (Bytes.hexDigit (n % 16))] ∧
      [byte '0', byte '0', byte (Bytes.hexDigit (n / 16)), byte (Bytes.hexDigit (n % 16))].mapM
        (fun x => Bytes.hexValue? (Char.ofNat x.toNat)) = some [0, 0, n / 16, n % 16] := by
  decide +kernel

/-- A control character that is written with four digits is read. -/
theorem readUnicode_hexPadded {n : Nat} (h : n < 0x20) (rest : List UInt8) :
    readUnicode (Utf8.encode (Bytes.hexPadded 4 n) ++ rest) = .ok (Char.ofNat n, rest) := by
  obtain ⟨hbytes, hdigits⟩ := digits_hexPadded n h
  have hread : readHex (Utf8.encode (Bytes.hexPadded 4 n) ++ rest) = .ok (n, rest) := by
    rw [hbytes]
    simp only [List.cons_append, List.nil_append, readHex, hdigits, List.foldl_cons,
      List.foldl_nil]
    congr 2
    omega
  rw [readUnicode, hread]
  dsimp only
  rw [if_neg (by omega), if_neg (by omega)]

/-- An escape is one letter, or four digits for the other control characters. -/
theorem escapeChar_cases (c : Char) :
    (∃ letter value, Utf8.encode (escapeChar c) = [byte '\\', letter] ∧
        shortEscape? letter = some value ∧ Utf8.encodeChar c = [value]) ∨
      (escapeChar c = '\\' :: 'u' :: Bytes.hexPadded 4 c.toNat ∧ c.toNat < 0x20) ∨
      escapeChar c = [c] ∧ c ≠ '"' ∧ c ≠ '\\' ∧ ¬c.toNat < 0x20 := by
  unfold escapeChar
  split
  · rename_i hc
    subst hc
    exact Or.inl ⟨_, _, rfl, rfl, rfl⟩
  rename_i hquote
  split
  · rename_i hc
    subst hc
    exact Or.inl ⟨_, _, rfl, rfl, rfl⟩
  rename_i hslash
  split
  · rename_i hc
    subst hc
    exact Or.inl ⟨_, _, rfl, rfl, rfl⟩
  split
  · rename_i hc
    subst hc
    exact Or.inl ⟨_, _, rfl, rfl, rfl⟩
  split
  · rename_i hc
    subst hc
    exact Or.inl ⟨_, _, rfl, rfl, rfl⟩
  split
  · rename_i hc
    subst hc
    exact Or.inl ⟨_, _, rfl, rfl, rfl⟩
  split
  · rename_i hc
    subst hc
    exact Or.inl ⟨_, _, rfl, rfl, rfl⟩
  split
  · rename_i hcontrol
    exact Or.inr (Or.inl ⟨rfl, hcontrol⟩)
  · rename_i hcontrol
    exact Or.inr (Or.inr ⟨rfl, hquote, hslash, hcontrol⟩)

/-- The escape of a character is read as the bytes of the character. -/
theorem readStringBytes_escapeChar (c : Char) (rest : List UInt8) :
    readStringBytes (Utf8.encode (escapeChar c) ++ rest) =
      (readStringBytes rest).map fun found => (Utf8.encodeChar c ++ found.1, found.2) := by
  rcases escapeChar_cases c with ⟨letter, value, hletter, hshort, hvalue⟩ | ⟨hdigits, hcontrol⟩ |
    ⟨hself, hquote, hslash, hcontrol⟩
  · rw [hletter, hvalue]
    apply readStringBytes_escape
    simp only [List.singleton_append, readEscape, hshort]
  · rw [hdigits]
    apply readStringBytes_escape
    have hread := readUnicode_hexPadded hcontrol rest
    rw [Char.ofNat_toNat] at hread
    have hmark : shortEscape? (byte 'u') = none := rfl
    show readEscape (byte 'u' :: (Utf8.encode (Bytes.hexPadded 4 c.toNat) ++ rest)) = _
    simp only [readEscape, hmark, if_true, hread]
  · have hbytes : Utf8.encode [c] = Utf8.encodeChar c := List.append_nil _
    rw [hself, hbytes]
    apply readStringBytes_verbatim
    intro b hb
    exact verbatim_of_mem_encodeChar hquote hslash hcontrol hb

theorem readStringBytes_chars (cs : List Char) (rest : List UInt8) :
    readStringBytes (Utf8.encode (cs.flatMap escapeChar) ++ byte '"' :: rest) =
      .ok (Utf8.encode cs, rest) := by
  induction cs with
  | nil =>
    show readStringBytes (byte '"' :: rest) = _
    rw [readStringBytes, if_pos rfl]
    rfl
  | cons c more ih =>
    rw [List.flatMap_cons, Utf8.encode_append, List.append_assoc, readStringBytes_escapeChar, ih]
    rfl

/-- A string is read back, with whatever follows its closing quote. -/
theorem readString_chars (s : String) (rest : List UInt8) :
    readString (Utf8.encode (s.toList.flatMap escapeChar) ++ byte '"' :: rest) = .ok (s, rest) := by
  have hstring : Utf8.string? (Utf8.encode s.toList) = some s := Utf8.string?_bytes s
  rw [readString, readStringBytes_chars]
  dsimp only
  rw [hstring]

theorem skipSpace_cons {b : UInt8} (h : isSpace b = false) (rest : List UInt8) :
    skipSpace (b :: rest) = b :: rest := by
  rw [skipSpace, List.dropWhile_cons, h]
  rfl

theorem encode_writeString (s : String) (rest : List UInt8) :
    Utf8.encode (writeString s) ++ rest =
      byte '"' :: (Utf8.encode (s.toList.flatMap escapeChar) ++ byte '"' :: rest) := by
  rw [writeString, List.cons_append]
  show byte '"' :: (Utf8.encode (s.toList.flatMap escapeChar ++ ['"']) ++ rest) = _
  rw [Utf8.encode_append, List.append_assoc]
  rfl

theorem readText_writeString (s : String) (rest : List UInt8) :
    readText (Utf8.encode (writeString s) ++ rest) = .ok (s, rest) := by
  rw [encode_writeString, readText, skipSpace_cons rfl]
  dsimp only
  rw [if_pos rfl, readString_chars]

/-! ## Entries -/

/-- The bytes of a member behind the opening quote of its key. -/
def memberBytes (member : Member) (value : String) : List UInt8 :=
  Utf8.encode (member.name.toList.flatMap escapeChar) ++
    byte '"' :: byte ':' :: Utf8.encode (writeString value)

theorem encode_writeMember (member : Member) (value : String) :
    Utf8.encode (writeMember member.name value) = byte '"' :: memberBytes member value := by
  rw [writeMember, Utf8.encode_append, encode_writeString]
  rfl

theorem ofName?_name (member : Member) : Member.ofName? member.name = some member := by
  cases member <;> rfl

/-- A member that was not read yet is read. -/
theorem readMember_memberBytes {known : Members} {member : Member}
    (h : known.get? member = none) (value : String) (rest : List UInt8) :
    readMember known (memberBytes member value ++ rest) = .ok (known.put member value, rest) := by
  have hname : readString (memberBytes member value ++ rest) =
      .ok (member.name, byte ':' :: (Utf8.encode (writeString value) ++ rest)) := by
    rw [memberBytes, List.append_assoc]
    exact readString_chars _ _
  have hcolon : readColon (byte ':' :: (Utf8.encode (writeString value) ++ rest)) =
      .ok (Utf8.encode (writeString value) ++ rest) := by
    rw [readColon, skipSpace_cons rfl]
    exact if_pos rfl
  simp only [readMember, hname, ofName?_name, h, hcolon, readText_writeString]
  rfl

theorem encode_cons {c : Char} (h : c.toNat < 0x80) (cs : List Char) :
    Utf8.encode (c :: cs) = byte c :: Utf8.encode cs := by
  rw [Utf8.encode, List.flatMap_cons, Utf8.encodeChar_of_lt h]
  rfl

/-- The bytes of the members of an entry, with the brace that ends it. -/
def membersBytes (c : Credentials) (rest : List UInt8) : List UInt8 :=
  byte '"' :: (memberBytes .serverUrl c.serverUrl ++
    byte ',' :: byte '"' :: (memberBytes .username c.username ++
      byte ',' :: byte '"' :: (memberBytes .password c.password ++ byte '\x7d' :: rest)))

theorem encode_writeEntry (c : Credentials) (rest : List UInt8) :
    Utf8.encode (writeEntry c) ++ rest = byte '\x7b' :: membersBytes c rest := by
  have hfirst := encode_writeMember .serverUrl c.serverUrl
  have hsecond := encode_writeMember .username c.username
  have hthird := encode_writeMember .password c.password
  simp only [Member.name] at hfirst hsecond hthird
  rw [writeEntry, List.cons_append, List.cons_append, List.cons_append, encode_cons (by decide),
    Utf8.encode_append, Utf8.encode_append, Utf8.encode_append, encode_cons (by decide),
    encode_cons (by decide), hfirst, hsecond, hthird]
  simp only [List.append_assoc, List.cons_append, membersBytes]
  rfl

theorem readMembers_item {fuel : Nat} {first : Bool} {known : Members} {member : Member}
    {value : String} {input rest : List UInt8}
    (hkey : nextKey first input = .ok (.item (memberBytes member value ++ rest)))
    (h : known.get? member = none) :
    readMembers (fuel + 1) first known input =
      readMembers fuel false (known.put member value) rest := by
  simp only [readMembers, hkey, readMember_memberBytes h]

theorem nextKey_first (rest : List UInt8) :
    nextKey true (byte '"' :: rest) = .ok (.item rest) := by
  rw [nextKey, skipSpace_cons rfl]
  rfl

theorem nextKey_comma (rest : List UInt8) :
    nextKey false (byte ',' :: byte '"' :: rest) = .ok (.item rest) := by
  rw [nextKey, skipSpace_cons rfl]
  dsimp only
  rw [if_neg (by decide), if_neg (by decide), if_pos rfl, skipSpace_cons rfl]
  rfl

theorem readMembers_close {fuel : Nat} {known : Members} {entry : Credentials}
    (h : known.entry = .ok entry) (rest : List UInt8) :
    readMembers (fuel + 1) false known (byte '\x7d' :: rest) = .ok (entry, rest) := by
  have hkey : nextKey false (byte '\x7d' :: rest) = .ok (.close (byte '\x7d' :: rest)) := by
    rw [nextKey, skipSpace_cons rfl]
    rfl
  have hclose : closeObject (byte '\x7d' :: rest) = .ok rest := by
    rw [closeObject, skipSpace_cons rfl]
    rfl
  simp only [readMembers, hkey, h, hclose, finish]

/-- An entry is read back, with whatever follows it. -/
theorem readEntry_writeEntry (c : Credentials) (rest : List UInt8) :
    readEntry (Utf8.encode (writeEntry c) ++ rest) = .ok (c, rest) := by
  -- Four steps are needed, and the fuel is more than the number of bytes.
  have hfuel : ∃ n, (membersBytes c rest).length + 1 = n + 4 := by
    refine ⟨(membersBytes c rest).length - 3, ?_⟩
    simp only [membersBytes, List.length_cons, List.length_append]
    omega
  obtain ⟨n, hn⟩ := hfuel
  rw [encode_writeEntry, readEntry, skipSpace_cons rfl]
  dsimp only
  rw [if_neg (by decide), if_pos rfl, hn, membersBytes, readMembers_item (nextKey_first _) rfl,
    readMembers_item (nextKey_comma _) rfl, readMembers_item (nextKey_comma _) rfl]
  exact readMembers_close rfl rest

/-! ## Lists -/

/-- The text of a list behind some entries: the other entries, each after a comma, and the
bracket. -/
def moreChars (entries : List Credentials) : List Char :=
  entries.flatMap (fun c => ',' :: writeEntry c) ++ [']']

theorem writeChars_cons (c : Credentials) (entries : List Credentials) :
    writeChars (c :: entries) = '[' :: (writeEntry c ++ moreChars entries) := by
  have htail : ∀ (e : Credentials) (more : List Credentials),
      [','].intercalate ((e :: more).map writeEntry) =
        writeEntry e ++ more.flatMap fun c => ',' :: writeEntry c := by
    intro e more
    induction more generalizing e with
    | nil => simp [List.intercalate]
    | cons d rest ih =>
      have hrest := ih d
      simp only [List.intercalate, List.map_cons, List.intersperse_cons_cons, List.flatten_cons,
        List.flatMap_cons] at hrest ⊢
      rw [hrest]
      rfl
  rw [writeChars, htail, moreChars, List.cons_append, List.append_assoc]

theorem encode_moreChars_cons (c : Credentials) (entries : List Credentials)
    (rest : List UInt8) :
    Utf8.encode (moreChars (c :: entries)) ++ rest =
      byte ',' :: (Utf8.encode (writeEntry c) ++ (Utf8.encode (moreChars entries) ++ rest)) := by
  rw [moreChars, List.flatMap_cons, List.cons_append, List.cons_append, encode_cons (by decide),
    List.append_assoc, Utf8.encode_append, List.cons_append, List.append_assoc]
  rfl

theorem length_moreChars (entries : List Credentials) :
    entries.length < (Utf8.encode (moreChars entries)).length := by
  induction entries with
  | nil => decide
  | cons c rest ih =>
    have hcons := encode_moreChars_cons c rest []
    rw [List.append_nil, List.append_nil] at hcons
    rw [hcons, List.length_cons, List.length_cons, List.length_append]
    omega

theorem readItems_item {fuel : Nat} {first : Bool} {c : Credentials} {input rest : List UInt8}
    (h : nextItem first input = .ok (.item (Utf8.encode (writeEntry c) ++ rest))) :
    readItems (fuel + 1) first input =
      (readItems fuel false rest).map fun found => (c :: found.1, found.2) := by
  simp only [readItems, h, readEntry_writeEntry]
  cases readItems fuel false rest with
  | error failure => rfl
  | ok found => rfl

theorem readItems_close (fuel : Nat) (first : Bool) (rest : List UInt8) :
    readItems (fuel + 1) first (byte ']' :: rest) = .ok ([], rest) := by
  have hnext : nextItem first (byte ']' :: rest) = .ok (.close (byte ']' :: rest)) := by
    rw [nextItem, skipSpace_cons rfl]
    rfl
  have hclose : closeList (byte ']' :: rest) = .ok rest := by
    rw [closeList, skipSpace_cons rfl]
    rfl
  simp only [readItems, hnext, hclose, finish]

/-- An item begins with a brace, which is neither a blank nor the end of the list. -/
theorem nextItem_first (c : Credentials) (rest : List UInt8) :
    nextItem true (Utf8.encode (writeEntry c) ++ rest) =
      .ok (.item (Utf8.encode (writeEntry c) ++ rest)) := by
  rw [encode_writeEntry, nextItem, skipSpace_cons rfl]
  rfl

theorem nextItem_comma (c : Credentials) (rest : List UInt8) :
    nextItem false (byte ',' :: (Utf8.encode (writeEntry c) ++ rest)) =
      .ok (.item (Utf8.encode (writeEntry c) ++ rest)) := by
  rw [encode_writeEntry, nextItem, skipSpace_cons rfl]
  dsimp only
  rw [if_neg (by decide), if_neg (by decide), if_pos rfl, skipSpace_cons rfl]
  rfl

theorem readItems_moreChars {fuel : Nat} {entries : List Credentials}
    (h : entries.length < fuel) (rest : List UInt8) :
    readItems fuel false (Utf8.encode (moreChars entries) ++ rest) = .ok (entries, rest) := by
  induction entries generalizing fuel with
  | nil =>
    obtain ⟨fuel, rfl⟩ := Nat.exists_eq_add_one.mpr h
    exact readItems_close fuel false rest
  | cons c more ih =>
    rw [List.length_cons] at h
    obtain ⟨fuel, rfl⟩ := Nat.exists_eq_add_one.mpr (show 0 < fuel by omega)
    rw [encode_moreChars_cons, readItems_item (nextItem_comma c _), ih (by omega)]
    rfl

theorem readList_write (entries : List Credentials) :
    readList (write entries) = .ok (entries, []) := by
  rw [write, readList]
  cases entries with
  | nil =>
    show readItems _ true (byte ']' :: []) = _
    exact readItems_close _ true []
  | cons c more =>
    have hlength := length_moreChars more
    rw [writeChars_cons, encode_cons (by decide), skipSpace_cons rfl, Utf8.encode_append]
    dsimp only
    rw [if_pos rfl, readItems_item (nextItem_first c _),
      ← List.append_nil (Utf8.encode (moreChars more)), readItems_moreChars]
    · rfl
    · rw [List.length_append, List.length_append]
      omega

/-- A list of entries is read back. -/
theorem read_write (entries : List Credentials) : read (write entries) = .ok entries := by
  rw [read, readWhole, readList_write]
  rfl

end FormFetch.Json.Entries
