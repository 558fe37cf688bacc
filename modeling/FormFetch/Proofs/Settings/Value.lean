import FormFetch.Proofs.Text.Number
import FormFetch.Settings.Reader

/-!
# Values of settings

A value is a text between double quotes or a whole number, and with a key in front of it it
is one entry of a settings file.

* `readText_eq_ok_iff` and `readWhole_eq_ok_iff`: the texts that are read as a value.
* `Entry` is a setting with its value, `Entry.applied` what it does to the settings.
* `put_eq_ok_iff` and `line_of_put`: a line either brings an entry or is refused by its
  number.
-/

namespace FormFetch.Settings

open FormFetch.Text

/-! ## Texts and numbers -/

/-- A text between double quotes. -/
def inQuotes (text : List Char) : List Char :=
  '"' :: (text ++ ['"'])

theorem inQuotes_inj {inner inner' : List Char} (h : inQuotes inner = inQuotes inner') :
    inner = inner' :=
  List.append_cancel_right (List.cons.inj h).2

/-- Whatever stands between the first and the last character of a value is its text. -/
theorem readText_eq_ok_iff {value : List Char} {text : String} :
    readText value = .ok text ↔ value = inQuotes text.toList := by
  constructor
  · intro h
    rw [readText.eq_def] at h
    split at h
    · rename_i rest
      split at h
      · rename_i hlast
        obtain rfl := Except.ok.inj h
        obtain ⟨init, rfl⟩ := List.getLast?_eq_some_iff.mp hlast
        rw [String.toList_ofList, List.dropLast_concat, inQuotes]
      · cases h
    · cases h
  · rintro rfl
    rw [inQuotes, readText, if_pos List.getLast?_concat, List.dropLast_concat,
      String.ofList_toList]

/-- A whole number in decimal digits, with a sign or without; a minus sign stands only in front
of zero. -/
structure Numeral where
  sign : List Char
  digits : List (Fin 10)
  digits_ne : digits ≠ []
  sign_cases : sign = [] ∨ sign = ['+'] ∨ sign = ['-'] ∧ Number.valueFrom 0 digits = 0
  le_max : Number.valueFrom 0 digits ≤ Number.max64

/-- The number of a numeral. -/
def Numeral.value (m : Numeral) : Nat :=
  Number.valueFrom 0 m.digits

/-- The characters of a numeral. -/
def Numeral.chars (m : Numeral) : List Char :=
  m.sign ++ Number.digitChars m.digits

theorem Numeral.chars_ne (m : Numeral) : m.chars ≠ [] := by
  intro h
  have hdigits := (List.append_eq_nil_iff.mp h).2
  exact m.digits_ne (List.map_eq_nil_iff.mp hdigits)

theorem integer_chars (m : Numeral) :
    Number.integer maxMagnitude m.chars = .ok (m.value : Int) := by
  have hmax : Number.max64 ≤ maxMagnitude := by decide
  have hle := m.le_max
  refine Number.integer_eq_ok_iff.mpr ⟨m.sign, m.digits, m.digits_ne, rfl, ?_⟩
  rcases m.sign_cases with hsign | hsign | ⟨hsign, hzero⟩
  · exact Or.inl ⟨Or.inl hsign, rfl, by omega⟩
  · exact Or.inl ⟨Or.inr hsign, rfl, by omega⟩
  · exact Or.inr ⟨hsign, by rw [Numeral.value, hzero]; rfl, by omega⟩

theorem readWhole_eq_ok_iff {value : List Char} {n : Nat} :
    readWhole value = .ok n ↔ ∃ m : Numeral, m.chars = value ∧ m.value = n := by
  constructor
  · intro h
    rw [readWhole] at h
    split at h
    · cases h
    · split at h
      · cases h
      · rename_i z hz
        obtain ⟨sign, digits, hdigits, rfl, hsign⟩ := Number.integer_eq_ok_iff.mp hz
        split at h
        · cases h
        · split at h
          · obtain rfl := Except.ok.inj h
            rcases hsign with ⟨hsign, rfl, -⟩ | ⟨rfl, rfl, -⟩
            · exact ⟨⟨sign, digits, hdigits, hsign.imp_right Or.inl, by omega⟩, rfl, rfl⟩
            · have hzero : Number.valueFrom 0 digits = 0 := by omega
              exact ⟨⟨['-'], digits, hdigits, Or.inr (Or.inr ⟨rfl, hzero⟩), by omega⟩, rfl,
                by rw [Numeral.value, hzero]; rfl⟩
          · cases h
  · rintro ⟨m, rfl, rfl⟩
    have hempty : m.chars.isEmpty = false := List.isEmpty_eq_false_iff.mpr m.chars_ne
    have hpos : ¬(m.value : Int) < 0 := by omega
    have hle : (m.value : Int).toNat ≤ Number.max64 := m.le_max
    rw [readWhole, hempty, if_neg Bool.false_ne_true, integer_chars]
    simp only [if_neg hpos, if_pos hle]
    rfl

/-- A number of 64 bits has a numeral. -/
theorem exists_numeral {n : Nat} (h : n ≤ Number.max64) : ∃ m : Numeral, m.value = n := by
  have hread : Number.accumulate 10 Number.max64 .tooLarge 0 (Nat.toDigits 10 n) = .ok n :=
    Number.accumulate_toDigits h
  obtain ⟨digits, hdigits, hvalue, -⟩ :=
    (Number.accumulate_eq_ok_iff (Nat.zero_le _)).mp hread
  refine ⟨⟨[], digits, ?_, Or.inl rfl, hvalue ▸ h⟩, hvalue⟩
  rintro rfl
  exact Nat.toDigits_ne_nil hdigits

/-! ## Entries -/

/-- The word for a verbosity in a settings file. -/
def word : Verbosity → String
  | .default => "default"
  | .verbose => "verbose"
  | .quiet => "quiet"
  | .debug => "debug"

theorem ofName?_eq_some_iff {text : String} {v : Verbosity} :
    Verbosity.ofName? text = some v ↔ text = word v := by
  constructor
  · intro h
    grind [Verbosity.ofName?, word]
  · rintro rfl
    cases v <;> decide

theorem eq_name_of_ofName? {name : String} {key : Key} (h : Key.ofName? name = some key) :
    name = key.name := by
  grind [Key.ofName?, Key.name]

/-- What a value stands for. -/
inductive Content where
  | text (t : String)
  | whole (n : Nat)

/-- The values that stand for a text or a number. -/
def Content.Spells : Content → List Char → Prop
  | .text t, value => value = inQuotes t.toList
  | .whole n, value => ∃ m : Numeral, m.chars = value ∧ m.value = n

/-- There is no double quote within the text. -/
def Content.Unquoted : Content → Prop
  | .text t => '"' ∉ t.toList
  | .whole _ => True

instance : (content : Content) → Decidable content.Unquoted
  | .text t => inferInstanceAs (Decidable ('"' ∉ t.toList))
  | .whole _ => inferInstanceAs (Decidable True)

theorem spells_ofList (text : List Char) :
    (Content.text (String.ofList text)).Spells (inQuotes text) := by
  rw [Content.Spells, String.toList_ofList]

/-- A setting with its value. -/
inductive Entry where
  | serverUrl (url : String)
  | username (name : String)
  | connectTimeout (seconds : Nat)
  | requestTimeout (seconds : Nat)
  | verbosity (v : Verbosity)
  deriving DecidableEq, Repr

namespace Entry

/-- The key of an entry. -/
def key : Entry → Key
  | serverUrl _ => .serverUrl
  | username _ => .username
  | connectTimeout _ => .connectTimeout
  | requestTimeout _ => .requestTimeout
  | verbosity _ => .verbosity

/-- What the value of an entry stands for. -/
def content : Entry → Content
  | serverUrl text | username text => .text text
  | connectTimeout n | requestTimeout n => .whole n
  | verbosity v => .text (word v)

/-- The settings with an entry. -/
def applied (settings : Settings) : Entry → Settings
  | serverUrl url => { settings with serverUrl := some url }
  | username name => { settings with username := some name }
  | connectTimeout n => { settings with connectTimeout := some n }
  | requestTimeout n => { settings with requestTimeout := some n }
  | verbosity v => { settings with verbosity := some v }

end Entry

/-- The keys whose values are texts. -/
def Key.IsText (key : Key) : Prop :=
  key = .serverUrl ∨ key = .username ∨ key = .verbosity

theorem exists_text {e : Entry} (h : e.key.IsText) :
    ∃ t, e.content = .text t ∧ (e.key = .verbosity → '"' ∉ t.toList) := by
  cases e with
  | serverUrl url => exact ⟨url, rfl, fun hkey => by cases hkey⟩
  | username name => exact ⟨name, rfl, fun hkey => by cases hkey⟩
  | connectTimeout n | requestTimeout n => simp [Key.IsText, Entry.key] at h
  | verbosity v => exact ⟨word v, rfl, fun _ => by cases v <;> decide⟩

/-- A value is accepted exactly if it stands for an entry of its key. -/
theorem put_eq_ok_iff {settings settings' : Settings} {line : Nat} {key : Key}
    {value : List Char} :
    put settings line key value = .ok settings' ↔
      ∃ e : Entry, e.key = key ∧ e.content.Spells value ∧ settings' = e.applied settings := by
  constructor
  · intro h
    cases key with
    | serverUrl =>
      simp only [put] at h
      split at h
      · rename_i url hurl
        exact ⟨.serverUrl url, rfl, readText_eq_ok_iff.mp hurl, (Except.ok.inj h).symm⟩
      · cases h
    | username =>
      simp only [put] at h
      split at h
      · rename_i name hname
        exact ⟨.username name, rfl, readText_eq_ok_iff.mp hname, (Except.ok.inj h).symm⟩
      · cases h
    | connectTimeout =>
      simp only [put] at h
      split at h
      · rename_i n hn
        exact ⟨.connectTimeout n, rfl, readWhole_eq_ok_iff.mp hn, (Except.ok.inj h).symm⟩
      · cases h
    | requestTimeout =>
      simp only [put] at h
      split at h
      · rename_i n hn
        exact ⟨.requestTimeout n, rfl, readWhole_eq_ok_iff.mp hn, (Except.ok.inj h).symm⟩
      · cases h
    | verbosity =>
      simp only [put] at h
      split at h
      · rename_i text htext
        split at h
        · rename_i v hv
          obtain rfl := ofName?_eq_some_iff.mp hv
          exact ⟨.verbosity v, rfl, readText_eq_ok_iff.mp htext, (Except.ok.inj h).symm⟩
        · cases h
      · cases h
  · rintro ⟨e, rfl, hspells, rfl⟩
    cases e with
    | serverUrl url => simp only [Entry.key, put, readText_eq_ok_iff.mpr hspells, Entry.applied]
    | username name => simp only [Entry.key, put, readText_eq_ok_iff.mpr hspells, Entry.applied]
    | connectTimeout n =>
      simp only [Entry.key, put, readWhole_eq_ok_iff.mpr hspells, Entry.applied]
    | requestTimeout n =>
      simp only [Entry.key, put, readWhole_eq_ok_iff.mpr hspells, Entry.applied]
    | verbosity v =>
      simp only [Entry.key, put, readText_eq_ok_iff.mpr hspells, ofName?_eq_some_iff.mpr rfl,
        Entry.applied]

/-- The line that a fault names. -/
def Fault.line? : Fault → Option Nat
  | .noEquals line | .unknownKey _ line | .badValue _ line _ | .badVerbosity _ line => some line
  | .badTimeout .. | .badServerUrl _ => none

theorem line_of_put {settings : Settings} {line : Nat} {key : Key} {value : List Char}
    {fault : Fault} (h : put settings line key value = .error fault) :
    fault.line? = some line := by
  cases key with
  | serverUrl | username | connectTimeout | requestTimeout =>
    simp only [put] at h
    split at h
    · cases h
    · obtain rfl := Except.error.inj h
      rfl
  | verbosity =>
    simp only [put] at h
    split at h
    · split at h
      · cases h
      · obtain rfl := Except.error.inj h
        rfl
    · obtain rfl := Except.error.inj h
      rfl

/-- The report of a fault that names a line has its number. -/
theorem exists_message_of_line? {fault : Fault} {line : Nat} (h : fault.line? = some line) :
    ∃ front back, fault.messages.head? = some (front ++ s!" on line {line}" ++ back) := by
  cases fault with
  | noEquals n =>
    obtain rfl := Option.some.inj h
    refine ⟨"Invalid config syntax", ": expected key = value", ?_⟩
    rw [Fault.messages, List.head?_cons]
    simp only [← String.toList_inj, String.toList_append, Option.some.injEq, List.append_assoc]
    rfl
  | unknownKey name n =>
    obtain rfl := Option.some.inj h
    refine ⟨s!"Unknown configuration key: '{name}'", "", ?_⟩
    rw [Fault.messages, List.head?_cons]
    simp only [String.append_empty, ← String.toList_inj, String.toList_append,
      Option.some.injEq, List.append_assoc]
    rfl
  | badValue key n fault =>
    obtain rfl := Option.some.inj h
    refine ⟨s!"Invalid `{key.name}` value", "", ?_⟩
    rw [Fault.messages, List.head?_cons]
    simp only [String.append_empty, ← String.toList_inj, String.toList_append,
      Option.some.injEq, List.append_assoc]
    rfl
  | badVerbosity text n =>
    obtain rfl := Option.some.inj h
    refine ⟨s!"Invalid `verbosity` value '{text}'", "", ?_⟩
    rw [Fault.messages, List.head?_cons]
    simp only [String.append_empty, ← String.toList_inj, String.toList_append,
      Option.some.injEq, List.append_assoc]
    rfl
  | badTimeout key n => cases h
  | badServerUrl url => cases h

end FormFetch.Settings
