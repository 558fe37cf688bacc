import FormFetch.Text.Blank

/-!
# Authentication parameters

The list of `key=value` pairs that follows the scheme in an authentication header.
A value is a bare token, which reaches to the next comma, or a quoted text, in
which a backslash keeps the character after it.

* `pairs` reads such a list and keeps the pairs in the order of the text; `lookup`
  takes the last pair of a name.
* `write` writes one parameter.
* `length_quoted_le`, `length_value_le`: a reader never lengthens what is left.
-/

namespace FormFetch.Auth.Param

open FormFetch.Text

/-- The characters between two parameters. -/
def isSeparator (c : Char) : Bool :=
  isBlank c || c == ','

/-- Neither the end of a key nor the end of a parameter. -/
def isKeyChar (c : Char) : Bool :=
  c != '=' && c != ','

/-- The text up to the closing quote, and what follows the quote.  A quote that is missing at the
end of the input is taken as read. -/
def quoted : List Char → List Char × List Char
  | [] => ([], [])
  | '"' :: rest => ([], rest)
  | '\\' :: c :: rest =>
    let (text, after) := quoted rest
    (c :: text, after)
  | ['\\'] => ([], [])
  | c :: rest =>
    let (text, after) := quoted rest
    (c :: text, after)

/-- One value, and what follows it. -/
def value : List Char → List Char × List Char
  | '"' :: rest => quoted rest
  | input => (trimEnd (input.takeWhile (· != ',')), input.dropWhile (· != ','))

theorem length_quoted_le (input : List Char) : (quoted input).2.length ≤ input.length := by
  fun_induction quoted input <;> simp_all <;> omega

theorem length_dropWhile_le {α : Type} (p : α → Bool) (xs : List α) :
    (xs.dropWhile p).length ≤ xs.length :=
  (List.dropWhile_sublist p).length_le

theorem length_value_le (input : List Char) : (value input).2.length ≤ input.length := by
  unfold value
  split
  · have := length_quoted_le ‹_›
    simp only [List.length_cons]
    omega
  · exact length_dropWhile_le _ _

/-- A parameter under its key without blank ends and in lower case; a nameless one is dropped. -/
def named (key text : List Char) : List (String × String) :=
  match (trim key).map Char.toLower with
  | [] => []
  | name => [(String.ofList name, String.ofList text)]

/-- The parameters of a list, in the order of the text.  A key without a value is skipped. -/
def pairs (input : List Char) : List (String × String) :=
  let start := input.dropWhile isSeparator
  match _h : start.dropWhile isKeyChar with
  | '=' :: tail =>
    let found := value (trimStart tail)
    named (start.takeWhile isKeyChar) found.1 ++ pairs found.2
  | _ :: rest => pairs rest
  | [] => []
  termination_by input.length
  decreasing_by
    all_goals
      have h1 := length_dropWhile_le isKeyChar (input.dropWhile isSeparator)
      have h2 := length_dropWhile_le isSeparator input
      simp only [start] at _h
      rw [_h] at h1
      simp only [List.length_cons] at h1
    · have h3 := length_value_le (trimStart tail)
      have h4 := length_dropWhile_le isBlank tail
      simp only [trimStart] at h3 ⊢
      omega
    · omega

/-- The last value of a name. -/
def lookup (name : String) (params : List (String × String)) : Option String :=
  (params.reverse.find? (·.1 == name)).map (·.2)

/-- How a parameter is written. -/
inductive Written where
  /-- Between quotes, with a backslash before each quote and backslash. -/
  | quoted (text : String)
  /-- Between quotes, as it stands. -/
  | verbatim (text : String)
  /-- Without quotes. -/
  | token (text : String)
  deriving DecidableEq, Repr

/-- The inside of a quoted value. -/
def escape (cs : List Char) : List Char :=
  cs.flatMap fun c => if c = '"' ∨ c = '\\' then ['\\', c] else [c]

/-- The text of a value. -/
def Written.chars : Written → List Char
  | .quoted text => '"' :: escape text.toList ++ ['"']
  | .verbatim text => '"' :: text.toList ++ ['"']
  | .token text => text.toList

/-- One parameter. -/
def write (param : String × Written) : List Char :=
  param.1.toList ++ '=' :: param.2.chars

/-- Parameters one after the other, with a comma and a space between two. -/
def writeAll (params : List (String × Written)) : List Char :=
  [',', ' '].intercalate (params.map write)

end FormFetch.Auth.Param
