import FormFetch.Prompt.Basic
import FormFetch.Text.Utf8

/-!
# The dialogue at a terminal

A question is put to a user in lines of text: first the username, then the password.
A username that is left empty stands for the proposed one, and cancels if there is
none.

* `splitLine_append`: splitting off a line loses nothing.
-/

namespace FormFetch.Prompt

open FormFetch.Text

/-- A line that is no text. -/
inductive InputFault where
  | notUtf8
  deriving DecidableEq, Repr

/-- The report of a line that is no text. -/
def InputFault.message : InputFault → String
  | .notUtf8 => "stream did not contain valid UTF-8"

/-- The bytes up to the first line break, and those after it. -/
def splitLine : List UInt8 → List UInt8 × List UInt8
  | [] => ([], [])
  | b :: rest =>
    if b = 0x0A then ([b], rest)
    else
      let (line, after) := splitLine rest
      (b :: line, after)

/-- The next line with its line break, and the bytes after it. -/
def readLine (input : List UInt8) : Except InputFault String × List UInt8 :=
  let (line, rest) := splitLine input
  match Utf8.string? line with
  | some text => (.ok text, rest)
  | none => (.error .notUtf8, rest)

/-- A line without its line break. -/
def withoutBreak (line : String) : String :=
  String.ofList (dropEndWhile (fun c => c == '\r' || c == '\n') line.toList)

/-- What a dialogue comes to. -/
structure Ending where
  decision : Except InputFault Decision
  /-- Everything that was written. -/
  output : String
  /-- The input that was not read. -/
  rest : List UInt8

/-- The line that puts a question. -/
def Question.introduction (q : Question) : String :=
  s!"Server returned {q.status} for {q.targetUrl}. " ++
    "Enter credentials (empty username cancels).\n"

/-- What stands in front of the username. -/
def usernamePrompt (suggested : Option String) : String :=
  match suggested with
  | some name => s!"Username [{name}]: "
  | none => "Username: "

/-- The username of a line. -/
def username? (suggested : Option String) (line : String) : Option String :=
  if trimmed line = "" then suggested else some (trimmed line)

/-- Puts a question.  `fallback` is proposed when no username is known. -/
def ask (q : Question) (fallback : Option String) (input : List UInt8) : Ending :=
  let suggested := q.prefill.or fallback
  let output := q.introduction ++ usernamePrompt suggested
  match readLine input with
  | (.error fault, rest) => ⟨.error fault, output, rest⟩
  | (.ok line, rest) =>
    match username? suggested line with
    | none => ⟨.ok .cancel, output, rest⟩
    | some username =>
      let output := output ++ "Password: "
      match readLine rest with
      | (.error fault, rest) => ⟨.error fault, output, rest⟩
      | (.ok line, rest) => ⟨.ok (.provide username (withoutBreak line)), output, rest⟩

theorem splitLine_append (input : List UInt8) :
    (splitLine input).1 ++ (splitLine input).2 = input := by
  induction input with
  | nil => rfl
  | cons b rest ih =>
    by_cases h : b = 0x0A
    · simp [splitLine, h]
    · simp [splitLine, h, ih]

end FormFetch.Prompt
