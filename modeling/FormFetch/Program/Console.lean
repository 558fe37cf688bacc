import FormFetch.Prompt.Dialogue

/-!
# Standard input and the terminal

What a run of the program reads from its user.  Questions are put only to a user at a
terminal; a run that reads from a pipe declines them.

* `Console.ask` puts a question, `Console.readPassword` reads a password.
-/

namespace FormFetch.Program

open FormFetch.Text FormFetch.Prompt

/-- Where standard input comes from. -/
inductive Source where
  | pipe
  | terminal
  deriving DecidableEq, Repr

/-- What is left to read, and what was written to the user. -/
structure Console where
  source : Source
  input : List UInt8
  written : String := ""
  deriving DecidableEq, Repr

namespace Console

/-- Puts a question to a user at a terminal; input that is no text cancels. -/
def ask (fallback : Option String) (q : Question) (c : Console) : Decision × Console :=
  match c.source with
  | .pipe => (.cancel, c)
  | .terminal =>
    let ending := Prompt.ask q fallback c.input
    let decision := match ending.decision with
      | .ok decision => decision
      | .error _ => .cancel
    (decision, { c with input := ending.rest, written := c.written ++ ending.output })

/-- The first line of a text, without its line break. -/
def firstLine (text : String) : String :=
  let line := text.toList.takeWhile (· != '\n')
  let line :=
    if line.length < text.toList.length ∧ line.getLast? = some '\r' then line.dropLast else line
  String.ofList line

/-- Why there is no password. -/
inductive PasswordFault where
  | input (fault : InputFault)
  /-- The pipe brings no password. -/
  | missing
  deriving DecidableEq, Repr

/-- The report of a missing password. -/
def PasswordFault.message : PasswordFault → String
  | .input fault => fault.message
  | .missing => "No password provided on stdin"

/-- A password: a line at a terminal, or the first line of all that a pipe brings. -/
def readPassword (c : Console) : Except PasswordFault String :=
  match c.source with
  | .terminal =>
    match (readLine c.input).1 with
    | .ok line => .ok (withoutBreak line)
    | .error fault => .error (.input fault)
  | .pipe =>
    match Utf8.string? c.input with
    | none => .error (.input .notUtf8)
    | some text => if firstLine text = "" then .error .missing else .ok (firstLine text)

end Console

end FormFetch.Program
