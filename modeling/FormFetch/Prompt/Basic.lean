import FormFetch.Credentials.Store

/-!
# Asking for credentials

What a user is asked when a server refuses a request, and what the user may answer.

* `target` says which address new credentials are kept for.
-/

namespace FormFetch.Prompt

open FormFetch.Text

/-- The status codes that ask for credentials. -/
def isChallenge (status : Nat) : Bool :=
  status == 401 || status == 403

/-- What the user is asked. -/
structure Question where
  /-- The address that the credentials will be kept for. -/
  targetUrl : String
  /-- The status code of the refusal. -/
  status : Nat
  /-- The requested address lies outside the configured server. -/
  overridden : Bool
  /-- The username that is known already. -/
  prefill : Option String
  deriving DecidableEq, Repr

/-- What the user answers. -/
inductive Decision where
  | provide (username password : String)
  | cancel
  deriving DecidableEq, Repr

/-- Declines every question. -/
def denying {σ : Type} (_ : Question) (s : σ) : Decision × σ :=
  (.cancel, s)

/-- Answers every question with the same credentials. -/
def fixed {σ : Type} (username password : String) (_ : Question) (s : σ) : Decision × σ :=
  (.provide username password, s)

/-- Gives one answer after the other, and declines when they have run out. -/
def scripted (_ : Question) : List Decision → Decision × List Decision
  | [] => (.cancel, [])
  | d :: rest => (d, rest)

/-- The part of an address in front of the first place where `word` occurs. -/
def before (word : List Char) : List Char → List Char
  | [] => []
  | c :: rest => if word.isPrefixOf (c :: rest) then [] else c :: before word rest

/-- The query that devices add to the address of a submission. -/
def deviceQuery : String :=
  "?deviceID="

/-- The address that credentials for `url` are kept for, and whether it lies outside the configured
server: inside it is the server's own, outside it is the requested one without the device's
query. -/
def target (serverUrl url : String) : String × Bool :=
  let server := addressKey serverUrl
  if covers server (trimmed url) then (server, false)
  else (String.ofList (before deviceQuery.toList url.toList), true)

/-! ## Reports -/

/-- What reports show in place of a password. -/
def redacted : String :=
  quoted "[REDACTED]"

/-- The report of credentials. -/
def reportCredentials (c : Credentials) : String :=
  let url := quoted c.serverUrl
  let name := quoted c.username
  s!"ServerCredentials \x7b server_url: {url}, username: {name}, password: {redacted} \x7d"

/-- The report of a decision. -/
def Decision.report : Decision → String
  | .provide username _ =>
    s!"Provide \x7b username: {quoted username}, password: {redacted} \x7d"
  | .cancel => "Cancel"

/-- The report of a prompt that always declines. -/
def reportDenying : String :=
  "DenyingPrompt"

/-- The report of a prompt that always gives one username and one password. -/
def reportFixed (username : String) : String :=
  s!"StaticCredentialPrompt \x7b username: {quoted username}, .. \x7d"

end FormFetch.Prompt
