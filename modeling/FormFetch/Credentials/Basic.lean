/-!
# Credentials

A username and a password, and the server address that they belong to.
-/

namespace FormFetch

/-- What a user presents to a server. -/
structure Credentials where
  /-- The server address that the pair is kept under, or the looked-up address itself when
  nothing is kept for it. -/
  serverUrl : String
  username : String
  password : String
  deriving DecidableEq, Repr, Inhabited

namespace Credentials

/-- No username and no password: the request goes out anonymously. -/
def anonymous (serverUrl : String) : Credentials :=
  ⟨serverUrl, "", ""⟩

/-- An empty username means that there is nothing to present. -/
def isPresent (c : Credentials) : Bool :=
  c.username ≠ ""

@[simp] theorem isPresent_anonymous (url : String) : (anonymous url).isPresent = false := rfl

end Credentials

end FormFetch
