import FormFetch.Bytes.Base64
import FormFetch.Credentials.Basic
import FormFetch.Text.Utf8

/-!
# Basic authentication

Username and password in the clear, joined by a colon and written in Base64
(RFC 7617).
-/

namespace FormFetch.Auth.Basic

open FormFetch.Text

/-- The value of the `Authorization` header for a username and a password. -/
def authorization (username password : String) : String :=
  String.ofList ("Basic ".toList ++
    Bytes.Base64.encode (Utf8.bytes (username ++ ":" ++ password)))

end FormFetch.Auth.Basic
