import FormFetch.Auth.Param
import FormFetch.Bytes.Hex
import FormFetch.Credentials.Basic
import FormFetch.Hash.Md5
import FormFetch.Hash.Sha256
import FormFetch.Text.Utf8

/-!
# Digest authentication

The challenge of a server and the answer of a client (RFC 7616, with the form
without `qop` of RFC 2617).  Of the qualities of protection only `auth` is
answered; a challenge that offers others alone is refused.

* `Challenge.parse?` reads the value of a `WWW-Authenticate` header.
* `Challenge.response` is the proof of the password, `Challenge.params` the
  parameters that carry it, and `Challenge.answer` the whole header value.
-/

namespace FormFetch.Auth.Digest

open FormFetch.Text

/-- The hash algorithms, each plain or bound to a session. -/
inductive Algorithm where
  | md5
  | md5Session
  | sha256
  | sha256Session
  deriving DecidableEq, Repr

namespace Algorithm

/-- The algorithm of a name in any letter case. -/
def ofName? (name : String) : Option Algorithm :=
  let name := Text.upper name
  if name = "MD5" then some .md5
  else if name = "MD5-SESS" then some .md5Session
  else if name = "SHA-256" then some .sha256
  else if name = "SHA-256-SESS" then some .sha256Session
  else none

/-- The name as a client writes it. -/
def name : Algorithm → String
  | .md5 => "MD5"
  | .md5Session => "MD5-sess"
  | .sha256 => "SHA-256"
  | .sha256Session => "SHA-256-sess"

/-- A session algorithm mixes the nonces of both sides into the hashed credentials. -/
def isSession : Algorithm → Bool
  | .md5Session | .sha256Session => true
  | .md5 | .sha256 => false

/-- The hash of a text, in hexadecimal. -/
def hash (algorithm : Algorithm) (text : String) : String :=
  let bytes := Utf8.bytes text
  Bytes.hex <| match algorithm with
    | .md5 | .md5Session => Hash.Md5.hash bytes
    | .sha256 | .sha256Session => Hash.Sha256.hash bytes

end Algorithm

/-- The number of random bytes in a client nonce. -/
def nonceSize : Nat :=
  16

/-- The client nonce of some random bytes. -/
def clientNonce (random : List UInt8) : String :=
  Bytes.hex random

/-- A server's demand for proof of a password. -/
structure Challenge where
  realm : String
  nonce : String
  /-- A value that the client returns as it is. -/
  opaqueValue : Option String
  algorithm : Algorithm
  /-- The server offers the quality of protection `auth`. -/
  offersAuth : Bool
  /-- The nonce of the request before was too old. -/
  stale : Bool
  deriving DecidableEq, Repr

namespace Challenge

/-- One of the options of a `qop` list is `auth`. -/
def listsAuth (options : String) : Bool :=
  (options.toList.splitOn ',').any fun option =>
    sameIgnoringCase (String.ofList (trim option)) "auth"

/-- The challenge of a parameter list: a nonce, a known algorithm and a usable quality of
protection are necessary. -/
def ofParams? (params : List (String × String)) : Option Challenge := do
  let nonce ← Param.lookup "nonce" params
  let algorithm ← match Param.lookup "algorithm" params with
    | some name => Algorithm.ofName? name
    | none => some .md5
  let offersAuth ← match Param.lookup "qop" params with
    | some options => if listsAuth options then some true else none
    | none => some false
  return {
    realm := (Param.lookup "realm" params).getD ""
    nonce
    opaqueValue := Param.lookup "opaque" params
    algorithm
    offersAuth
    stale := (Param.lookup "stale" params).any (sameIgnoringCase · "true") }

/-- Reads the value of a `WWW-Authenticate` header: the scheme, a blank, the parameters. -/
def parse? (header : String) : Option Challenge :=
  let text := trim header.toList
  let scheme := text.takeWhile (!isBlank ·)
  match text.dropWhile (!isBlank ·) with
  | [] => none
  | _ :: rest =>
    if sameIgnoringCase (String.ofList scheme) "digest" then ofParams? (Param.pairs rest)
    else none

/-- A nonce count on eight hexadecimal digits. -/
def countText (count : UInt32) : String :=
  String.ofList (Bytes.hexPadded 8 count.toNat)

/-- The hash of the credentials. -/
def secret (c : Challenge) (username password cnonce : String) : String :=
  let plain := c.algorithm.hash s!"{username}:{c.realm}:{password}"
  if c.algorithm.isSession then c.algorithm.hash s!"{plain}:{c.nonce}:{cnonce}" else plain

/-- The proof of the password for one request. -/
def response (c : Challenge) (username password method uri : String) (count : UInt32)
    (cnonce : String) : String :=
  let secret := c.secret username password cnonce
  let target := c.algorithm.hash s!"{method}:{uri}"
  if c.offersAuth then
    c.algorithm.hash s!"{secret}:{c.nonce}:{countText count}:{cnonce}:auth:{target}"
  else
    c.algorithm.hash s!"{secret}:{c.nonce}:{target}"

/-- The parameters of an answer, in the order in which they are written. -/
def params (c : Challenge) (username password method uri : String) (count : UInt32)
    (cnonce : String) : List (String × Param.Written) :=
  [("username", .quoted username), ("realm", .quoted c.realm), ("nonce", .quoted c.nonce),
    ("uri", .quoted uri), ("algorithm", .token c.algorithm.name),
    ("response", .verbatim (c.response username password method uri count cnonce))] ++
  (if c.offersAuth then
    [("qop", .token "auth"), ("nc", .token (countText count)), ("cnonce", .verbatim cnonce)]
  else []) ++
  match c.opaqueValue with
  | some text => [("opaque", .quoted text)]
  | none => []

/-- The value of the `Authorization` header that answers a challenge.  `uri` is the path and query
of the request. -/
def answer (c : Challenge) (credentials : Credentials) (method uri : String) (count : UInt32)
    (cnonce : String) : String :=
  String.ofList ("Digest ".toList ++
    Param.writeAll (c.params credentials.username credentials.password method uri count cnonce))

end Challenge

end FormFetch.Auth.Digest
