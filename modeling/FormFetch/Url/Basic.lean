import FormFetch.Text.Blank
import FormFetch.Url.Host

/-!
# Web addresses

Absolute `http` and `https` addresses as the URL Standard reads them: blanks and
controls at the ends and tabs and line breaks anywhere are dropped, a backslash
counts as a slash, dot segments are resolved, and each part is percent-encoded.

* `Url.parse?` reads an address, `Url.text` writes it.
* `Url.join` resolves a reference against an address.
* `Url.host`, `Url.effectivePort` and `Url.origin` say where an address leads.
-/

namespace FormFetch

/-- The schemes of the web. -/
inductive Url.Scheme where
  | http
  | https
  deriving DecidableEq, Repr

/-- The name of a scheme. -/
def Url.Scheme.name : Url.Scheme → String
  | .http => "http"
  | .https => "https"

/-- The port that an address leads to when it names none. -/
def Url.Scheme.defaultPort : Url.Scheme → Nat
  | .http => 80
  | .https => 443

/-- An absolute address of the web.  All texts are percent-encoded. -/
structure Url where
  scheme : Url.Scheme
  username : String
  password : Option String
  host : Url.Host
  /-- The port, unless it is the scheme's own. -/
  port : Option Nat
  /-- The segments after each slash of the path; never empty. -/
  segments : List String
  query : Option String
  fragment : Option String
  deriving DecidableEq, Repr

namespace Url

open FormFetch.Text

/-! ## Parts -/

/-- The port that the address leads to. -/
def effectivePort (u : Url) : Nat :=
  u.port.getD u.scheme.defaultPort

/-- Scheme, host and port decide which server answers. -/
def origin (u : Url) : Scheme × Host × Nat :=
  (u.scheme, u.host, u.effectivePort)

/-- The path, from its first slash on. -/
def path (u : Url) : String :=
  String.join (u.segments.map ("/" ++ ·))

/-- The path and the query: what a request asks the server for. -/
def target (u : Url) : String :=
  match u.query with
  | some query => u.path ++ "?" ++ query
  | none => u.path

/-- Username and password in front of the host. -/
def userInfo (u : Url) : String :=
  match u.username, u.password with
  | "", none => ""
  | name, none => name ++ "@"
  | name, some password => name ++ ":" ++ password ++ "@"

/-- Host and port, if it is not the scheme's own. -/
def authority (u : Url) : String :=
  match u.port with
  | some port => s!"{u.host.text}:{port}"
  | none => u.host.text

/-- The address as text. -/
def text (u : Url) : String :=
  let fragment := match u.fragment with
    | some fragment => "#" ++ fragment
    | none => ""
  u.scheme.name ++ "://" ++ u.userInfo ++ u.authority ++ u.target ++ fragment

/-! ## Reading -/

/-- Controls and spaces, which are dropped at the ends. -/
def isControlOrSpace (c : Char) : Bool :=
  c.toNat ≤ 0x20

/-- Tabs and line breaks, which are dropped everywhere. -/
def isIgnored (c : Char) : Bool :=
  c == '\t' || c == '\n' || c == '\r'

/-- The characters of an address that count. -/
def significant (cs : List Char) : List Char :=
  (dropEndWhile isControlOrSpace (cs.dropWhile isControlOrSpace)).filter (!isIgnored ·)

/-- Both kinds of slash. -/
def isSlash (c : Char) : Bool :=
  c == '/' || c == '\\'

/-- The start of the query or of the fragment. -/
def endsPath (c : Char) : Bool :=
  c == '?' || c == '#'

/-- The first character after the authority. -/
def endsAuthority (c : Char) : Bool :=
  isSlash c || endsPath c

/-- A character of a scheme's name. -/
def isSchemeChar (c : Char) : Bool :=
  c.isAlphanum || c == '+' || c == '-' || c == '.'

/-- The scheme's name in lower case and what follows its colon. -/
def splitScheme? (input : List Char) : Option (String × List Char) :=
  match input.dropWhile isSchemeChar with
  | ':' :: rest =>
    let name := input.takeWhile isSchemeChar
    if name.head?.any Char.isAlpha then some (String.ofList (name.map Char.toLower), rest)
    else none
  | _ => none

/-- The scheme of a name. -/
def Scheme.ofName? (name : String) : Option Scheme :=
  if name = "http" then some .http
  else if name = "https" then some .https
  else none

/-- What precedes the last `@`, if there is one, and what follows it. -/
def splitUserInfo (authority : List Char) : Option (List Char) × List Char :=
  let after := (authority.reverse.takeWhile (· != '@')).reverse
  if after.length = authority.length then (none, authority)
  else (some (authority.take (authority.length - after.length - 1)), after)

/-- The username and the password of the part before `@`. -/
def readUserInfo (info : List Char) : String × Option String :=
  let name := info.takeWhile (· != ':')
  let password := (info.dropWhile (· != ':')).drop 1
  (String.ofList (Percent.encode Percent.inUserInfo name),
    if password.isEmpty then none
    else some (String.ofList (Percent.encode Percent.inUserInfo password)))

/-- The host and what follows it: a colon between brackets belongs to the host. -/
def splitHost (bracketed : Bool) : List Char → List Char × List Char
  | [] => ([], [])
  | c :: rest =>
    if c = ':' ∧ !bracketed then ([], c :: rest)
    else
      let found := splitHost (if c = '[' then true else if c = ']' then false else bracketed) rest
      (c :: found.1, found.2)

/-- The port after the host: `none` is no port, `some none` the scheme's own. -/
def readPort? (scheme : Scheme) (input : List Char) : Option (Option Nat) :=
  match input with
  | [] => some none
  | _ :: digits =>
    if digits.all Char.isDigit then
      if digits.isEmpty then some none
      else
        match Number.natural 10 65535 digits with
        | .ok port => some (if port = scheme.defaultPort then none else some port)
        | .error _ => none
    else none

/-- A segment that stays where it is. -/
def isSingleDot (segment : List Char) : Bool :=
  let s := segment.map Char.toLower
  s == ['.'] || s == "%2e".toList

/-- A segment that leads up. -/
def isDoubleDot (segment : List Char) : Bool :=
  let s := segment.map Char.toLower
  s == "..".toList || s == ".%2e".toList || s == "%2e.".toList || s == "%2e%2e".toList

/-- A letter with a colon or a bar, which a double dot does not take back. -/
def isDriveLetter (segment : String) : Bool :=
  match segment.toList with
  | [letter, mark] => letter.isAlpha && (mark == ':' || mark == '|')
  | _ => false

/-- The finished segments without their last one. -/
def leave (done : List String) : List String :=
  if done.getLast?.any isDriveLetter then done else done.dropLast

/-- The segments of a path whose finished segments are `done`, each of which a slash follows. -/
def resolve (done : List String) : List (List Char) → List String
  | [] => done ++ [""]
  | [last] =>
    if isDoubleDot last then leave done ++ [""]
    else if isSingleDot last then done ++ [""]
    else done ++ [String.ofList last]
  | segment :: rest =>
    if isDoubleDot segment then resolve (leave done) rest
    else if isSingleDot segment then resolve done rest
    else resolve (done ++ [String.ofList segment]) rest

/-- The raw segments between slashes, percent-encoded. -/
def rawSegments (path : List Char) : List (List Char) :=
  (path.splitOnP isSlash).map (Percent.encode Percent.inPath)

/-- The query of what follows a path. -/
def readQuery (input : List Char) : Option String :=
  match input with
  | '?' :: rest =>
    some (String.ofList (Percent.encode Percent.inQuery (rest.takeWhile (· != '#'))))
  | _ => none

/-- The fragment of what follows a path. -/
def readFragment (input : List Char) : Option String :=
  match input.dropWhile (· != '#') with
  | _ :: rest => some (String.ofList (Percent.encode Percent.inFragment rest))
  | [] => none

/-- The address with the path, the query and the fragment of `input`, which starts after the
finished segments `done`. -/
def withPath (u : Url) (done : List String) (input : List Char) : Url :=
  let rest := input.dropWhile (!endsPath ·)
  { u with
    segments := resolve done (rawSegments (input.takeWhile (!endsPath ·)))
    query := readQuery rest
    fragment := readFragment rest }

/-- The address of what follows the slashes after the scheme. -/
def ofAuthority? (scheme : Scheme) (input : List Char) : Option Url := do
  let (info, hostAndPort) := splitUserInfo (input.takeWhile (!endsAuthority ·))
  let (username, password) := (info.map readUserInfo).getD ("", none)
  let (hostText, portText) := splitHost false hostAndPort
  if hostText.isEmpty then none
  let host ← Host.parse? hostText
  let port ← readPort? scheme portText
  let rest := input.dropWhile (!endsAuthority ·)
  let path := if rest.head?.any isSlash then rest.drop 1 else rest
  return withPath ⟨scheme, username, password, host, port, [], none, none⟩ [] path

/-- Reads an absolute `http` or `https` address. -/
def parse? (input : String) : Option Url := do
  let (name, rest) ← splitScheme? (significant input.toList)
  let scheme ← Scheme.ofName? name
  ofAuthority? scheme (rest.dropWhile isSlash)

/-! ## References -/

/-- The reference `input`, which has no scheme, seen from an address. -/
def joinRelative? (base : Url) (input : List Char) : Option Url :=
  match input with
  | [] => some { base with fragment := none }
  | '#' :: rest =>
    some { base with fragment := some (String.ofList (Percent.encode Percent.inFragment rest)) }
  | '?' :: _ => some { base with query := readQuery input, fragment := readFragment input }
  | first :: rest =>
    if isSlash first then
      if rest.head?.any isSlash then ofAuthority? base.scheme (rest.dropWhile isSlash)
      else some (withPath base [] rest)
    else some (withPath base base.segments.dropLast input)

/-- What a reference leads to. -/
inductive Reference where
  | web (url : Url)
  /-- An address of a scheme other than `http` and `https`. -/
  | foreign
  | malformed
  deriving DecidableEq, Repr

/-- An address that may be missing, as a reference. -/
def Reference.ofOption : Option Url → Reference
  | some url => .web url
  | none => .malformed

/-- Resolves a reference against an address. -/
def join (base : Url) (reference : String) : Reference :=
  let input := significant reference.toList
  match splitScheme? input with
  | none => .ofOption (joinRelative? base input)
  | some (name, rest) =>
    match Scheme.ofName? name with
    | none => .foreign
    | some scheme =>
      if scheme = base.scheme ∧ (rest.takeWhile isSlash).length < 2 then
        .ofOption (joinRelative? base rest)
      else .ofOption (ofAuthority? scheme (rest.dropWhile isSlash))

end Url

end FormFetch
