import FormFetch.Auth.Basic
import FormFetch.Transport.Network
import FormFetch.Url.Percent

/-!
# Redirects

A server may send a client elsewhere.  `follow` goes there, up to a limit: a moved
POST becomes a GET, and fields that are meant for one server only do not go to
another.

* `follow` ends with the address that was answered last and its reply.
-/

namespace FormFetch.Transport

open FormFetch.Http FormFetch.Text

/-- The status codes that move a request without its body. -/
def movesAsGet (status : Nat) : Bool :=
  status == 301 || status == 302 || status == 303

/-- The status codes that move a request as it is. -/
def movesUnchanged (status : Nat) : Bool :=
  status == 307 || status == 308

/-- The address that a reply sends the client to. -/
def Reply.location? (r : Reply) (base : Url) : Option Url.Reference :=
  if movesAsGet r.status || movesUnchanged r.status then
    ((r.headers.get? "location").bind Utf8.string?).map base.join
  else none

/-- The fields that speak of a body. -/
def bodyFields : List String :=
  ["transfer-encoding", "content-encoding", "content-type", "content-length"]

/-- The fields that are meant for one server only. -/
def privateFields : List String :=
  ["authorization", "cookie", "cookie2", "proxy-authorization", "www-authenticate"]

/-- Removes several fields. -/
def eraseAll (headers : Headers) (names : List String) : Headers :=
  names.foldl Headers.erase headers

/-- The same server answers both addresses. -/
def sameServer (a b : Url) : Bool :=
  a.host == b.host && a.effectivePort == b.effectivePort

/-- The address without username and password. -/
def withoutUserInfo (url : Url) : Url :=
  { url with username := "", password := none }

/-- The address that a client says it comes from, unless that would leave a secure connection. -/
def referer? (source target : Url) : Option String :=
  if source.scheme = .https ∧ target.scheme = .http then none
  else some { withoutUserInfo source with fragment := none }.text

/-- The request for the address that a reply with `status` sends the client to. -/
def Outgoing.moved (out : Outgoing) (status : Nat) (target : Url) : Outgoing :=
  let headers :=
    if movesAsGet status then eraseAll out.headers bodyFields else out.headers
  let headers :=
    if sameServer out.url target then headers else eraseAll headers privateFields
  let headers := match referer? out.url target with
    | some text => headers.insert "referer" (Utf8.bytes text)
    | none => headers
  { out with
    method := if movesAsGet status && out.method == .post then .get else out.method
    url := target
    headers
    body := if movesAsGet status then none else out.body }

/-- The number of redirects that are followed. -/
def redirectLimit : Nat :=
  10

/-- The trouble of a redirect that is not followed. -/
def redirectTrouble (url : Url) (reason : String) : Trouble where
  causes := [⟨s!"error following redirect for url ({url.text})", none⟩,
    ⟨reason, none⟩]

/-- Sends a request and follows up to `left` redirects. -/
def follow {σ : Type} (net : Network σ) (left : Nat) (out : Outgoing) (s : σ) :
    Except Trouble (Url × Reply) × σ :=
  match net.exchange out s with
  | (.error t, s) => (.error t, s)
  | (.ok reply, s) =>
    match reply.location? out.url with
    | some (.web target) =>
      match left with
      | 0 => (.error (redirectTrouble target "too many redirects"), s)
      | left + 1 => follow net left (out.moved reply.status target) s
    | some .foreign => (.error (redirectTrouble out.url "URL scheme is not allowed"), s)
    | some .malformed | none => (.ok (out.url, reply), s)

/-- The username and password of an address, if it has any.  What is no UTF-8 behind its escapes
counts as a missing password, and as a username it leaves neither. -/
def userInfo? (url : Url) : Option (String × String) :=
  let plain (text : String) := Utf8.string? (Url.Percent.decode (Utf8.bytes text))
  let password := url.password.bind plain
  match plain url.username with
  | none => none
  | some name => if name = "" ∧ password = none then none else some (name, password.getD "")

/-- The value of an `Authorization` field for the username and password of an address. -/
def userInfoAuthorization? (url : Url) : Option (List UInt8) :=
  (userInfo? url).map fun (name, password) => Utf8.bytes (Auth.Basic.authorization name password)

/-- The address as it goes out; the username and password that it has go into a field. -/
def outgoingUrl (url : Url) : Url :=
  if (userInfo? url).isSome then withoutUserInfo url else url

/-- The fields that go out unless the request has its own. -/
def defaultHeaders : Headers :=
  .ofList [("accept", Utf8.bytes "*/*"), ("accept-encoding", Utf8.bytes "gzip"),
    ("user-agent", Utf8.bytes OpenRosa.userAgent)]

/-- The request as it goes out to `url`, with a value for its `Authorization` field. -/
def outgoing (r : Request) (url : Url) (authorization : Option (List UInt8)) : Outgoing :=
  let own : Headers := match userInfoAuthorization? url with
    | some value => Headers.append {} "authorization" value
    | none => {}
  let headers := (defaultHeaders.override own).override r.headers
  { method := r.method
    url := outgoingUrl url
    headers := match authorization with
      | some value => headers.append "authorization" value
      | none => headers
    body := r.sentBody
    timeout := r.timeout }

end FormFetch.Transport
