import FormFetch.Text.Blank
import FormFetch.Text.Quoted

/-!
# Failures of a request

Why a request got no response.  A failure below HTTP is a chain of causes, the
outermost first; `classify` sorts it by what the causes say, and its message is the
innermost cause.
-/

namespace FormFetch.Http

open FormFetch.Text

/-- The sorts of failures below HTTP. -/
inductive FailureKind where
  | timeout
  | dns
  | refused
  | tls
  | io
  deriving DecidableEq, Repr

namespace FailureKind

/-- The word for a sort in messages. -/
def label : FailureKind → String
  | timeout => "timeout"
  | dns => "dns"
  | refused => "connection refused"
  | tls => "tls"
  | io => "io"

/-- The word for a sort in reports. -/
def report : FailureKind → String
  | timeout => "Timeout"
  | dns => "Dns"
  | refused => "ConnectionRefused"
  | tls => "Tls"
  | io => "Io"

end FailureKind

/-- Why a request got no response. -/
inductive Failure where
  /-- A failure below HTTP; `causes` are behind it, the outermost first. -/
  | transport (url : String) (kind : FailureKind) (message : String) (causes : List String)
  | invalidUrl (url : String)
  /-- The credentials do not fit into a header field. -/
  | invalidCredentials (url : String)
  /-- The time limit is zero. -/
  | invalidTimeout (url : String)
  deriving DecidableEq, Repr

namespace Failure

/-- A failure of a known sort, without causes. -/
def ofKind (url : String) (kind : FailureKind) (message : String) : Failure :=
  transport url kind message []

/-- No response came in time. -/
def timeout (url : String) : Failure :=
  ofKind url .timeout "request timed out"

/-- The text of a failure. -/
def message : Failure → String
  | transport _ kind message _ => s!"{kind.label} error: {message}"
  | invalidUrl url => s!"invalid URL: {url}"
  | invalidCredentials url =>
    s!"invalid credentials for {url}: not representable as an Authorization header"
  | invalidTimeout url => s!"invalid timeout for {url}: timeout must be greater than zero"

/-- The sort of a failure below HTTP. -/
def kind? : Failure → Option FailureKind
  | transport _ kind _ _ => some kind
  | invalidUrl _ | invalidCredentials _ | invalidTimeout _ => none

/-- The address that was asked for. -/
def url : Failure → String
  | transport url _ _ _ | invalidUrl url | invalidCredentials url | invalidTimeout url => url

/-- The causes behind a failure, the outermost first. -/
def causes : Failure → List String
  | transport _ _ _ causes => causes
  | invalidUrl _ | invalidCredentials _ | invalidTimeout _ => []

/-- The report of a failure without causes. -/
def report : Failure → String
  | transport url kind message _ =>
    let url := quoted url
    let message := quoted message
    s!"Transport \x7b url: {url}, kind: {kind.report}, message: {message}, source: None \x7d"
  | invalidUrl url => s!"InvalidUrl \x7b url: {quoted url} \x7d"
  | invalidCredentials url => s!"InvalidCredentials \x7b url: {quoted url} \x7d"
  | invalidTimeout url => s!"InvalidTimeout \x7b url: {quoted url} \x7d"

end Failure

/-! ## Causes -/

/-- The sorts of system errors that decide the sort of a failure. -/
inductive SystemError where
  | refused
  | timedOut
  | other
  deriving DecidableEq, Repr

/-- One link of a chain of causes. -/
structure Cause where
  text : String
  /-- What the operating system said, if this link is a system error. -/
  system : Option SystemError := none
  deriving DecidableEq, Repr

/-- The word occurs in the text. -/
def mentions (word : String) : List Char → Bool
  | [] => word.isEmpty
  | c :: rest => word.toList.isPrefixOf (c :: rest) || mentions word rest

/-- What one cause says about the sort of the failure. -/
def Cause.kind? (cause : Cause) : Option FailureKind :=
  let text := (lower cause.text).toList
  if cause.system = some .refused then some .refused
  else if cause.system = some .timedOut then some .timeout
  else if ["dns error", "failed to lookup address", "name or service not known",
      "no such host"].any (mentions · text) then some .dns
  else if ["certificate", "tls", "ssl", "handshake"].any (mentions · text) then some .tls
  else if mentions "connection refused" text then some .refused
  else none

/-- The sort of a chain: that of the first cause which tells. -/
def classify (causes : List Cause) : FailureKind :=
  (causes.findSome? Cause.kind?).getD .io

/-- The failure of a chain of causes. -/
def Failure.ofCauses (url : String) (causes : List Cause) : Failure :=
  transport url (classify causes) ((causes.getLast?.map (·.text)).getD "") (causes.map (·.text))

end FormFetch.Http
