import FormFetch.Http.Response
import FormFetch.Text.Number

/-!
# OpenRosa over HTTP

The header fields that mark an OpenRosa server and an OpenRosa client.

* `isOpenRosa` and `acceptedLength?` read a response.
* `requestHeaders` is what a client sends.
-/

namespace FormFetch.OpenRosa

open FormFetch.Text FormFetch.Http

/-- The field that every OpenRosa server sends. -/
def versionField : String :=
  "X-OpenRosa-Version"

/-- The version that the client speaks. -/
def version : String :=
  "1.0"

/-- The field with the size of the largest submission that a server takes. -/
def acceptedLengthField : String :=
  "X-OpenRosa-Accept-Content-Length"

/-- The media type of plain text. -/
def plainText : String :=
  "text/plain"

/-- The media type of XML documents. -/
def xml : String :=
  "text/xml"

/-- How the client names itself. -/
def userAgent : String :=
  "openrosa/0.1.0 (openrosa-client; +https://github.com/openrosa-rs/openrosa)"

/-- ASCII white space. -/
def isAsciiSpace (b : UInt8) : Bool :=
  b == 0x20 || b == 0x09 || b == 0x0A || b == 0x0C || b == 0x0D

/-- A server speaks OpenRosa if the first version field is more than white space. -/
def isOpenRosa (r : Response) : Bool :=
  (r.headers.get? versionField).any fun value => value.any (!isAsciiSpace ·)

/-- The size of the largest submission that the server takes, if it says so. -/
def acceptedLength? (r : Response) : Option Nat :=
  (r.header? acceptedLengthField).bind fun text =>
    (Number.natural 10 Number.max64 (trim text.toList)).toOption

/-- The fields of every request, at the time `date`. -/
def requestHeaders (date : String) : Headers :=
  (Headers.insert {} versionField (Utf8.bytes version)).insert "date" (Utf8.bytes date)

end FormFetch.OpenRosa
