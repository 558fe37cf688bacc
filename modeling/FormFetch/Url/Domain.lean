import FormFetch.Url.Label
import FormFetch.Url.Percent

/-!
# Domain names

The ASCII form of a domain name as it stands in an address: percent-decoded,
mapped to lower case, and with each label outside ASCII written in Punycode.
-/

namespace FormFetch.Url.Domain

open FormFetch.Text

/-- The ASCII characters that no domain name may hold. -/
def isForbidden (c : Char) : Bool :=
  c.toNat ≤ 0x20 || c.toNat == 0x7F || "#/:<>?@[\\]^|%".toList.contains c

/-- A name in lower case that is plain ASCII: no label of it is a written form of another. -/
def isSimple (name : List Char) : Bool :=
  Label.isAscii name && !(name.splitOn '.').any ("xn--".toList.isPrefixOf ·)

/-- The labels of a name, each with its own characters. -/
def labels? (name : List Char) : Option (List (List Char)) := do
  let name ← Mapping.name? name
  let labels ← ((NormalForm.compose name).splitOn '.').mapM Label.read?
  if labels.any Label.isRightToLeft && !labels.all Label.keepsOrder then none
  else some labels

/-- The ASCII form of a name, or `none` for a name that has none. -/
def toAscii? (name : List Char) : Option (List Char) := do
  let lower := name.map Char.toLower
  let written ←
    if isSimple lower then some lower
    else (labels? name).map fun labels => ['.'].intercalate (labels.map Label.written)
  if written.any isForbidden then none else some written

/-- The ASCII form of a name as it stands in an address. -/
def ofEncoded? (input : List Char) : Option (List Char) :=
  match Utf8.decode (Percent.decode (Utf8.encode input)) with
  | .ok name => toAscii? name
  | .error _ => none

end FormFetch.Url.Domain
