import FormFetch.Credentials.Basic
import FormFetch.Json.Scan
import FormFetch.Text.Quoted

/-!
# Credentials as JSON

A list of credentials is kept as a JSON list of objects with the members
`server_url`, `username` and `password`.

`write` gives the one compact form.  `read` takes any spelling of it: blanks, other
orders of the members, members of other names, and a list of three strings in place
of an object.
-/

namespace FormFetch.Json.Entries

open FormFetch.Text

/-! ## Writing -/

/-- One character inside a JSON string. -/
def escapeChar (c : Char) : List Char :=
  if c = '"' then ['\\', '"']
  else if c = '\\' then ['\\', '\\']
  else if c = '\x08' then ['\\', 'b']
  else if c = '\x0c' then ['\\', 'f']
  else if c = '\n' then ['\\', 'n']
  else if c = '\r' then ['\\', 'r']
  else if c = '\t' then ['\\', 't']
  else if c.toNat < 0x20 then '\\' :: 'u' :: Bytes.hexPadded 4 c.toNat
  else [c]

/-- A string between quotes. -/
def writeString (s : String) : List Char :=
  '"' :: s.toList.flatMap escapeChar ++ ['"']

/-- A member of an object. -/
def writeMember (name value : String) : List Char :=
  writeString name ++ ':' :: writeString value

/-- One entry. -/
def writeEntry (c : Credentials) : List Char :=
  '\x7b' :: writeMember "server_url" c.serverUrl ++
    ',' :: writeMember "username" c.username ++
    ',' :: writeMember "password" c.password ++ ['\x7d']

/-- The text of a list of entries. -/
def writeChars (entries : List Credentials) : List Char :=
  '[' :: [','].intercalate (entries.map writeEntry) ++ [']']

/-- The bytes of a list of entries. -/
def write (entries : List Credentials) : List UInt8 :=
  Utf8.encode (writeChars entries)

/-! ## Values of the wrong kind -/

/-- The failure for a value that is not of the kind `wanted`.  Simple values are read to their end
first, and may be malformed. -/
def unexpected (wanted : String) (input : List UInt8) : Failure :=
  let after (found : String) (rest : List UInt8) := here (.unexpected found wanted) rest
  let word (letters : String) (found : String) (rest : List UInt8) :=
    match readWord letters.toList rest with
    | .error failure => failure
    | .ok rest => after found rest
  let number (positive : Bool) (rest : List UInt8) :=
    match readNumber positive rest with
    | .error failure => failure
    | .ok (n, rest) => after n.describe rest
  match input with
  | [] => beyond .expectedValue input
  | b :: rest =>
    if b = byte 'n' then word "ull" "null" rest
    else if b = byte 't' then word "rue" "boolean `true`" rest
    else if b = byte 'f' then word "alse" "boolean `false`" rest
    else if b = byte '-' then number false rest
    else if isDigit b then number true input
    else if b = byte '"' then
      match readString rest with
      | .error failure => failure
      | .ok (s, rest) => after s!"string {quoted s}" rest
    else if b = byte '[' then after "sequence" input
    else if b = byte '\x7b' then after "map" input
    else beyond .expectedValue input

/-- A string value. -/
def readText (input : List UInt8) : Except Failure (String × List UInt8) :=
  match skipSpace input with
  | [] => .error (here .endInValue [])
  | b :: rest =>
    if b = byte '"' then readString rest else .error (unexpected "a string" (b :: rest))

/-! ## Lists -/

/-- What comes next inside a list. -/
inductive Next where
  /-- The end, of which the bracket is left to read. -/
  | close (rest : List UInt8)
  /-- An item. -/
  | item (rest : List UInt8)

/-- Looks for the next item of a list; `first` says that none was read yet. -/
def nextItem (first : Bool) (input : List UInt8) : Except Failure Next :=
  match skipSpace input with
  | [] => .error (here .endInList [])
  | b :: rest =>
    if b = byte ']' then .ok (.close (b :: rest))
    else if first then .ok (.item (b :: rest))
    else if b = byte ',' then
      match skipSpace rest with
      | [] => .error (here .endInValue [])
      | c :: rest =>
        if c = byte ']' then .error (beyond .trailingComma (c :: rest)) else .ok (.item (c :: rest))
    else .error (beyond .expectedListCommaOrEnd (b :: rest))

/-- Ends a list: what follows it, or the failure and the place where reading stopped. -/
def closeList (input : List UInt8) : Except (Failure × List UInt8) (List UInt8) :=
  match skipSpace input with
  | [] => .error (here .endInList [], [])
  | b :: rest =>
    if b = byte ']' then .ok rest
    else if b = byte ',' then
      let rest := skipSpace rest
      .error (beyond (if rest.head? = some (byte ']') then .trailingComma else .trailingCharacters)
        rest, rest)
    else .error (beyond .trailingCharacters (b :: rest), b :: rest)

/-- Ends an object: what follows it, or the failure and the place where reading stopped. -/
def closeObject (input : List UInt8) : Except (Failure × List UInt8) (List UInt8) :=
  match skipSpace input with
  | [] => .error (here .endInObject [], [])
  | b :: rest =>
    if b = byte '\x7d' then .ok rest
    else if b = byte ',' then .error (beyond .trailingComma (b :: rest), b :: rest)
    else .error (beyond .trailingCharacters (b :: rest), b :: rest)

/-- Where an attempt to end a list or an object stops. -/
def stop (closing : Except (Failure × List UInt8) (List UInt8)) : List UInt8 :=
  match closing with
  | .ok rest => rest
  | .error (_, rest) => rest

/-- The end of a value that is complete. -/
def finish {α : Type} (value : α) (closing : Except (Failure × List UInt8) (List UInt8)) :
    Except Failure (α × List UInt8) :=
  match closing with
  | .ok rest => .ok (value, rest)
  | .error (failure, _) => .error failure

/-! ## Entries -/

/-- What reports call an entry. -/
def entryName : String :=
  "struct PersistedCredential"

/-- The next string of an entry that is written as a list; `count` strings came before. -/
def readPart (count : Nat) (input : List UInt8) : Except Failure (String × List UInt8) :=
  match nextItem (count == 0) input with
  | .error failure => .error failure
  | .ok (.close rest) =>
    .error (here (.length count s!"{entryName} with 3 elements") (stop (closeList rest)))
  | .ok (.item rest) => readText rest

/-- An entry that is written as a list of its three strings, read after the bracket. -/
def readParts (input : List UInt8) : Except Failure (Credentials × List UInt8) :=
  match readPart 0 input with
  | .error failure => .error failure
  | .ok (serverUrl, rest) =>
    match readPart 1 rest with
    | .error failure => .error failure
    | .ok (username, rest) =>
      match readPart 2 rest with
      | .error failure => .error failure
      | .ok (password, rest) => finish ⟨serverUrl, username, password⟩ (closeList rest)

/-- The members of an entry. -/
inductive Member where
  | serverUrl
  | username
  | password
  deriving DecidableEq, Repr

/-- The member of a name. -/
def Member.ofName? (name : String) : Option Member :=
  if name = "server_url" then some .serverUrl
  else if name = "username" then some .username
  else if name = "password" then some .password
  else none

/-- The name of a member. -/
def Member.name : Member → String
  | .serverUrl => "server_url"
  | .username => "username"
  | .password => "password"

/-- The members of an entry that were read so far. -/
structure Members where
  serverUrl : Option String := none
  username : Option String := none
  password : Option String := none

/-- The value of a member. -/
def Members.get? (m : Members) : Member → Option String
  | .serverUrl => m.serverUrl
  | .username => m.username
  | .password => m.password

/-- The members with one more. -/
def Members.put (m : Members) (member : Member) (value : String) : Members :=
  match member with
  | .serverUrl => { m with serverUrl := some value }
  | .username => { m with username := some value }
  | .password => { m with password := some value }

/-- The entry of all three members, or the first member that is missing. -/
def Members.entry (m : Members) : Except Member Credentials :=
  match m.serverUrl, m.username, m.password with
  | some serverUrl, some username, some password => .ok ⟨serverUrl, username, password⟩
  | none, _, _ => .error .serverUrl
  | _, none, _ => .error .username
  | _, _, none => .error .password

/-- Looks for the next key of an object; `first` says that none was read yet.  A key starts behind
its opening quote. -/
def nextKey (first : Bool) (input : List UInt8) : Except Failure Next :=
  match skipSpace input with
  | [] => .error (here .endInObject [])
  | b :: rest =>
    if b = byte '\x7d' then .ok (.close (b :: rest))
    else if first then
      if b = byte '"' then .ok (.item rest) else .error (beyond .keyNotString (b :: rest))
    else if b = byte ',' then
      match skipSpace rest with
      | [] => .error (here .endInValue [])
      | c :: rest =>
        if c = byte '"' then .ok (.item rest)
        else if c = byte '\x7d' then .error (beyond .trailingComma (c :: rest))
        else .error (beyond .keyNotString (c :: rest))
    else .error (beyond .expectedObjectCommaOrEnd (b :: rest))

/-- The colon after a key. -/
def readColon (input : List UInt8) : Except Failure (List UInt8) :=
  match skipSpace input with
  | [] => .error (here .endInObject [])
  | b :: rest => if b = byte ':' then .ok rest else .error (beyond .expectedColon (b :: rest))

/-- The member after `known`, read behind the opening quote of its key. -/
def readMember (known : Members) (input : List UInt8) : Except Failure (Members × List UInt8) :=
  match readString input with
  | .error failure => .error failure
  | .ok (name, rest) =>
    match Member.ofName? name with
    | none =>
      match readColon rest with
      | .error failure => .error failure
      | .ok rest => (skip rest).map fun rest => (known, rest)
    | some member =>
      if (known.get? member).isSome then
        .error (here (.duplicate member.name) (stop (closeObject rest)))
      else
        match readColon rest with
        | .error failure => .error failure
        | .ok rest => (readText rest).map fun (value, rest) => (known.put member value, rest)

/-- The members of an entry up to its end.  `fuel` bounds their number. -/
def readMembers (fuel : Nat) (first : Bool) (known : Members) (input : List UInt8) :
    Except Failure (Credentials × List UInt8) :=
  match fuel with
  | 0 => .error (here .endInObject input)
  | fuel + 1 =>
    match nextKey first input with
    | .error failure => .error failure
    | .ok (.close rest) =>
      match known.entry with
      | .ok entry => finish entry (closeObject rest)
      | .error member => .error (here (.missing member.name) (stop (closeObject rest)))
    | .ok (.item rest) =>
      match readMember known rest with
      | .error failure => .error failure
      | .ok (known, rest) => readMembers fuel false known rest

/-- One entry. -/
def readEntry (input : List UInt8) : Except Failure (Credentials × List UInt8) :=
  match skipSpace input with
  | [] => .error (here .endInValue [])
  | b :: rest =>
    if b = byte '[' then readParts rest
    else if b = byte '\x7b' then readMembers (rest.length + 1) true {} rest
    else .error (unexpected entryName (b :: rest))

/-- The entries of a list up to its end.  `fuel` bounds their number. -/
def readItems (fuel : Nat) (first : Bool) (input : List UInt8) :
    Except Failure (List Credentials × List UInt8) :=
  match fuel with
  | 0 => .error (here .endInList input)
  | fuel + 1 =>
    match nextItem first input with
    | .error failure => .error failure
    | .ok (.close rest) => finish [] (closeList rest)
    | .ok (.item rest) =>
      match readEntry rest with
      | .error failure => .error failure
      | .ok (entry, rest) =>
        match readItems fuel false rest with
        | .error failure => .error failure
        | .ok (entries, rest) => .ok (entry :: entries, rest)

/-- A list of entries. -/
def readList (input : List UInt8) : Except Failure (List Credentials × List UInt8) :=
  match skipSpace input with
  | [] => .error (here .endInValue [])
  | b :: rest =>
    if b = byte '[' then readItems (rest.length + 1) true rest
    else .error (unexpected "a sequence" (b :: rest))

/-- A whole text that holds a list of entries. -/
def readWhole (input : List UInt8) : Except Failure (List Credentials) :=
  match readList input with
  | .error failure => .error failure
  | .ok (entries, rest) =>
    match skipSpace rest with
    | [] => .ok entries
    | b :: rest => .error (beyond .trailingCharacters (b :: rest))

/-- The entries of a JSON text, or the report of its first fault. -/
def read (input : List UInt8) : Except Report (List Credentials) :=
  (readWhole input).mapError (Report.of input)

end FormFetch.Json.Entries
