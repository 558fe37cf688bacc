import FormFetch.Credentials.Basic
import FormFetch.Text.Blank
import FormFetch.Text.Quoted

/-!
# The credential store

Usernames and passwords by server address.  An address is kept under its `key`, and
a look-up takes the longest key that covers the wanted address, so that an entry for
`https://a/v1` goes before one for `https://a`.

The entries are in strictly increasing order of their keys.

* `covers_self`: a key that is not empty covers itself.
* `mem_insert_self`, `insert_ne_nil`: an inserted entry is kept.
-/

namespace FormFetch

open Text

/-- The form in which addresses are kept: without blank ends, and without slashes at the end. -/
def addressKey (address : String) : String :=
  String.ofList (dropEndWhile (· == '/') (trim address.toList))

/-- What may follow a key in an address that the key covers. -/
def isBoundary : List Char → Bool
  | [] => true
  | c :: _ => c == '/' || c == '?' || c == '#'

/-- A key covers an address that starts with it and ends there, or goes on with a path, a query or a
fragment.  The empty key covers nothing. -/
def covers (key address : String) : Bool :=
  key ≠ "" && key.toList.isPrefixOf address.toList &&
    isBoundary (address.toList.drop key.toList.length)

/-- Usernames and passwords by server address. -/
structure Store where
  /-- The entries, each under its key, in increasing order of the keys. -/
  entries : List Credentials := []
  /-- The number of changes so far. -/
  revision : Nat := 0
  deriving DecidableEq, Repr, Inhabited

namespace Store

/-- Puts an entry in its place, in place of the entry of the same key. -/
def insert (entry : Credentials) : List Credentials → List Credentials
  | [] => [entry]
  | e :: rest =>
    if entry.serverUrl < e.serverUrl then entry :: e :: rest
    else if entry.serverUrl = e.serverUrl then entry :: rest
    else e :: insert entry rest

/-- The store of some entries, of which a later one replaces an earlier one of the same key. -/
def ofEntries (entries : List Credentials) : Store where
  entries := entries.foldl
    (fun kept c => insert { c with serverUrl := addressKey c.serverUrl } kept) []

/-- Keeps a username and a password for an address. -/
def set (store : Store) (address username password : String) : Store where
  entries := insert ⟨addressKey address, username, password⟩ store.entries
  revision := store.revision + 1

/-- Whether something is kept under an address. -/
def contains (store : Store) (address : String) : Bool :=
  store.entries.any (·.serverUrl == addressKey address)

/-- Forgets what is kept under an address; nothing changes if nothing is. -/
def clear (store : Store) (address : String) : Store :=
  if store.contains address then
    { entries := store.entries.filter (·.serverUrl != addressKey address)
      revision := store.revision + 1 }
  else store

/-- The entry with the longer key, the second of two keys of one length. -/
def longer (best : Option Credentials) (c : Credentials) : Option Credentials :=
  match best with
  | none => some c
  | some b => if b.serverUrl.length ≤ c.serverUrl.length then some c else some b

/-- The entry with the longest key that covers an address. -/
def find? (store : Store) (address : String) : Option Credentials :=
  (store.entries.filter fun c => covers c.serverUrl address).foldl longer none

/-- The credentials for an address, without username and password when nothing is kept for it. -/
def get (store : Store) (address : String) : Credentials :=
  (store.find? (trimmed address)).getD (Credentials.anonymous (trimmed address))

/-- The keys in order. -/
def keys (store : Store) : List String :=
  store.entries.map (·.serverUrl)

/-- The report of a store, which shows no username and no password. -/
def report (store : Store) : String :=
  let keys := ", ".intercalate (store.keys.map quoted)
  s!"CredentialStore \x7b server_urls: [{keys}], .. \x7d"

theorem mem_insert_self (entry : Credentials) (entries : List Credentials) :
    entry ∈ insert entry entries := by
  induction entries with
  | nil => simp [insert]
  | cons e rest ih =>
    unfold insert
    split
    · simp
    · split
      · simp
      · simp [ih]

theorem insert_ne_nil (entry : Credentials) (entries : List Credentials) :
    insert entry entries ≠ [] :=
  List.ne_nil_of_mem (mem_insert_self entry entries)

theorem clear_of_not_contains {store : Store} {address : String}
    (h : store.contains address = false) : store.clear address = store := by
  simp [clear, h]

end Store

/-- A key that is not empty covers itself. -/
theorem covers_self {key : String} (h : key ≠ "") : covers key key = true := by
  simp [covers, h, isBoundary]

end FormFetch
