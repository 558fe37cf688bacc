import FormFetch.Auth.Basic
import FormFetch.Proofs.Bytes.Base64
import FormFetch.Proofs.Http.Fields
import FormFetch.Proofs.Text.Trim

/-!
# Basic credentials in a field

Base64 is printable, so that Basic credentials fit into a header field whatever the
username and the password are; and a server that undoes the steps of the writer finds
them there.

* `fieldValue?_authorization`: the credentials can always be sent.
* `parted?_eq_some_iff`: a text is parted at its first colon.
* `credentials?_eq_some_iff`: a server finds credentials in no other value than the one
  that is written for them.
* `credentials?_authorization`: names without a colon, and their passwords, come back.
-/

namespace FormFetch.Auth.Basic

open FormFetch.Text FormFetch.Http

theorem isVisible_digit : ∀ n < 64, isVisible (Bytes.Base64.digit n) = true := by
  decide

theorem isVisible_of_mem_encode {bytes : List UInt8} {c : Char}
    (h : c ∈ Bytes.Base64.encode bytes) : isVisible c = true := by
  have hpad : isVisible '=' = true := by
    decide
  induction bytes using Bytes.Base64.encode.induct with
  | case1 => cases h
  | case2 a =>
    have ha := a.toNat_lt
    simp only [Bytes.Base64.encode, List.mem_cons, List.not_mem_nil, or_false] at h
    rcases h with rfl | rfl | rfl | rfl
    · exact isVisible_digit _ (by omega)
    · exact isVisible_digit _ (by omega)
    · exact hpad
    · exact hpad
  | case3 a b =>
    have ha := a.toNat_lt
    have hb := b.toNat_lt
    simp only [Bytes.Base64.encode, List.mem_cons, List.not_mem_nil, or_false] at h
    rcases h with rfl | rfl | rfl | rfl
    · exact isVisible_digit _ (by omega)
    · exact isVisible_digit _ (by omega)
    · exact isVisible_digit _ (by omega)
    · exact hpad
  | case4 a b d rest ih =>
    have ha := a.toNat_lt
    have hb := b.toNat_lt
    have hd := d.toNat_lt
    simp only [Bytes.Base64.encode, List.mem_cons] at h
    rcases h with rfl | rfl | rfl | rfl | h
    · exact isVisible_digit _ (by omega)
    · exact isVisible_digit _ (by omega)
    · exact isVisible_digit _ (by omega)
    · exact isVisible_digit _ (by omega)
    · exact ih h

/-- Basic credentials can always be sent. -/
theorem fieldValue?_authorization (username password : String) :
    fieldValue? (authorization username password) =
      some (Utf8.bytes (authorization username password)) := by
  have hscheme : ∀ c ∈ "Basic ".toList, isVisible c = true :=
    List.all_eq_true.mp (by decide)
  refine fieldValue?_of_all ?_
  unfold authorization
  rw [String.toList_ofList]
  exact List.forall_mem_append.mpr ⟨fun c hc => isFieldChar_of_isVisible (hscheme c hc),
    fun c hc => isFieldChar_of_isVisible (isVisible_of_mem_encode hc)⟩

/-! ## Reading -/

/-- What stands in front of the value of the credentials. -/
def scheme : List Char :=
  "Basic ".toList

/-- What stands in front of the first colon of a text, and what stands behind it. -/
def parted? (cs : List Char) : Option (String × String) :=
  match cs.dropWhile (· != ':') with
  | [] => none
  | _ :: behind => some (String.ofList (cs.takeWhile (· != ':')), String.ofList behind)

/-- The username and the password that a server finds in the value of an `Authorization` header:
behind the scheme stands Base64, of the UTF-8 of a text that the first colon parts. -/
def credentials? (value : String) : Option (String × String) :=
  if scheme <+: value.toList then
    ((Bytes.Base64.decode (value.toList.drop scheme.length)).bind Utf8.string?).bind
      fun text => parted? text.toList
  else none

theorem parted?_eq_some_iff {cs : List Char} {username password : String} :
    parted? cs = some (username, password) ↔
      ':' ∉ username.toList ∧ cs = username.toList ++ ':' :: password.toList := by
  constructor
  · intro h
    rcases dropWhile_ne_cases ':' cs with ⟨-, hnone⟩ | ⟨front, back, rfl, hfront, htake, hdrop⟩
    · rw [parted?, hnone] at h
      cases h
    · rw [parted?, htake, hdrop] at h
      obtain ⟨rfl, rfl⟩ := Prod.mk.inj (Option.some.inj h)
      rw [String.toList_ofList, String.toList_ofList]
      exact ⟨hfront, rfl⟩
  · rintro ⟨hname, rfl⟩
    rw [parted?, dropWhile_ne_append hname, takeWhile_ne_append hname]
    simp only [String.ofList_toList]

theorem toList_authorization (username password : String) :
    (authorization username password).toList =
      scheme ++ Bytes.Base64.encode (Utf8.bytes (username ++ ":" ++ password)) :=
  String.toList_ofList

theorem toList_pair (username password : String) :
    (username ++ ":" ++ password).toList = username.toList ++ ':' :: password.toList := by
  rw [String.toList_append, String.toList_append, List.append_assoc]
  rfl

/-- Credentials are found in the value that is written for them, and in no other one. -/
theorem credentials?_eq_some_iff {value username password : String} :
    credentials? value = some (username, password) ↔
      ':' ∉ username.toList ∧ value = authorization username password := by
  constructor
  · intro h
    rw [credentials?] at h
    split at h
    · rename_i hscheme
      obtain ⟨text, htext, hparts⟩ := Option.bind_eq_some_iff.mp h
      obtain ⟨bytes, hbytes, htext⟩ := Option.bind_eq_some_iff.mp htext
      obtain ⟨hname, hpair⟩ := parted?_eq_some_iff.mp hparts
      have hpairText : text = username ++ ":" ++ password :=
        String.toList_inj.mp (hpair.trans (toList_pair username password).symm)
      have hwritten : Bytes.Base64.encode (Utf8.bytes (username ++ ":" ++ password)) =
          value.toList.drop scheme.length := by
        rw [← hpairText, ← Utf8.string?_eq_some_iff.mp htext]
        exact Bytes.Base64.decode_eq_some_iff.mp hbytes
      refine ⟨hname, String.toList_inj.mp ?_⟩
      rw [toList_authorization, hwritten]
      exact (List.prefix_iff_eq_append.mp hscheme).symm
    · cases h
  · rintro ⟨hname, rfl⟩
    rw [credentials?, toList_authorization, if_pos (List.prefix_append ..), List.drop_left,
      Bytes.Base64.decode_encode, Option.bind_some, Utf8.string?_bytes, Option.bind_some,
      toList_pair]
    exact parted?_eq_some_iff.mpr ⟨hname, rfl⟩

/-- A username without a colon comes back with its password, and another such pair has another
value. -/
theorem credentials?_authorization {username : String} (hname : ':' ∉ username.toList)
    (password : String) :
    credentials? (authorization username password) = some (username, password) ∧
      ∀ username' password' : String, ':' ∉ username'.toList →
        authorization username' password' = authorization username password →
          username' = username ∧ password' = password := by
  have hread : credentials? (authorization username password) = some (username, password) :=
    credentials?_eq_some_iff.mpr ⟨hname, rfl⟩
  refine ⟨hread, fun username' password' hname' hsame => ?_⟩
  have hread' := credentials?_eq_some_iff.mpr ⟨hname', hsame.symm⟩
  rw [hread] at hread'
  obtain ⟨rfl, rfl⟩ := Prod.mk.inj (Option.some.inj hread')
  exact ⟨rfl, rfl⟩

theorem credentials?_authorization_zoe :
    ':' ∉ "zoë".toList ∧
      credentials? (authorization "zoë" ":a:é:") = some ("zoë", ":a:é:") ∧
        ∀ username' password' : String, ':' ∉ username'.toList →
          authorization username' password' = authorization "zoë" ":a:é:" →
            username' = "zoë" ∧ password' = ":a:é:" := by
  have hname : ':' ∉ "zoë".toList := by decide
  exact ⟨hname, credentials?_authorization hname ":a:é:"⟩

end FormFetch.Auth.Basic
