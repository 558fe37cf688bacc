import FormFetch.Proofs.Bytes.Hex
import FormFetch.Proofs.Text.Number
import FormFetch.Proofs.Url.Front

/-!
# Origins are known from their texts

The scheme, the host and the port of an address can be written as one text, and no two of them
have the same one.

There are four groups.

* IPv4 addresses.  `Host.ipv4Text_inj` takes their numbers from between the dots, and
  `Host.endsInNumber_ipv4Text` says that their texts are no domain names.
* IPv6 addresses.  `Host.length_ipv6?` says that they have eight pieces.
* The text of an IPv6 address.  `Host.ipv6Parts` is what stands between its colons, and
  `Host.ipv6Text_inj` finds the run of zeros that is left out.
* All hosts and origins.  `Host.Proper` is what is true of the hosts that are read, and
  `Host.text_inj` and `originText_inj` are the results.
-/

namespace FormFetch.Url

open FormFetch.Text
open FormFetch.Bytes (hexOfNat hexOfNat_inj hexOfNat_ne_nil)

theorem toList_toString (n : Nat) : (toString n).toList = Nat.toDigits 10 n := by
  simp [toString]

namespace Host

/-! ## IPv4 addresses -/

/-- The digits of the four numbers of an address. -/
def quad (address : Nat) : List (List Char) :=
  [Nat.toDigits 10 (address / 16777216 % 256), Nat.toDigits 10 (address / 65536 % 256),
    Nat.toDigits 10 (address / 256 % 256), Nat.toDigits 10 (address % 256)]

theorem toList_ipv4Text (address : Nat) :
    (ipv4Text address).toList = ['.'].intercalate (quad address) := by
  show (toString (address / 16777216 % 256) ++ "." ++ toString (address / 65536 % 256) ++ "." ++
    toString (address / 256 % 256) ++ "." ++ toString (address % 256)).toList = _
  simp only [String.toList_append, toList_toString]
  simp [quad, List.intercalate_cons_cons, List.intercalate_singleton]

theorem splitOn_ipv4Text (address : Nat) :
    (ipv4Text address).toList.splitOn '.' = quad address := by
  rw [toList_ipv4Text]
  apply List.splitOn_intercalate
  · intro digits hdigits
    simp only [quad, List.mem_cons, List.not_mem_nil, or_false] at hdigits
    rcases hdigits with rfl | rfl | rfl | rfl <;> exact Number.notMem_toDigits (by decide) _
  · exact List.cons_ne_nil _ _

theorem ipv4Text_inj {a b : Nat} (ha : a < 4294967296) (hb : b < 4294967296)
    (h : ipv4Text a = ipv4Text b) : a = b := by
  have hquad : quad a = quad b := by
    rw [← splitOn_ipv4Text, ← splitOn_ipv4Text, h]
  simp only [quad, List.cons.injEq, and_true] at hquad
  obtain ⟨h3, h2, h1, h0⟩ := hquad
  have h3 := Number.toDigits_inj h3
  have h2 := Number.toDigits_inj h2
  have h1 := Number.toDigits_inj h1
  have h0 := Number.toDigits_inj h0
  omega

/-- The text of an IPv4 address is no domain name. -/
theorem endsInNumber_ipv4Text (address : Nat) :
    endsInNumber (ipv4Text address).toList = true := by
  have hne : Nat.toDigits 10 (address % 256) ≠ [] := Nat.toDigits_ne_nil
  have hlabels : labels (ipv4Text address).toList = quad address := by
    rw [labels, splitOn_ipv4Text]
    simp [quad, hne]
  have hdigits : (Nat.toDigits 10 (address % 256)).all Char.isDigit = true := by
    rw [List.all_eq_true]
    exact fun c hc => Nat.isDigit_of_mem_toDigits (by omega) (by omega) hc
  rw [endsInNumber, hlabels]
  simp [quad, hdigits, hne]

/-- Up to three bytes and a number in the room that they leave are a number of 32 bits. -/
theorem foldl_bytes_lt {high : List Nat} {last : Nat} (hsmall : ∀ n ∈ high, n < 256)
    (hlength : high.length ≤ 3) (hlast : last < Nat.pow 256 (4 - high.length)) :
    high.foldl (fun sum n => sum * 256 + n) 0 * Nat.pow 256 (4 - high.length) + last <
      4294967296 := by
  rcases high with _ | ⟨a, _ | ⟨b, _ | ⟨c, _ | ⟨d, more⟩⟩⟩⟩
  all_goals
    simp only [List.mem_cons, List.not_mem_nil, or_false, forall_eq_or_imp, forall_eq,
      List.length_cons, List.length_nil, List.foldl_cons, List.foldl_nil, Nat.reduceSub,
      Nat.reduceAdd, Nat.pow_eq, Nat.reducePow] at *
    omega

theorem lt_of_ofNumbers? {numbers : List Nat} {address : Nat}
    (h : ofNumbers? numbers = some address) : address < 4294967296 := by
  unfold ofNumbers? at h
  split at h
  · cases h
  · rename_i last others hreverse
    dsimp only at h
    split at h
    · cases h
    · rename_i hlength
      split at h
      · cases h
      · rename_i hbytes
        split at h
        · cases h
        · rename_i hroom
          cases h
          have hsmall : ∀ n ∈ others.reverse, n < 256 := by
            intro n hn
            by_contra hlarge
            exact hbytes (List.any_eq_true.mpr ⟨n, hn, decide_eq_true (by omega)⟩)
          exact foldl_bytes_lt hsmall (by omega) (by omega)

/-! ## IPv6 addresses -/

theorem length_quadPieces? {text : List Char} {tail : List Nat}
    (h : quadPieces? text = some tail) : tail.length = 2 := by
  unfold quadPieces? at h
  obtain ⟨numbers, -, h⟩ := Option.bind_eq_some_iff.mp h
  split at h
  · cases h
    rfl
  · cases h

/-- What has been read never has more than eight pieces. -/
theorem length_pieces?_le {pieces : List Nat} {gap : Option Nat} {input : List Char}
    {found : List Nat × Option Nat} (hlength : pieces.length ≤ 8)
    (h : pieces? pieces gap input = some found) : found.1.length ≤ 8 := by
  induction hinput : input.length using Nat.strongRecOn generalizing pieces gap input with
  | ind n ih =>
    have hmore : ∀ piece gap rest, pieces.length ≠ 8 → rest.length < n →
        pieces? (pieces ++ [piece]) gap rest = some found → found.1.length ≤ 8 := by
      intro piece gap rest hroom hrest h
      refine ih rest.length hrest ?_ h rfl
      rw [List.length_append, List.length_singleton]
      omega
    rw [pieces?.eq_def] at h
    split at h
    · cases h
      exact hlength
    · rename_i rest
      split at h
      · cases h
      · rename_i hroom
        rw [not_or] at hroom
        rw [List.length_cons] at hinput
        exact hmore _ _ _ hroom.1 (by omega) h
    · rename_i first more hcolon
      split at h
      · cases h
      · rename_i hroom
        rw [List.length_cons] at hinput
        dsimp only at h
        split at h
        · split at h
          · cases h
          · obtain ⟨tail, htail, rfl⟩ := Option.map_eq_some_iff.mp h
            rw [List.length_append, length_quadPieces? htail]
            omega
        · cases h
        · refine hmore _ _ _ hroom ?_ h
          rw [List.length_drop]
          omega
        · cases h
          rw [List.length_append, List.length_singleton]
          omega
        · cases h

/-- An IPv6 address has eight pieces. -/
theorem length_ipv6? {text : List Char} {pieces : List Nat} (h : ipv6? text = some pieces) :
    pieces.length = 8 := by
  have hfill : ∀ {found : List Nat × Option Nat}, found.1.length ≤ 8 →
      fill? found.1 found.2 = some pieces → pieces.length = 8 := by
    rintro ⟨found, gap⟩ hlength h
    unfold fill? at h
    split at h
    · cases h
      simp only [List.length_append, List.length_take, List.length_replicate, List.length_drop]
      dsimp only at hlength
      omega
    · split at h
      · cases h
        assumption
      · cases h
  unfold ipv6? at h
  dsimp only at h
  split at h
  · obtain ⟨found, hfound, h⟩ := Option.bind_eq_some_iff.mp h
    exact hfill (length_pieces?_le (by decide) hfound) h
  · cases h
  · cases h
  · cases h
  · obtain ⟨found, hfound, h⟩ := Option.bind_eq_some_iff.mp h
    exact hfill (length_pieces?_le (by decide) hfound) h

/-! ## The text of an IPv6 address -/

/-- The zeros at the start of a list. -/
theorem take_of_le_leadingZeros {n : Nat} {pieces : List Nat} (h : n ≤ leadingZeros pieces) :
    pieces.take n = List.replicate n 0 := by
  induction pieces generalizing n with
  | nil =>
    have hn : n = 0 := Nat.le_zero.mp h
    rw [hn]
    rfl
  | cons piece rest ih =>
    cases n with
    | zero => rfl
    | succ n =>
      unfold leadingZeros at h
      by_cases hzero : piece = 0
      · rw [List.takeWhile_cons_of_pos (by simp [hzero]), List.length_cons] at h
        rw [List.take_succ_cons, List.replicate_succ, hzero, ih (Nat.le_of_succ_le_succ h)]
      · rw [List.takeWhile_cons_of_neg (by simp [hzero])] at h
        exact absurd h (Nat.not_succ_le_zero n)

/-- The run that is left out is one of zeros. -/
theorem longestRun_le (pieces : List Nat) :
    (longestRun pieces).2 ≤ leadingZeros (pieces.drop (longestRun pieces).1) := by
  have hfold : ∀ (starts : List Nat) (best : Nat × Nat),
      best.2 ≤ leadingZeros (pieces.drop best.1) →
      let last := starts.foldl (fun best i =>
        let run := leadingZeros (pieces.drop i)
        if best.2 < run then (i, run) else best) best
      last.2 ≤ leadingZeros (pieces.drop last.1) := by
    intro starts
    induction starts with
    | nil => exact fun best h => h
    | cons i rest ih =>
      intro best h
      apply ih
      dsimp only
      split
      · exact Nat.le_refl _
      · exact h
  exact hfold _ (0, 0) (Nat.zero_le _)

/-- A run of zeros stands between what is before it and what is behind it. -/
theorem eq_append_of_le_leadingZeros {pieces : List Nat} {start run : Nat}
    (h : run ≤ leadingZeros (pieces.drop start)) :
    pieces = pieces.take start ++ (List.replicate run 0 ++ pieces.drop (start + run)) := by
  rw [← take_of_le_leadingZeros h, ← List.drop_drop, List.take_append_drop,
    List.take_append_drop]

/-- What stands between the colons of some pieces; there is something even for none. -/
def side (pieces : List Nat) : List (List Char) :=
  if pieces = [] then [[]] else pieces.map hexOfNat

/-- What stands between the colons of an address. -/
def ipv6Parts (pieces : List Nat) : List (List Char) :=
  let found := longestRun pieces
  if found.2 < 2 then pieces.map hexOfNat
  else side (pieces.take found.1) ++ [] :: side (pieces.drop (found.1 + found.2))

theorem nil_notMem_hexOfNat (pieces : List Nat) : [] ∉ pieces.map hexOfNat := by
  intro hmem
  obtain ⟨n, -, hn⟩ := List.mem_map.mp hmem
  exact hexOfNat_ne_nil n hn

theorem colon_notMem_side {pieces : List Nat} {part : List Char} (h : part ∈ side pieces) :
    ':' ∉ part := by
  unfold side at h
  split at h
  · rw [List.mem_singleton.mp h]
    exact List.not_mem_nil
  · obtain ⟨n, -, rfl⟩ := List.mem_map.mp h
    exact Bytes.notMem_hexOfNat (by decide) n

theorem side_ne_nil (pieces : List Nat) : side pieces ≠ [] := by
  unfold side
  split
  · exact List.cons_ne_nil _ _
  · simpa

theorem intercalate_side (pieces : List Nat) :
    [':'].intercalate (side pieces) = joinPieces pieces := by
  unfold side joinPieces
  split
  · rename_i hnil
    rw [hnil]
    rfl
  · rfl

theorem intercalate_append {sep : List Char} {xs ys : List (List Char)} (hxs : xs ≠ [])
    (hys : ys ≠ []) :
    sep.intercalate (xs ++ ys) = sep.intercalate xs ++ sep ++ sep.intercalate ys := by
  induction xs with
  | nil => exact absurd rfl hxs
  | cons x rest ih =>
    obtain ⟨y, more, rfl⟩ := List.exists_cons_of_ne_nil hys
    cases rest with
    | nil => rw [List.singleton_append, List.intercalate_cons_cons, List.intercalate_singleton]
    | cons x' rest =>
      rw [List.cons_append, List.cons_append, List.intercalate_cons_cons, ← List.cons_append,
        ih (List.cons_ne_nil _ _), List.intercalate_cons_cons]
      simp only [List.append_assoc]

theorem ipv6Text_eq (pieces : List Nat) :
    ipv6Text pieces = [':'].intercalate (ipv6Parts pieces) := by
  unfold ipv6Text ipv6Parts
  dsimp only
  split
  · rfl
  · have hback : ∀ ps, [':'].intercalate ([] :: side ps) = ':' :: joinPieces ps := by
      intro ps
      show [':'].intercalate ([[]] ++ side ps) = _
      rw [intercalate_append (List.cons_ne_nil _ _) (side_ne_nil ps), intercalate_side,
        List.intercalate_singleton]
      rfl
    rw [intercalate_append (side_ne_nil _) (List.cons_ne_nil _ _), hback, intercalate_side]
    simp

/-- The colons of an address show its parts. -/
theorem splitOn_ipv6Text {pieces : List Nat} (h : pieces ≠ []) :
    (ipv6Text pieces).splitOn ':' = ipv6Parts pieces := by
  rw [ipv6Text_eq]
  apply List.splitOn_intercalate
  · intro part hpart
    unfold ipv6Parts at hpart
    dsimp only at hpart
    split at hpart
    · obtain ⟨n, -, rfl⟩ := List.mem_map.mp hpart
      exact Bytes.notMem_hexOfNat (by decide) n
    · rcases List.mem_append.mp hpart with hfront | hback
      · exact colon_notMem_side hfront
      · rcases List.mem_cons.mp hback with rfl | hback
        · exact List.not_mem_nil
        · exact colon_notMem_side hback
  · unfold ipv6Parts
    dsimp only
    split
    · simpa using h
    · simp

theorem side_inj {ps qs : List Nat} (h : side ps = side qs) : ps = qs := by
  have hnil : ∀ ps : List Nat, [[]] = ps.map hexOfNat → False := by
    intro ps heq
    exact nil_notMem_hexOfNat ps (heq ▸ List.mem_singleton_self [])
  unfold side at h
  split at h
  · split at h
    · simp_all
    · exact (hnil qs h).elim
  · split at h
    · exact (hnil ps h.symm).elim
    · exact (List.map_inj_right fun n m => hexOfNat_inj).mp h

/-- What is in front of the run and what is behind it are known from the parts. -/
theorem side_append_inj {ps qs ps' qs' : List Nat}
    (h : side ps ++ [] :: side qs = side ps' ++ [] :: side qs') : ps = ps' ∧ qs = qs' := by
  have hhead : ∀ {ps qs ps' qs' : List Nat}, side ps ++ [] :: side qs = side ps' ++ [] :: side qs' →
      ps = [] → ps' = [] := by
    rintro ps qs (_ | ⟨p, ps'⟩) qs' h rfl
    · rfl
    · simp [side, hexOfNat_ne_nil p] at h
  by_cases hps : ps = []
  · have hps' := hhead h hps
    subst hps hps'
    rw [List.append_cancel_left_eq, List.cons.injEq] at h
    exact ⟨rfl, side_inj h.2⟩
  · have hps' : ps' ≠ [] := fun hnil => hps (hhead h.symm hnil)
    have hfront : side ps = ps.map hexOfNat := if_neg hps
    have hfront' : side ps' = ps'.map hexOfNat := if_neg hps'
    have hboth := append_cons_inj (hfront ▸ nil_notMem_hexOfNat ps)
      (hfront' ▸ nil_notMem_hexOfNat ps') h
    exact ⟨side_inj hboth.1, side_inj hboth.2⟩

/-- Addresses are known from their texts. -/
theorem ipv6Text_inj {ps qs : List Nat} (hps : ps.length = 8) (hqs : qs.length = 8)
    (h : ipv6Text ps = ipv6Text qs) : ps = qs := by
  have hne : ∀ {ps : List Nat}, ps.length = 8 → ps ≠ [] := by
    rintro _ hlength rfl
    cases hlength
  have hparts : ipv6Parts ps = ipv6Parts qs := by
    rw [← splitOn_ipv6Text (hne hps), ← splitOn_ipv6Text (hne hqs), h]
  have hfull : ∀ {ps front back : List Nat},
      ps.map hexOfNat = side front ++ [] :: side back → False := by
    intro ps front back heq
    exact nil_notMem_hexOfNat ps (heq ▸ List.mem_append_right _ (List.mem_cons_self ..))
  have hrun := eq_append_of_le_leadingZeros (longestRun_le ps)
  have hrun' := eq_append_of_le_leadingZeros (longestRun_le qs)
  unfold ipv6Parts at hparts
  dsimp only at hparts
  split at hparts
  · split at hparts
    · exact (List.map_inj_right fun n m => hexOfNat_inj).mp hparts
    · exact (hfull hparts).elim
  · split at hparts
    · exact (hfull hparts.symm).elim
    · obtain ⟨hfront, hback⟩ := side_append_inj hparts
      -- Both have eight pieces, so the runs are of one length.
      have hzeros : (longestRun ps).2 = (longestRun qs).2 := by
        have hlength := congrArg List.length hrun
        have hlength' := congrArg List.length hrun'
        simp only [List.length_append, List.length_replicate] at hlength hlength'
        rw [hfront, hback] at hlength
        omega
      rw [hrun, hrun', hfront, hback, hzeros]

/-! ## All hosts -/

/-- A host as it is read: a domain name is no address of numbers and holds no forbidden character,
and the addresses have their sizes. -/
def Proper : Host → Prop
  | .domain name =>
    endsInNumber name.toList = false ∧ ∀ c ∈ name.toList, Domain.isForbidden c = false
  | .ipv4 address => address < 4294967296
  | .ipv6 pieces => pieces.length = 8

/-- The ASCII form of a name holds no forbidden character. -/
theorem isForbidden_of_ofEncoded? {input name : List Char}
    (h : Domain.ofEncoded? input = some name) : ∀ c ∈ name, Domain.isForbidden c = false := by
  unfold Domain.ofEncoded? at h
  split at h
  · rename_i decoded hdecoded
    have hclean : ∀ written : List Char,
        (if written.any Domain.isForbidden then none else some written) = some name →
          ∀ c ∈ name, Domain.isForbidden c = false := by
      intro written h c hc
      split at h
      · cases h
      · rename_i hnone
        cases h
        rw [Bool.eq_false_iff]
        exact fun hforbidden => hnone (List.any_eq_true.mpr ⟨c, hc, hforbidden⟩)
    unfold Domain.toAscii? at h
    dsimp only at h
    split at h
    · exact hclean _ h
    · obtain ⟨written, -, h⟩ := Option.bind_eq_some_iff.mp h
      exact hclean written h
  · cases h

theorem proper_of_parse? {input : List Char} {host : Host} (h : parse? input = some host) :
    host.Proper := by
  unfold parse? at h
  split at h
  · split at h
    · obtain ⟨pieces, hpieces, rfl⟩ := Option.map_eq_some_iff.mp h
      exact length_ipv6? hpieces
    · cases h
  · obtain ⟨name, hname, h⟩ := Option.bind_eq_some_iff.mp h
    split at h
    · cases h
    · split at h
      · obtain ⟨address, haddress, rfl⟩ := Option.map_eq_some_iff.mp h
        unfold ipv4? at haddress
        obtain ⟨numbers, -, haddress⟩ := Option.bind_eq_some_iff.mp haddress
        obtain ⟨numbers, -, haddress⟩ := Option.bind_eq_some_iff.mp haddress
        exact lt_of_ofNumbers? haddress
      · rename_i hends
        cases h
        rw [Proper, String.toList_ofList]
        exact ⟨Bool.eq_false_iff.mpr hends, isForbidden_of_ofEncoded? hname⟩

/-- A bracket stands in the texts of IPv6 addresses only. -/
theorem bracket_mem_text_iff {host : Host} (h : host.Proper) :
    '[' ∈ host.text.toList ↔ ∃ pieces, host = .ipv6 pieces := by
  cases host with
  | domain name =>
    constructor
    · intro hmem
      exact absurd (h.2 '[' hmem) (by decide)
    · rintro ⟨pieces, heq⟩
      cases heq
  | ipv4 address =>
    constructor
    · intro hmem
      rw [text, toList_ipv4Text] at hmem
      simp [quad, List.intercalate_cons_cons, List.intercalate_singleton,
        Number.notMem_toDigits (c := '[') (by decide)] at hmem
    · rintro ⟨pieces, heq⟩
      cases heq
  | ipv6 pieces =>
    constructor
    · intro _
      exact ⟨pieces, rfl⟩
    · intro _
      simp [text]

/-- Hosts are known from their texts. -/
theorem text_inj {host other : Host} (h : host.Proper) (h' : other.Proper)
    (heq : host.text = other.text) : host = other := by
  have hbracket : (∃ pieces, host = .ipv6 pieces) ↔ ∃ pieces, other = .ipv6 pieces := by
    rw [← bracket_mem_text_iff h, ← bracket_mem_text_iff h', heq]
  cases host with
  | domain name =>
    cases other with
    | domain name' => exact congrArg domain heq
    | ipv4 address =>
      have hends := endsInNumber_ipv4Text address
      rw [← show name = ipv4Text address from heq, h.1] at hends
      cases hends
    | ipv6 pieces =>
      obtain ⟨_, hno⟩ := hbracket.mpr ⟨pieces, rfl⟩
      cases hno
  | ipv4 address =>
    cases other with
    | domain name =>
      have hends := endsInNumber_ipv4Text address
      rw [show ipv4Text address = name from heq, h'.1] at hends
      cases hends
    | ipv4 address' => exact congrArg ipv4 (ipv4Text_inj h h' heq)
    | ipv6 pieces =>
      obtain ⟨_, hno⟩ := hbracket.mpr ⟨pieces, rfl⟩
      cases hno
  | ipv6 pieces =>
    obtain ⟨pieces', rfl⟩ := hbracket.mp ⟨pieces, rfl⟩
    have hinside : '[' :: ipv6Text pieces ++ [']'] = '[' :: ipv6Text pieces' ++ [']'] :=
      String.ofList_inj.mp heq
    rw [List.append_cancel_right_eq, List.cons.injEq] at hinside
    exact congrArg ipv6 (ipv6Text_inj h h' hinside.2)

end Host

/-! ## Origins -/

/-- The address of a text leads to a host as it is read. -/
theorem proper_of_parse? {text : String} {url : Url} (h : parse? text = some url) :
    url.host.Proper := by
  have horigin : origin? (significant text.toList) = some url.origin := by
    rw [← map_origin_parse?, h]
    rfl
  obtain ⟨scheme, rest, -, hauthority, -⟩ := exists_of_origin? horigin
  unfold originAt? at hauthority
  dsimp only at hauthority
  split at hauthority
  · cases hauthority
  · obtain ⟨host, hhost, hport⟩ := Option.bind_eq_some_iff.mp hauthority
    obtain ⟨port, -, hfound⟩ := Option.bind_eq_some_iff.mp hport
    rw [show url.host = host from congrArg (·.2.1) (Option.some.inj hfound).symm]
    exact Host.proper_of_parse? hhost

/-- Scheme, host and port as one text, the port also if it is the scheme's own. -/
def originText (o : Scheme × Host × Nat) : String :=
  s!"{o.1.name}://{o.2.1.text}:{o.2.2}"

theorem toList_originText (o : Scheme × Host × Nat) :
    (originText o).toList =
      o.1.name.toList ++ ':' :: ('/' :: '/' :: (o.2.1.text.toList ++ ':' ::
        Nat.toDigits 10 o.2.2)) := by
  show (o.1.name ++ "://" ++ o.2.1.text ++ ":" ++ toString o.2.2).toList = _
  simp only [String.toList_append, toList_toString]
  simp

/-- Origins are known from their texts: the first colon ends the scheme and the last one the
host, whatever colons the host has itself. -/
theorem originText_inj {o o' : Scheme × Host × Nat} (h : o.2.1.Proper) (h' : o'.2.1.Proper)
    (heq : originText o = originText o') : o = o' := by
  obtain ⟨scheme, host, port⟩ := o
  obtain ⟨scheme', host', port'⟩ := o'
  have hname : ∀ scheme : Scheme, ':' ∉ scheme.name.toList := by
    intro scheme
    cases scheme <;> decide
  have hlist := congrArg String.toList heq
  rw [toList_originText, toList_originText] at hlist
  obtain ⟨hscheme, hrest⟩ := append_cons_inj (hname scheme) (hname scheme') hlist
  rw [List.cons.injEq, List.cons.injEq] at hrest
  obtain ⟨hhost, hport⟩ := append_cons_inj_right (Number.notMem_toDigits (by decide) port)
    (Number.notMem_toDigits (by decide) port') hrest.2.2
  have hscheme : scheme = scheme' := by
    cases scheme <;> cases scheme' <;> first | rfl | exact absurd hscheme (by decide)
  have hhost := Host.text_inj h h' (String.toList_inj.mp hhost)
  have hport := Number.toDigits_inj hport
  dsimp only at hhost hport
  rw [hscheme, hhost, hport]

end FormFetch.Url
