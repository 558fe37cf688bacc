import FormFetch.Http.Headers
import FormFetch.Proofs.Text.Utf8

/-!
# Header fields and their values

Which values a name has after a change of the fields, and which texts are field values.

* `getAll_append`, `getAll_erase_of_ne`, `getAll_insert_of_ne` and `getAll_override` are
  the changes.
* `fieldValue?_eq` says which texts can be sent, `fieldText?_bytes` that printable ones
  come back, and `isFieldChar_of_fieldText?` that what came can be sent.
-/

namespace FormFetch.Http

open FormFetch.Text

namespace Headers

/-! ## Changes -/

theorem getAll_append (headers : Headers) (name other : String) (value : List UInt8) :
    (headers.append name value).getAll other =
      headers.getAll other ++ if lower name = lower other then [value] else [] := by
  rw [getAll, append, List.filter_append, List.map_append, getAll]
  split
  · rename_i h
    simp [h]
  · rename_i h
    simp [h]

theorem getAll_erase_of_ne (headers : Headers) {name other : String}
    (h : lower name ≠ lower other) : (headers.erase name).getAll other = headers.getAll other := by
  rw [getAll, getAll, erase, List.filter_filter]
  congr 1
  refine List.filter_congr fun f _ => ?_
  by_cases hf : f.1 = lower other
  · simp [hf, h.symm]
  · simp [hf]

theorem getAll_insert_of_ne (headers : Headers) {name other : String} (value : List UInt8)
    (h : lower name ≠ lower other) :
    (headers.insert name value).getAll other = headers.getAll other := by
  rw [insert, getAll_append, if_neg h, List.append_nil, getAll_erase_of_ne headers h]

theorem erase_insert (headers : Headers) (name other : String) (value : List UInt8) :
    (headers.insert name value).erase other =
      if lower name = lower other then headers.erase other
      else (headers.erase other).insert name value := by
  have hcomm : (headers.erase name).erase other = (headers.erase other).erase name := by
    simp only [erase, List.filter_filter, Bool.and_comm]
  split
  · rename_i h
    have hsame : headers.erase name = headers.erase other := by
      rw [erase, erase, h]
    rw [insert, hsame]
    simp [append, erase, h, List.filter_filter]
  · rename_i h
    rw [insert, insert, ← hcomm]
    simp [append, erase, h]

/-- Fields that are the same but for one name are so also when the same ones are added to both. -/
theorem erase_insertAll_congr {headers headers' : Headers} {name : String} (more : Headers)
    (h : headers.erase name = headers'.erase name) :
    (headers.insertAll more).erase name = (headers'.insertAll more).erase name := by
  unfold insertAll
  induction more.fields generalizing headers headers' with
  | nil => exact h
  | cons f rest ih =>
    refine ih ?_
    rw [erase_insert, erase_insert, h]

/-- The second list decides on every name that it has. -/
theorem getAll_override (headers more : Headers) (name : String) :
    (headers.override more).getAll name =
      if more.getAll name = [] then headers.getAll name else more.getAll name := by
  have hany : ∀ f : String × List UInt8, f.1 = lower name →
      (more.fields.any (·.1 == f.1) = true ↔ more.getAll name ≠ []) := by
    intro f hf
    rw [hf, getAll, ne_eq, List.map_eq_nil_iff, List.filter_eq_nil_iff, List.any_eq_true]
    simp
  have hkept : (headers.fields.filter fun f => !more.fields.any (·.1 == f.1)).filter
      (·.1 == lower name) =
        if more.getAll name = [] then headers.fields.filter (·.1 == lower name) else [] := by
    rw [List.filter_filter]
    split
    · rename_i hnil
      refine List.filter_congr fun f _ => ?_
      by_cases hf : f.1 = lower name
      · have hnot : more.fields.any (·.1 == f.1) = false :=
          Bool.eq_false_iff.mpr fun h => (hany f hf).mp h hnil
        simp [hnot]
      · simp [hf]
    · rename_i hne
      refine List.filter_eq_nil_iff.mpr fun f _ hf => ?_
      simp only [Bool.and_eq_true, beq_iff_eq, Bool.not_eq_true'] at hf
      have := (hany f hf.1).mpr hne
      rw [hf.2] at this
      cases this
  rw [getAll, override, List.filter_append, List.map_append, hkept]
  split
  · rename_i hnil
    rw [← getAll, ← getAll, hnil, List.append_nil]
  · rw [← getAll, List.map_nil, List.nil_append]

end Headers

/-! ## Values -/

/-- A character that a field value may hold: no control but the tab. -/
def isFieldChar (c : Char) : Bool :=
  c == '\t' || (0x20 ≤ c.toNat && c.toNat != 0x7F)

/-- A printable ASCII character. -/
def isVisible (c : Char) : Bool :=
  0x20 ≤ c.toNat && c.toNat ≤ 0x7E

theorem isFieldChar_of_isVisible {c : Char} (h : isVisible c = true) :
    isFieldChar c = true := by
  simp only [isVisible, Bool.and_eq_true, decide_eq_true_eq] at h
  simp only [isFieldChar, Bool.or_eq_true, Bool.and_eq_true, decide_eq_true_eq, bne_iff_ne]
  omega

theorem isFieldByte_toUInt8 {c : Char} (h : c.toNat < 0x80) :
    isFieldByte c.toNat.toUInt8 = isFieldChar c := by
  have hc : c.toNat.toUInt8.toNat = c.toNat := Utf8.toNat_toUInt8 (by omega)
  have htab : (c == '\t') = (c.toNat == 9) := by
    rw [Bool.eq_iff_iff, beq_iff_eq, beq_iff_eq]
    exact ⟨fun h => h ▸ rfl, fun h => Char.toNat_inj.mp h⟩
  rw [Bool.eq_iff_iff]
  simp only [isFieldByte, isFieldChar, htab, Bool.or_eq_true, Bool.and_eq_true, beq_iff_eq,
    bne_iff_ne, decide_eq_true_eq, ne_eq, UInt8.le_iff_toNat_le, ← UInt8.toNat_inj, hc,
    UInt8.reduceToNat]

theorem isFieldByte_of_le {b : UInt8} (h : 0x80 ≤ b.toNat) : isFieldByte b = true := by
  simp only [isFieldByte, Bool.or_eq_true, Bool.and_eq_true, beq_iff_eq, bne_iff_ne,
    decide_eq_true_eq, ne_eq, UInt8.le_iff_toNat_le, ← UInt8.toNat_inj, UInt8.reduceToNat]
  omega

/-- A text is a field value unless it has a control. -/
theorem fieldValue?_eq (text : String) :
    fieldValue? text = if text.toList.all isFieldChar then some (Utf8.bytes text) else none := by
  have hall : (Utf8.bytes text).all isFieldByte = text.toList.all isFieldChar := by
    rw [Bool.eq_iff_iff]
    constructor
    · intro h
      refine List.all_eq_true.mpr fun c hc => ?_
      by_cases hlt : c.toNat < 0x80
      · have hmem : c.toNat.toUInt8 ∈ Utf8.bytes text := by
          rw [Utf8.bytes, Utf8.encode, List.mem_flatMap]
          exact ⟨c, hc, by rw [Utf8.encodeChar_of_lt hlt]; exact List.mem_singleton_self _⟩
        rw [← isFieldByte_toUInt8 hlt]
        exact List.all_eq_true.mp h _ hmem
      · simp only [isFieldChar, Bool.or_eq_true, Bool.and_eq_true, decide_eq_true_eq, bne_iff_ne]
        omega
    · intro h
      refine Utf8.all_bytes (fun b => isFieldByte_of_le) fun c hc hlt => ?_
      rw [isFieldByte_toUInt8 hlt]
      exact List.all_eq_true.mp h c hc
  rw [fieldValue?, hall]

theorem fieldValue?_of_all {text : String} (h : ∀ c ∈ text.toList, isFieldChar c = true) :
    fieldValue? text = some (Utf8.bytes text) := by
  rw [fieldValue?_eq, if_pos (List.all_eq_true.mpr h)]

/-- A printable text is read from its bytes. -/
theorem fieldText?_bytes {text : String} (h : ∀ c ∈ text.toList, isVisible c = true) :
    fieldText? (Utf8.bytes text) = some text := by
  have hrange : ∀ c ∈ text.toList, 0x20 ≤ c.toNat ∧ c.toNat ≤ 0x7E := by
    intro c hc
    simpa only [isVisible, Bool.and_eq_true, decide_eq_true_eq] using h c hc
  have hascii : ∀ c ∈ text.toList, c.toNat < 0x80 := by
    intro c hc
    have := hrange c hc
    omega
  have hbyte : ∀ c ∈ text.toList, c.toNat.toUInt8.toNat = c.toNat := by
    intro c hc
    have := hrange c hc
    exact Utf8.toNat_toUInt8 (by omega)
  have hall : (Utf8.bytes text).all isTextByte = true := by
    rw [Utf8.bytes_of_ascii hascii, List.all_map, List.all_eq_true]
    intro c hc
    have hc' := hrange c hc
    simp only [Function.comp_apply, isTextByte, Bool.or_eq_true, Bool.and_eq_true, beq_iff_eq,
      decide_eq_true_eq, UInt8.le_iff_toNat_le, UInt8.lt_iff_toNat_lt, hbyte c hc,
      UInt8.reduceToNat]
    omega
  rw [fieldText?, if_pos hall, Utf8.bytes_of_ascii hascii, List.map_map]
  have hchars : text.toList.map ((fun b : UInt8 => Char.ofNat b.toNat) ∘
      fun c => c.toNat.toUInt8) = text.toList := by
    rw [List.map_congr_left (g := id), List.map_id]
    intro c hc
    rw [Function.comp_apply, hbyte c hc, Char.ofNat_toNat]
    rfl
  rw [hchars, String.ofList_toList]

theorem isFieldByte_of_isTextByte {b : UInt8} (h : isTextByte b = true) :
    isFieldByte b = true ∧ b.toNat < 0x80 := by
  simp only [isTextByte, Bool.or_eq_true, Bool.and_eq_true, beq_iff_eq, decide_eq_true_eq,
    UInt8.le_iff_toNat_le, UInt8.lt_iff_toNat_lt, ← UInt8.toNat_inj, UInt8.reduceToNat] at h
  simp only [isFieldByte, Bool.or_eq_true, Bool.and_eq_true, beq_iff_eq, bne_iff_ne,
    decide_eq_true_eq, ne_eq, UInt8.le_iff_toNat_le, ← UInt8.toNat_inj, UInt8.reduceToNat]
  omega

/-- A text that is read from a field value can be written into one. -/
theorem isFieldChar_of_fieldText? {value : List UInt8} {text : String}
    (h : fieldText? value = some text) : ∀ c ∈ text.toList, isFieldChar c = true := by
  unfold fieldText? at h
  split at h
  · rename_i hall
    obtain rfl := Option.some.inj h
    intro c hc
    rw [String.toList_ofList] at hc
    obtain ⟨b, hb, rfl⟩ := List.mem_map.mp hc
    obtain ⟨hbyte, hlt⟩ := isFieldByte_of_isTextByte (List.all_eq_true.mp hall b hb)
    have hchar : (Char.ofNat b.toNat).toNat = b.toNat := Utf8.toNat_ofNat (by omega)
    rw [← isFieldByte_toUInt8 (by omega), hchar, Utf8.toUInt8_eq rfl]
    exact hbyte
  · cases h

end FormFetch.Http
