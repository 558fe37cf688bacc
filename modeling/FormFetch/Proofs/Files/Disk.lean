import FormFetch.Files.Disk

/-!
# What is written is read

A file that was written is found where it was written, with the content that it was given.

* `walk_put` follows the names to a place whose directories are there, and
  `walk_dropLast` says that they are there if anything is.
* `read_of_write` is the result, also after a change of the permission bits.
-/

namespace FormFetch.Files

deriving instance ReflBEq, LawfulBEq for Place

namespace Disk

variable {disk : Disk} {fromRoot : Bool}

/-! ## Entries after a change -/

theorem put_entry_self {place : Place} (h : place.names ≠ []) (entry : Entry) :
    Disk.entry? (disk.put place entry) place = some entry := by
  unfold entry?
  rw [if_neg h, put, List.lookup_cons_self]

theorem lookup_filter_ne {entries : List (Place × Entry)} {place other : Place}
    (h : other ≠ place) :
    (entries.filter (·.1 != place)).lookup other = entries.lookup other := by
  induction entries with
  | nil => rfl
  | cons e rest ih =>
    by_cases he : e.1 = place
    · have hother : (other == e.1) = false := beq_eq_false_iff_ne.mpr fun heq => h (heq.trans he)
      rw [List.filter_cons_of_neg (by simp [he]), ih, List.lookup_cons, hother]
    · rw [List.filter_cons_of_pos (by simp [he]), List.lookup_cons, List.lookup_cons, ih]

theorem put_entry_of_ne {place other : Place} (h : other ≠ place) (entry : Entry) :
    Disk.entry? (disk.put place entry) other = disk.entry? other := by
  have hbeq : (other == place) = false := beq_eq_false_iff_ne.mpr h
  unfold entry?
  rw [put, List.lookup_cons, hbeq, lookup_filter_ne h]

/-! ## Ways through directories -/

section Steps

variable {before : List String} {name : String}

theorem walk_of_none (h : disk.entry? ⟨fromRoot, before ++ [name]⟩ = none) (rest : List String) :
    disk.walk fromRoot before (name :: rest) = .error .notFound := by
  simp only [walk, h]

theorem walk_last {entry : Entry} (h : disk.entry? ⟨fromRoot, before ++ [name]⟩ = some entry) :
    disk.walk fromRoot before [name] = .ok entry := by
  simp only [walk, h]

theorem walk_of_directory (h : disk.entry? ⟨fromRoot, before ++ [name]⟩ = some .directory)
    (rest : List String) :
    disk.walk fromRoot before (name :: rest) = disk.walk fromRoot (before ++ [name]) rest := by
  cases rest with
  | nil => rw [walk_last h, walk]
  | cons next more => simp only [walk, h]

theorem walk_of_file {f : File} (h : disk.entry? ⟨fromRoot, before ++ [name]⟩ = some (.file f))
    (next : String) (more : List String) :
    disk.walk fromRoot before (name :: next :: more) = .error .notDirectory := by
  simp only [walk, h]

end Steps

/-- Whatever is found behind a name and more names, the first name is that of a directory. -/
theorem directory_of_walk {before : List String} {name next : String} {more : List String}
    {entry : Entry} (h : disk.walk fromRoot before (name :: next :: more) = .ok entry) :
    disk.entry? ⟨fromRoot, before ++ [name]⟩ = some .directory := by
  cases hentry : disk.entry? ⟨fromRoot, before ++ [name]⟩ with
  | none =>
    rw [walk_of_none hentry] at h
    cases h
  | some e =>
    cases e with
    | directory => rfl
    | file f =>
      rw [walk_of_file hentry] at h
      cases h

/-- In front of everything that is found there is a directory. -/
theorem walk_dropLast {before names : List String} {name : String} {entry : Entry}
    (h : disk.walk fromRoot before (names ++ [name]) = .ok entry) :
    disk.walk fromRoot before names = .ok .directory := by
  induction names generalizing before with
  | nil => rfl
  | cons first rest ih =>
    have hentry : disk.entry? ⟨fromRoot, before ++ [first]⟩ = some .directory := by
      cases rest with
      | nil => exact directory_of_walk h
      | cons second more => exact directory_of_walk h
    rw [List.cons_append, walk_of_directory hentry] at h
    rw [walk_of_directory hentry]
    exact ih h

/-- What is put into a directory is found there. -/
theorem walk_put {before names : List String}
    (h : disk.walk fromRoot before names = .ok .directory) (name : String) (entry : Entry) :
    (disk.put ⟨fromRoot, before ++ names ++ [name]⟩ entry).walk fromRoot before
      (names ++ [name]) = .ok entry := by
  induction names generalizing before with
  | nil =>
    rw [List.append_nil, List.nil_append]
    exact walk_last (put_entry_self (by simp) entry)
  | cons first rest ih =>
    have hentry : disk.entry? ⟨fromRoot, before ++ [first]⟩ = some .directory := by
      cases rest with
      | nil =>
        cases hfirst : disk.entry? ⟨fromRoot, before ++ [first]⟩ with
        | none =>
          rw [walk_of_none hfirst] at h
          cases h
        | some e =>
          rw [walk_last hfirst] at h
          cases h
          rfl
      | cons second more => exact directory_of_walk h
    rw [walk_of_directory hentry] at h
    -- The way to the new place leads through shorter places, which stay as they are.
    have hne : (⟨fromRoot, before ++ [first]⟩ : Place) ≠
        ⟨fromRoot, before ++ [first] ++ rest ++ [name]⟩ := by
      intro heq
      have hlength := congrArg (fun place => place.names.length) heq
      simp at hlength
    have hkept : Disk.entry? (disk.put ⟨fromRoot, before ++ [first] ++ rest ++ [name]⟩ entry)
        ⟨fromRoot, before ++ [first]⟩ = some .directory := by
      rw [put_entry_of_ne hne, hentry]
    have hplace : before ++ first :: rest ++ [name] = before ++ [first] ++ rest ++ [name] := by
      simp
    rw [hplace, List.cons_append, walk_of_directory hkept]
    exact ih h

/-! ## Files -/

variable {path : String} {f : File}

theorem lookup_eq_walk (h : path ≠ "") :
    disk.lookup path = disk.walk (Place.of path).fromRoot [] (Place.of path).names := by
  rw [lookup, if_neg h]

/-- A file that is put at the place of a path is found there, if the directories are there. -/
theorem lookup_put (hpath : path ≠ "") (hnames : (Place.of path).names ≠ [])
    (h : disk.walk (Place.of path).fromRoot [] (Place.of path).names.dropLast = .ok .directory)
    (entry : Entry) : (disk.put (Place.of path) entry).lookup path = .ok entry := by
  have hlast := List.dropLast_concat_getLast hnames
  have hput := walk_put h ((Place.of path).names.getLast hnames) entry
  rw [List.nil_append, hlast] at hput
  rw [lookup_eq_walk hpath]
  exact hput

theorem lookup_put_of_file (h : disk.lookup path = .ok (.file f)) (entry : Entry) :
    (disk.put (Place.of path) entry).lookup path = .ok entry := by
  have hpath : path ≠ "" := by
    rintro rfl
    cases h
  rw [lookup_eq_walk hpath] at h
  have hnames : (Place.of path).names ≠ [] := by
    intro hnil
    rw [hnil] at h
    cases h
  refine lookup_put hpath hnames ?_ entry
  rw [← List.dropLast_concat_getLast hnames] at h
  exact walk_dropLast h

theorem lookup_of_write {changed : Disk} {content : List UInt8}
    (h : disk.write path content = .ok changed) :
    ∃ mode, changed.lookup path = .ok (.file ⟨content, mode⟩) := by
  unfold write at h
  dsimp only at h
  split at h
  · cases h
  · rename_i f hfile
    cases h
    exact ⟨f.mode, lookup_put_of_file hfile _⟩
  · rename_i hmissing
    have hpath : path ≠ "" := by
      rintro rfl
      cases h
    split at h
    · rename_i hdirectory
      split at h
      · cases h
      · rename_i hnames
        cases h
        exact ⟨0o644, lookup_put hpath hnames hdirectory _⟩
    · cases h
    · cases h
  · cases h

theorem lookup_of_setMode {changed : Disk} {mode : Nat} (h : disk.lookup path = .ok (.file f))
    (hmode : disk.setMode path mode = .ok changed) :
    changed.lookup path = .ok (.file { f with mode }) := by
  simp only [setMode, h, Except.ok.injEq] at hmode
  rw [← hmode]
  exact lookup_put_of_file h _

/-- What was written is read, whatever the permission bits are afterwards. -/
theorem read_of_write {written changed : Disk} {content : List UInt8} {mode : Nat}
    (h : disk.write path content = .ok written)
    (hmode : written.setMode path mode = .ok changed) : changed.read path = .ok content := by
  obtain ⟨before, hfile⟩ := lookup_of_write h
  exact read_of_lookup (lookup_of_setMode hfile hmode)

end Disk

end FormFetch.Files
