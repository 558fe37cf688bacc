import FormFetch.Environment

/-!
# The directory of settings and credentials

The settings and the credentials are looked for in the same directory, unless the variable that
settles it is blank: the settings go by it all the same, the credentials pass over it.

* `Place.of_join`: the place of a name inside a directory.
* `folderOf` is the directory that a path leads into.
* `settingsPath?_eq` and `vaultPath?_eq` are the two look-ups, each as a base and the names
  behind it.
* `same_folder_iff` is the result, and `different_folders` two variables with which the
  directories differ.
-/

namespace FormFetch.Files

/-! ## Places of joined paths -/

/-- A name that is one step down a path. -/
def IsName (name : String) : Prop :=
  '/' ∉ name.toList ∧ name.toList ≠ [] ∧ name.toList ≠ ['.'] ∧ name.toList ≠ ['.', '.']

instance (name : String) : Decidable (IsName name) :=
  inferInstanceAs (Decidable (_ ∧ _))

theorem parts_ne_nil (cs : List Char) : parts cs ≠ [] := by
  cases cs with
  | nil => simp [parts]
  | cons c rest =>
    rw [parts]
    split
    · simp
    · split <;> simp

theorem parts_append_slash (xs ys : List Char) : parts (xs ++ '/' :: ys) = parts xs ++ parts ys := by
  induction xs with
  | nil => simp [parts]
  | cons c rest ih =>
    rw [List.cons_append, parts, parts, ih]
    split
    · rfl
    · obtain ⟨part, more, hparts⟩ := List.exists_cons_of_ne_nil (parts_ne_nil rest)
      rw [hparts]
      rfl

theorem parts_of_notMem {cs : List Char} (h : '/' ∉ cs) : parts cs = [cs] := by
  induction cs with
  | nil => rfl
  | cons c rest ih =>
    rw [List.mem_cons, not_or] at h
    rw [parts, if_neg (Ne.symm h.1), ih h.2]

theorem step_name {name : String} (h : IsName name) (names : List String) :
    step names name.toList = name :: names := by
  obtain ⟨-, hempty, hdot, hdots⟩ := h
  rw [step, if_neg (not_or.mpr ⟨hempty, hdot⟩), if_neg hdots, String.ofList_toList]

/-- A name inside a directory comes after the names of the directory. -/
theorem Place.of_join (directory : String) {name : String} (h : IsName name) :
    Place.of (join directory name) =
      ⟨(Place.of directory).fromRoot, (Place.of directory).names ++ [name]⟩ := by
  have hname : parts name.toList = [name.toList] := parts_of_notMem h.1
  rw [join]
  split
  · rename_i hend
    rcases hend with rfl | hslash
    · have hroot : name.toList.head? ≠ some '/' := fun hhead =>
        h.1 (List.mem_of_mem_head? hhead)
      rw [String.empty_append, Place.of, hname, List.foldl_cons, List.foldl_nil, step_name h,
        decide_eq_false hroot]
      rfl
    · obtain ⟨init, hinit⟩ := List.getLast?_eq_some_iff.mp hslash
      have hsplit : (directory ++ name).toList = init ++ '/' :: name.toList := by
        simp [hinit]
      have hhead : (init ++ '/' :: name.toList).head? = (init ++ ['/']).head? := by
        cases init <;> rfl
      simp only [Place.of, hsplit, hinit, hhead, parts_append_slash, hname, List.foldl_append,
        List.foldl_cons, List.foldl_nil, step_name h, List.reverse_cons]
      rfl
  · rename_i hend
    have hsplit : (directory ++ "/" ++ name).toList = directory.toList ++ '/' :: name.toList := by
      simp
    have hhead : (directory.toList ++ '/' :: name.toList).head? = directory.toList.head? := by
      cases hchars : directory.toList with
      | nil => exact absurd (Or.inl (String.toList_eq_nil_iff.mp hchars)) hend
      | cons c rest => rfl
    simp only [Place.of, hsplit, hhead, parts_append_slash, hname, List.foldl_append,
      List.foldl_cons, List.foldl_nil, step_name h, List.reverse_cons]

/-- The directory that a path leads into. -/
def folderOf (path : String) : Place where
  fromRoot := (Place.of path).fromRoot
  names := (Place.of path).names.dropLast

theorem folderOf_join (directory : String) {name : String} (h : IsName name) :
    folderOf (join directory name) = Place.of directory := by
  rw [folderOf, Place.of_join directory h, List.dropLast_concat]

end FormFetch.Files

namespace FormFetch.Environment

open Text Files

/-! ## The variable that settles it -/

/-- A variable that settles where the program keeps what it keeps. -/
inductive Base where
  | config (value : String)
  | home (value : String)
  deriving DecidableEq

/-- The value of the variable. -/
def Base.value : Base → String
  | config value | home value => value

/-- The directory of the program below it. -/
def Base.directory : Base → String
  | config value => join value folder
  | home value => join (join value ".config") folder

/-- The variable that the settings go by: the first one that is not empty. -/
def settingsBase? (env : Environment) : Option Base :=
  ((env.nonEmpty? "XDG_CONFIG_HOME").map .config).or ((env.nonEmpty? "HOME").map .home)

/-- The variable that the credentials go by: the first one that is not blank. -/
def vaultBase? (env : Environment) : Option Base :=
  ((env.nonBlank? "XDG_CONFIG_HOME").map .config).or ((env.nonBlank? "HOME").map .home)

variable {env : Environment}

theorem settingsPath?_eq (env : Environment) :
    env.settingsPath? = env.settingsBase?.map fun b => join b.directory "config.toml" := by
  rw [settingsPath?, settingsBase?]
  cases env.nonEmpty? "XDG_CONFIG_HOME" with
  | some value => rfl
  | none =>
    cases env.nonEmpty? "HOME" with
    | some value => rfl
    | none => rfl

theorem vaultPath?_eq (hdata : env.lookup "APPDATA" = none) :
    env.vaultPath? = env.vaultBase?.map fun b => join b.directory "credentials.enc" := by
  have hnone : env.nonBlank? "APPDATA" = none := by
    rw [nonBlank?, hdata]
    rfl
  rw [vaultPath?, vaultFolder?, vaultBase?, hnone]
  cases env.nonBlank? "XDG_CONFIG_HOME" with
  | some value => rfl
  | none =>
    cases env.nonBlank? "HOME" with
    | some value => rfl
    | none => rfl

/-- A value that is not blank is not empty. -/
theorem nonBlank?_eq (env : Environment) (name : String) :
    env.nonBlank? name = (env.nonEmpty? name).filter fun value => !blank value := by
  rw [nonBlank?, nonEmpty?, Option.filter_filter]
  congr 1
  funext value
  by_cases hvalue : value = ""
  · subst hvalue
    rfl
  · simp [hvalue]

/-- The credentials go by the same variable as the settings, unless its value is blank: then they
go by `HOME` or by none. -/
theorem vaultBase?_cases (env : Environment) :
    env.settingsBase? = none ∧ env.vaultBase? = none ∨
      ∃ b, env.settingsBase? = some b ∧
        (blank b.value = false ∧ env.vaultBase? = some b ∨
          blank b.value = true ∧ (env.vaultBase? = none ∨
            ∃ value value', b = .config value ∧ env.vaultBase? = some (.home value'))) := by
  rw [settingsBase?, vaultBase?, nonBlank?_eq, nonBlank?_eq]
  cases env.nonEmpty? "XDG_CONFIG_HOME" with
  | some value =>
    refine Or.inr ⟨.config value, rfl, ?_⟩
    cases hblank : blank value with
    | false => exact Or.inl ⟨hblank, by simp [hblank]⟩
    | true =>
      refine Or.inr ⟨hblank, ?_⟩
      cases env.nonEmpty? "HOME" with
      | none => exact Or.inl (by simp [hblank])
      | some value' =>
        cases hblank' : blank value' with
        | true => exact Or.inl (by simp [hblank, hblank'])
        | false => exact Or.inr ⟨value, value', rfl, by simp [hblank, hblank']⟩
  | none =>
    cases env.nonEmpty? "HOME" with
    | none => exact Or.inl ⟨rfl, rfl⟩
    | some value =>
      refine Or.inr ⟨.home value, rfl, ?_⟩
      cases hblank : blank value with
      | false => exact Or.inl ⟨hblank, by simp [hblank]⟩
      | true => exact Or.inr ⟨hblank, Or.inl (by simp [hblank])⟩

/-! ## One directory or two -/

/-- A blank path leads to no directory for configurations. -/
theorem config_notMem_of_blank {value : String} (h : blank value = true) :
    ".config" ∉ (Place.of value).names := by
  have hall : ∀ c ∈ value.toList, isBlank c = true := List.all_eq_true.mp h
  have hslash : '/' ∉ value.toList := fun hmem => absurd (hall _ hmem) (by decide)
  have hdot : '.' ∉ value.toList := fun hmem => absurd (hall _ hmem) (by decide)
  rw [Place.of, parts_of_notMem hslash, List.foldl_cons, List.foldl_nil, List.mem_reverse, step,
    String.ofList_toList]
  split
  · exact List.not_mem_nil
  · split
    · exact List.not_mem_nil
    · rw [List.mem_singleton]
      rintro rfl
      exact hdot (by decide)

theorem directory_ne_of_blank {value : String} (h : blank value = true) (home : String) :
    Place.of (Base.config value).directory ≠ Place.of (Base.home home).directory := by
  intro heq
  have hfolder : IsName folder := by decide
  have hconfig : IsName ".config" := by decide
  rw [Base.directory, Base.directory, Place.of_join _ hfolder, Place.of_join _ hfolder,
    Place.of_join _ hconfig] at heq
  have hnames := List.append_cancel_right (Place.mk.inj heq).2
  apply config_notMem_of_blank h
  rw [hnames]
  exact List.mem_append_right _ (List.mem_singleton_self _)

/-- The settings and the credentials have their places in the same directory, or no places, exactly
if the variable that the settings go by is not blank.  A blank one is a directory for the settings,
while the credentials are kept below `HOME` or have no place. -/
theorem same_folder_iff (hdata : env.lookup "APPDATA" = none) :
    (env.settingsPath?.map folderOf = env.vaultPath?.map folderOf ↔
        ∀ b, env.settingsBase? = some b → blank b.value = false) ∧
      (∀ b, env.settingsBase? = some b → blank b.value = false →
        env.settingsPath? = some (join b.directory "config.toml") ∧
          env.vaultPath? = some (join b.directory "credentials.enc")) ∧
      ∀ b, env.settingsBase? = some b → blank b.value = true →
        env.settingsPath? = some (join b.directory "config.toml") ∧
          (env.vaultPath? = none ∨ ∃ value home, b = .config value ∧
            env.vaultPath? = some (join (Base.home home).directory "credentials.enc")) := by
  have hplace : ∀ directory, folderOf (join directory "config.toml") = Place.of directory :=
    fun directory => folderOf_join directory (by decide)
  have hplace' : ∀ directory, folderOf (join directory "credentials.enc") = Place.of directory :=
    fun directory => folderOf_join directory (by decide)
  rw [settingsPath?_eq, vaultPath?_eq hdata]
  rcases vaultBase?_cases env with ⟨hsettings, hvault⟩ | ⟨b, hsettings, hcases⟩
  · simp [hsettings, hvault]
  simp only [hsettings, Option.map_some, Option.some.injEq, forall_eq', hplace]
  rcases hcases with ⟨hblank, hvault⟩ | ⟨hblank, hvault | ⟨value, home, rfl, hvault⟩⟩
  · simp [hvault, hblank, hplace']
  · simp [hvault, hblank]
  · have hne : Place.of (Base.config value).directory ≠ Place.of (Base.home home).directory :=
      directory_ne_of_blank hblank home
    simp only [hvault, hblank, Option.map_some, Option.some.injEq, hplace', hne]
    exact ⟨by simp, by simp, fun _ => ⟨trivial, Or.inr ⟨value, home, rfl, rfl⟩⟩⟩

/-- An empty variable is passed over by both. -/
theorem same_folder_home :
    let env : Environment := [("XDG_CONFIG_HOME", ""), ("HOME", "/home/amy")]
    env.lookup "APPDATA" = none ∧
      env.settingsPath?.map folderOf = some ⟨true, ["home", "amy", ".config", "openrosa"]⟩ ∧
      env.vaultPath?.map folderOf = some ⟨true, ["home", "amy", ".config", "openrosa"]⟩ := by
  intro env
  have hdata : env.lookup "APPDATA" = none := by decide
  have hsame := (same_folder_iff hdata).1.mpr (by decide)
  have hsettings : env.settingsPath?.map folderOf =
      some ⟨true, ["home", "amy", ".config", "openrosa"]⟩ := by
    decide
  exact ⟨hdata, hsettings, hsame ▸ hsettings⟩

/-- A blank variable is a directory for the settings, and the credentials pass over it. -/
theorem different_folders :
    let env : Environment := [("XDG_CONFIG_HOME", " "), ("HOME", "/home/amy")]
    env.lookup "APPDATA" = none ∧ env.settingsPath? = some " /openrosa/config.toml" ∧
      env.vaultPath? = some "/home/amy/.config/openrosa/credentials.enc" ∧
      env.settingsPath?.map folderOf ≠ env.vaultPath?.map folderOf := by
  decide

end FormFetch.Environment
