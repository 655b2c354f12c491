import GoAssets.Config.Load
import GoAssets.Disk.Tree

/-!
# What a loaded configuration is

A second account of `Config.load`, as rules. `Loads` has one rule for each way in which loading can
end, in the order in which the layers are looked at: the user's file is refused, the project's file
cannot be read or is refused, the namespace or the size that the layers come to is refused, or the
configuration is loaded. What the layers come to is `Decides`, for each setting by itself: the value
of the first layer, from the top, that supplies one.

Which layer supplies what is said in terms of the files and variables themselves, without the
functions that read them: `UserSettings` and `ProjectSettings` for the files, and
`Environment.SuppliesNs` and `Environment.SuppliesSize` for the environment, the latter by way of
`Spells`, which says what digits mean.

`result_load` takes the journal out of the function. Then `Loads.result_eq` says that loading follows
the rules and `exists_loads` that the rules leave no case out; together they make `Loads` the graph
of the function.
-/

namespace GoAssets.Config

/-! ## Numbers -/

/-- A text spells a number: decimal digits, of which there is one at least, after a plus sign or
without one. -/
def Spells (s : String) (n : Nat) : Prop :=
  ∃ digits : List Char, (s.toList = digits ∨ s.toList = '+' :: digits) ∧ digits ≠ []
    ∧ (∀ d ∈ digits, d.isDigit = true) ∧ n = Nat.ofDigitChars 10 digits 0

theorem numberValue_eq_ofDigitChars {digits : List Char} (h : ∀ d ∈ digits, d.isDigit = true) :
    Text.numberValue 10 digits = Nat.ofDigitChars 10 digits 0 := by
  rw [Text.numberValue, Nat.ofDigitChars]
  generalize 0 = start
  induction digits generalizing start with
  | nil => rfl
  | cons d digits ih =>
      have hd := h d (List.mem_cons_self ..)
      have hhex : Text.isHexDigit d = true := by simp [Text.isHexDigit, hd]
      have hvalue : Text.digitValue d = d.toNat - '0'.toNat := if_pos hd
      rw [List.foldl_cons, List.foldl_cons, if_pos hhex, hvalue, Nat.mul_comm start]
      exact ih (fun e he => h e (List.mem_cons_of_mem _ he)) _

/-- Digits are read as the number that they spell, and other texts are not read. -/
theorem unsignedDigits_eq_some_iff {digits : List Char} {n : Nat} :
    (if digits ≠ [] ∧ digits.all Char.isDigit = true then some (Text.numberValue 10 digits)
      else none) = some n
      ↔ digits ≠ [] ∧ (∀ d ∈ digits, d.isDigit = true) ∧ n = Nat.ofDigitChars 10 digits 0 := by
  rw [← List.all_eq_true]
  constructor
  · intro h
    split at h
    · rename_i hall
      rw [numberValue_eq_ofDigitChars (List.all_eq_true.mp hall.2)] at h
      exact ⟨hall.1, hall.2, (Option.some.inj h).symm⟩
    · cases h
  · rintro ⟨hne, hall, rfl⟩
    rw [if_pos ⟨hne, hall⟩, numberValue_eq_ofDigitChars (List.all_eq_true.mp hall)]

theorem unsigned?_eq_some_iff {s : String} {n : Nat} :
    Text.unsigned? s.toList = some n ↔ Spells s n := by
  by_cases hplus : ∃ rest, s.toList = '+' :: rest
  · obtain ⟨rest, hrest⟩ := hplus
    rw [hrest]
    refine unsignedDigits_eq_some_iff.trans ⟨fun h => ⟨rest, .inr hrest, h⟩, ?_⟩
    rintro ⟨digits, htext | htext, hne, hall, hvalue⟩
    · -- A plus sign is no digit.
      have hdigit := hall '+' (by rw [← htext, hrest]; exact List.mem_cons_self ..)
      cases hdigit
    · obtain rfl := List.tail_eq_of_cons_eq (hrest.symm.trans htext)
      exact ⟨hne, hall, hvalue⟩
  · have hplain : Text.unsigned? s.toList
        = if s.toList ≠ [] ∧ s.toList.all Char.isDigit = true then
            some (Text.numberValue 10 s.toList) else none := by
      rw [Text.unsigned?]
      intro rest hrest
      exact hplus ⟨rest, hrest⟩
    rw [hplain]
    refine unsignedDigits_eq_some_iff.trans ⟨fun h => ⟨s.toList, .inl rfl, h⟩, ?_⟩
    rintro ⟨digits, htext | htext, h⟩
    · rwa [htext]
    · exact absurd ⟨digits, htext⟩ hplus

theorem size?_eq_some_iff {s : String} {n : UInt64} : size? s = some n ↔ Spells s n.toNat := by
  rw [← unsigned?_eq_some_iff, size?]
  cases Text.unsigned? s.toList with
  | none => simp
  | some k =>
      simp only [Option.some.injEq]
      constructor
      · intro h
        split at h
        · rename_i hlt
          obtain rfl := Option.some.inj h
          exact (UInt64.toNat_ofNat_of_lt' hlt).symm
        · cases h
      · rintro rfl
        rw [if_pos n.toNat_lt, Nat.toUInt64_eq, UInt64.ofNat_toNat]

/-! ## Which layer supplies what -/

namespace Environment

/-- The environment supplies a namespace: the variable is that text, and the text is not empty. -/
def SuppliesNs (env : Environment) (name : String) : Prop :=
  env.ns = some name.toUTF8 ∧ name ≠ ""

/-- The environment supplies a size: the variable is a text that spells it. -/
def SuppliesSize (env : Environment) (size : UInt64) : Prop :=
  ∃ s : String, env.maxFileSize = some s.toUTF8 ∧ Spells s size.toNat

end Environment

/-- The user's file comes to these settings: it is absent or no text and there are none, or they are
what it says. -/
inductive UserSettings (disk : Disk) (env : Environment) : Config → Prop where
  | absent (h : ∀ file, userFile? env = some file → disk.contains file = false) :
      UserSettings disk env {}
  | unreadable {file : Path} {cause : IoFailure} (hfile : userFile? env = some file)
      (htext : disk.text file = .error cause) : UserSettings disk env {}
  | decoded {file : Path} {s : String} {c : Config} (hfile : userFile? env = some file)
      (hexists : disk.contains file = true) (htext : disk.text file = .ok s)
      (hdecode : decode? s = some c) : UserSettings disk env c

/-- The project's file comes to these settings: it is absent and there are none, or they are what it
says. -/
inductive ProjectSettings (disk : Disk) (root : Path) : Config → Prop where
  | absent (h : disk.contains (projectFile root) = false) : ProjectSettings disk root {}
  | decoded {s : String} {c : Config} (hexists : disk.contains (projectFile root) = true)
      (htext : disk.text (projectFile root) = .ok s)
      (hdecode : decode? s = some c) : ProjectSettings disk root c

/-- What layers, the uppermost first, come to: the value that the first of them supplies that
supplies one. -/
inductive Decides {α : Type} : List (α → Prop) → Option α → Prop where
  | nowhere : Decides [] none
  | here {layer : α → Prop} {layers : List (α → Prop)} {v : α} (h : layer v) :
      Decides (layer :: layers) (some v)
  | lower {layer : α → Prop} {layers : List (α → Prop)} {r : Option α} (hnone : ∀ v, ¬ layer v)
      (h : Decides layers r) : Decides (layer :: layers) r

/-- What the layers come to, each setting by itself. -/
structure Merges (env : Environment) (overrides project user c : Config) : Prop where
  ns : Decides [(overrides.ns = some ·), env.SuppliesNs, (project.ns = some ·), (user.ns = some ·)]
    c.ns
  maxFileSize : Decides [(overrides.maxFileSize = some ·), env.SuppliesSize,
    (project.maxFileSize = some ·), (user.maxFileSize = some ·)] c.maxFileSize

/-- How loading ends. Only what the layers come to has to be valid, and the namespace is looked at
before the size. -/
inductive Loads (readError : String → String) (disk : Disk) (env : Environment) (root : Path)
    (overrides : Config) : Except ConfigError Config → Prop where
  | userRefused {file : Path} {s : String} (hfile : userFile? env = some file)
      (hexists : disk.contains file = true) (htext : disk.text file = .ok s)
      (hdecode : decode? s = none) :
      Loads readError disk env root overrides (.error (.malformed file (readError s)))
  | projectUnreadable {user : Config} {cause : IoFailure} (huser : UserSettings disk env user)
      (hexists : disk.contains (projectFile root) = true)
      (htext : disk.text (projectFile root) = .error cause) :
      Loads readError disk env root overrides (.error (.fileNotFound (projectFile root)))
  | projectRefused {user : Config} {s : String} (huser : UserSettings disk env user)
      (hexists : disk.contains (projectFile root) = true)
      (htext : disk.text (projectFile root) = .ok s)
      (hdecode : decode? s = none) :
      Loads readError disk env root overrides
        (.error (.malformed (projectFile root) (readError s)))
  | nsRefused {user project c : Config} {name : String} (huser : UserSettings disk env user)
      (hproject : ProjectSettings disk root project) (hmerges : Merges env overrides project user c)
      (hns : c.ns = some name) (hname : isIdentifier name = false) :
      Loads readError disk env root overrides
        (.error (.invalid "scan.namespace" (Text.quote name ++ " is not a Go identifier")))
  | sizeRefused {user project c : Config} (huser : UserSettings disk env user)
      (hproject : ProjectSettings disk root project) (hmerges : Merges env overrides project user c)
      (hns : ∀ name, c.ns = some name → isIdentifier name = true) (hsize : c.maxFileSize = some 0) :
      Loads readError disk env root overrides
        (.error (.invalid "scan.max_file_size" "must be greater than 0"))
  | loaded {user project c : Config} (huser : UserSettings disk env user)
      (hproject : ProjectSettings disk root project) (hmerges : Merges env overrides project user c)
      (hns : ∀ name, c.ns = some name → isIdentifier name = true) (hsize : c.maxFileSize ≠ some 0) :
      Loads readError disk env root overrides (.ok c)

/-! ## Layers -/

theorem decides_nil_iff {α : Type} {r : Option α} : Decides [] r ↔ r = none := by
  constructor
  · rintro ⟨⟩
    rfl
  · rintro rfl
    exact .nowhere

/-- A layer that is given by an optional value comes before what the layers below it come to. -/
theorem decides_cons_iff {α : Type} {layer : α → Prop} {layers : List (α → Prop)}
    {value rest : Option α} (hlayer : ∀ v, layer v ↔ value = some v)
    (hrest : ∀ {r}, Decides layers r ↔ r = rest) {r : Option α} :
    Decides (layer :: layers) r ↔ r = value.or rest := by
  cases value with
  | none =>
      have hnone : ∀ v, ¬ layer v := fun v hv => by cases (hlayer v).mp hv
      rw [Option.none_or, ← hrest]
      constructor
      · intro hdecides
        cases hdecides with
        | here hv => exact absurd hv (hnone _)
        | lower _ h => exact h
      · exact .lower hnone
  | some v =>
      have hv : layer v := (hlayer v).mpr rfl
      rw [Option.some_or]
      constructor
      · intro hdecides
        cases hdecides with
        | here hw => exact ((hlayer _).mp hw).symm
        | lower hnone _ => exact absurd hv (hnone v)
      · rintro rfl
        exact .here hv

theorem environmentLayer_eq (env : Environment) :
    (environmentLayer env).2
      = { ns := (env.ns.bind String.fromUTF8?).filter (fun s => !s.isEmpty)
          maxFileSize := (env.maxFileSize.bind String.fromUTF8?).bind size? } := by
  rw [environmentLayer]
  cases env.maxFileSize.bind String.fromUTF8? with
  | none => rfl
  | some s => cases hsize : size? s <;> simp [hsize]

theorem suppliesNs_iff (env : Environment) (name : String) :
    env.SuppliesNs name ↔ (environmentLayer env).2.ns = some name := by
  rw [environmentLayer_eq, Environment.SuppliesNs]
  simp only [Option.filter_eq_some_iff, Option.bind_eq_some_iff, fromUTF8?_eq_some_iff]
  constructor
  · rintro ⟨hvar, hne⟩
    exact ⟨⟨_, hvar, rfl⟩, by simpa using hne⟩
  · rintro ⟨⟨_, hvar, rfl⟩, hne⟩
    exact ⟨hvar, by simpa using hne⟩

theorem suppliesSize_iff (env : Environment) (size : UInt64) :
    env.SuppliesSize size ↔ (environmentLayer env).2.maxFileSize = some size := by
  rw [environmentLayer_eq, Environment.SuppliesSize]
  simp only [Option.bind_eq_some_iff, fromUTF8?_eq_some_iff, size?_eq_some_iff]
  constructor
  · rintro ⟨s, hvar, hs⟩
    exact ⟨s, ⟨_, hvar, rfl⟩, hs⟩
  · rintro ⟨s, ⟨_, hvar, rfl⟩, hs⟩
    exact ⟨s, hvar, hs⟩

/-- Putting the layers on top of each other gives what they come to. -/
theorem merges_iff {env : Environment} {overrides project user c : Config} :
    Merges env overrides project user c
      ↔ c = overrides.onTopOf ((environmentLayer env).2.onTopOf (project.onTopOf user)) := by
  have hns : ∀ {r}, Decides [(overrides.ns = some ·), env.SuppliesNs, (project.ns = some ·),
      (user.ns = some ·)] r
      ↔ r = overrides.ns.or ((environmentLayer env).2.ns.or (project.ns.or (user.ns.or none))) :=
    decides_cons_iff (fun _ => .rfl) <| decides_cons_iff (suppliesNs_iff env) <|
      decides_cons_iff (fun _ => .rfl) <| decides_cons_iff (fun _ => .rfl) decides_nil_iff
  have hsize : ∀ {r}, Decides [(overrides.maxFileSize = some ·), env.SuppliesSize,
      (project.maxFileSize = some ·), (user.maxFileSize = some ·)] r
      ↔ r = overrides.maxFileSize.or ((environmentLayer env).2.maxFileSize.or
          (project.maxFileSize.or (user.maxFileSize.or none))) :=
    decides_cons_iff (fun _ => .rfl) <| decides_cons_iff (suppliesSize_iff env) <|
      decides_cons_iff (fun _ => .rfl) <| decides_cons_iff (fun _ => .rfl) decides_nil_iff
  rw [Option.or_none] at hns hsize
  constructor
  · rintro ⟨h₁, h₂⟩
    obtain ⟨ns, maxFileSize⟩ := c
    obtain rfl := hns.mp h₁
    obtain rfl := hsize.mp h₂
    rfl
  · rintro rfl
    exact ⟨hns.mpr rfl, hsize.mpr rfl⟩

variable {readError : String → String}

theorem userLayer_of_settings {disk : Disk} {env : Environment} {c : Config}
    (h : UserSettings disk env c) : (userLayer readError disk env).2 = .ok c := by
  rw [userLayer]
  cases h with
  | absent h =>
      cases hfile : userFile? env with
      | none => rfl
      | some file =>
          rw [Option.filter_some, if_neg (by simp [h file hfile])]
  | @unreadable file cause hfile htext =>
      rw [hfile, Option.filter_some]
      split
      · rfl
      · rename_i found heq
        split at heq
        · obtain rfl := Option.some.inj heq
          rw [fileLayer, htext]
        · cases heq
  | @decoded file s c hfile hexists htext hdecode =>
      rw [hfile, Option.filter_some, if_pos hexists]
      simp only [fileLayer, htext, decode, hdecode]

theorem userLayer_of_refused {disk : Disk} {env : Environment} {file : Path} {s : String}
    (hfile : userFile? env = some file) (hexists : disk.contains file = true)
    (htext : disk.text file = .ok s) (hdecode : decode? s = none) :
    (userLayer readError disk env).2 = .error (.malformed file (readError s)) := by
  rw [userLayer, hfile, Option.filter_some, if_pos hexists]
  simp only [fileLayer, htext, decode, hdecode]

theorem userSettings_or_refused (disk : Disk) (env : Environment) :
    (∃ c, UserSettings disk env c) ∨ ∃ file s, userFile? env = some file
      ∧ disk.contains file = true ∧ disk.text file = .ok s ∧ decode? s = none := by
  by_cases habsent : ∀ file, userFile? env = some file → disk.contains file = false
  · exact .inl ⟨_, .absent habsent⟩
  · obtain ⟨file, hfile, hexists⟩ : ∃ file, userFile? env = some file
        ∧ disk.contains file = true := by simpa using habsent
    cases htext : disk.text file with
    | error cause => exact .inl ⟨_, .unreadable hfile htext⟩
    | ok s =>
        cases hdecode : decode? s with
        | some c => exact .inl ⟨c, .decoded hfile hexists htext hdecode⟩
        | none => exact .inr ⟨file, s, hfile, hexists, htext, hdecode⟩

theorem projectLayer_of_settings {disk : Disk} {root : Path} {c : Config}
    (h : ProjectSettings disk root c) : projectLayer readError disk root = .ok c := by
  rw [projectLayer]
  cases h with
  | absent h => rw [if_neg (by simp [h])]
  | decoded hexists htext hdecode =>
      rw [if_pos hexists, fileLayer, htext]
      simp only [decode, hdecode]

/-! ## Validation -/

variable {c : Config}

theorem validate_of_bad_ns {name : String} (hns : c.ns = some name)
    (hname : isIdentifier name = false) :
    c.validate
      = .error (.invalid "scan.namespace" (Text.quote name ++ " is not a Go identifier")) := by
  rw [validate, hns]
  simp only [hname]
  rfl

theorem validate_of_good_ns (hns : ∀ name, c.ns = some name → isIdentifier name = true) :
    c.validate
      = if c.maxFileSize = some 0 then
          .error (.invalid "scan.max_file_size" "must be greater than 0")
        else .ok () := by
  rw [validate]
  cases h : c.ns with
  | none => rfl
  | some name =>
      simp only [hns name h]
      rfl

/-! ## Loading -/

variable {disk : Disk} {env : Environment} {root : Path} {overrides : Config}

/-- Loading without its journal. -/
theorem result_load (readError : String → String) (disk : Disk) (env : Environment) (root : Path)
    (overrides : Config) :
    (load readError disk env root overrides).result
      = (userLayer readError disk env).2.bind fun user => (projectLayer readError disk root).bind fun project =>
          let c := overrides.onTopOf ((environmentLayer env).2.onTopOf (project.onTopOf user))
          c.validate.map fun _ => c := by
  rw [load]
  cases userLayer readError disk env with
  | mk journal user =>
      cases user with
      | error e => rfl
      | ok user => cases projectLayer readError disk root <;> rfl

theorem result_load_of_merges {user project : Config} (huser : UserSettings disk env user)
    (hproject : ProjectSettings disk root project)
    (hmerges : Merges env overrides project user c) :
    (load readError disk env root overrides).result = c.validate.map fun _ => c := by
  rw [result_load, userLayer_of_settings huser, projectLayer_of_settings hproject,
    merges_iff.mp hmerges]
  rfl

theorem result_load_of_project_error {user : Config} {e : ConfigError}
    (huser : UserSettings disk env user) (hproject : projectLayer readError disk root = .error e) :
    (load readError disk env root overrides).result = .error e := by
  rw [result_load, userLayer_of_settings huser, hproject]
  rfl

theorem Loads.result_eq {r : Except ConfigError Config} (h : Loads readError disk env root overrides r) :
    (load readError disk env root overrides).result = r := by
  cases h with
  | userRefused hfile hexists htext hdecode =>
      rw [result_load, userLayer_of_refused hfile hexists htext hdecode]
      rfl
  | projectUnreadable huser hexists htext =>
      refine result_load_of_project_error huser ?_
      rw [projectLayer, if_pos hexists, fileLayer, htext]
  | projectRefused huser hexists htext hdecode =>
      refine result_load_of_project_error huser ?_
      rw [projectLayer, if_pos hexists, fileLayer, htext]
      simp only [decode, hdecode]
  | nsRefused huser hproject hmerges hns hname =>
      rw [result_load_of_merges huser hproject hmerges, validate_of_bad_ns hns hname]
      rfl
  | sizeRefused huser hproject hmerges hns hsize =>
      rw [result_load_of_merges huser hproject hmerges, validate_of_good_ns hns, if_pos hsize]
      rfl
  | loaded huser hproject hmerges hns hsize =>
      rw [result_load_of_merges huser hproject hmerges, validate_of_good_ns hns, if_neg hsize]
      rfl

/-- Once both files came to settings, one of the last three rules applies. -/
theorem exists_loads_of_settings {user project : Config} (huser : UserSettings disk env user)
    (hproject : ProjectSettings disk root project) : ∃ r, Loads readError disk env root overrides r := by
  obtain ⟨c, hmerges⟩ : ∃ c, Merges env overrides project user c := ⟨_, merges_iff.mpr rfl⟩
  by_cases hns : ∀ name, c.ns = some name → isIdentifier name = true
  · by_cases hsize : c.maxFileSize = some 0
    · exact ⟨_, .sizeRefused huser hproject hmerges hns hsize⟩
    · exact ⟨_, .loaded huser hproject hmerges hns hsize⟩
  · obtain ⟨name, hname, hbad⟩ : ∃ name, c.ns = some name ∧ isIdentifier name = false := by
      simpa using hns
    exact ⟨_, .nsRefused huser hproject hmerges hname hbad⟩

/-- The rules leave no case out. -/
theorem exists_loads (readError : String → String) (disk : Disk) (env : Environment) (root : Path)
    (overrides : Config) :
    ∃ r, Loads readError disk env root overrides r := by
  rcases userSettings_or_refused disk env with
    ⟨user, huser⟩ | ⟨file, s, hfile, hexists, htext, hdecode⟩
  · cases hexists : disk.contains (projectFile root) with
    | false => exact exists_loads_of_settings huser (.absent hexists)
    | true =>
        cases htext : disk.text (projectFile root) with
        | error cause => exact ⟨_, .projectUnreadable huser hexists htext⟩
        | ok s =>
            cases hdecode : decode? s with
            | some c => exact exists_loads_of_settings huser (.decoded hexists htext hdecode)
            | none => exact ⟨_, .projectRefused huser hexists htext hdecode⟩
  · exact ⟨_, .userRefused hfile hexists htext hdecode⟩

/-- Disks on which the project's file is the same, and the user's file comes to the same settings,
give the same configuration. -/
theorem result_load_congr {disk' : Disk} {user : Config} (huser : UserSettings disk env user)
    (huser' : UserSettings disk' env user)
    (hsize : disk'.size (projectFile root) = disk.size (projectFile root))
    (hcontent : disk'.content (projectFile root) = disk.content (projectFile root)) :
    (load readError disk' env root overrides).result = (load readError disk env root overrides).result := by
  have hcontains : disk'.contains (projectFile root) = disk.contains (projectFile root) := by
    rw [Disk.contains, Disk.contains, hsize]
  have htext : disk'.text (projectFile root) = disk.text (projectFile root) := by
    rw [Disk.text, Disk.text, hcontent]
  have hproject : projectLayer readError disk' root = projectLayer readError disk root := by
    rw [projectLayer, projectLayer, fileLayer, fileLayer, hcontains, htext]
  rw [result_load, result_load, userLayer_of_settings huser, userLayer_of_settings huser', hproject]

/-- Loading puts layers together, each setting by itself, and refuses what it cannot use in a fixed
order: it ends exactly as the rules of `Loads` say. A user file that is no text is as good as none:
on every disk that lacks it and has the same project file, loading ends in the same way. -/
theorem result_load_iff (readError : String → String) (disk : Disk) (env : Environment) (root : Path)
    (overrides : Config) :
    (∀ r, (load readError disk env root overrides).result = r ↔ Loads readError disk env root overrides r)
    ∧ ∀ file cause, userFile? env = some file → disk.text file = .error cause →
      ∀ disk' : Disk, disk'.contains file = false →
        disk'.size (projectFile root) = disk.size (projectFile root) →
        disk'.content (projectFile root) = disk.content (projectFile root) →
        (load readError disk' env root overrides).result = (load readError disk env root overrides).result := by
  constructor
  · intro r
    constructor
    · rintro rfl
      obtain ⟨r, hr⟩ := exists_loads readError disk env root overrides
      rw [hr.result_eq]
      exact hr
    · exact Loads.result_eq
  · intro file cause hfile htext disk' habsent hsize hcontent
    refine result_load_congr (.unreadable hfile htext) (.absent ?_) hsize hcontent
    intro file' hfile'
    obtain rfl := Option.some.inj (hfile.symm.trans hfile')
    exact habsent

/-- A home directory in which the user's file is no text. -/
def brokenHome : DirectoryTree :=
  ({} : DirectoryTree).addFile ["h", ".embedscan", "config.toml"] ⟨#[255]⟩

/-- The namespace of the caller is loaded past the broken file, as it is without the file. -/
theorem result_load_iff_brokenHome :
    (load (fun _ => "invalid") (brokenHome.disk []) { home := some ⟨"/h"⟩ } ⟨"/p"⟩
          { ns := some "box" }).result
        = .ok { ns := some "box" }
      ∧ (load (fun _ => "invalid") (({} : DirectoryTree).disk []) { home := some ⟨"/h"⟩ } ⟨"/p"⟩
            { ns := some "box" }).result
          = (load (fun _ => "invalid") (brokenHome.disk []) { home := some ⟨"/h"⟩ } ⟨"/p"⟩
            { ns := some "box" }).result := by
  have hfile : userFile? { home := some ⟨"/h"⟩ } = some ⟨"/h/.embedscan/config.toml"⟩ := by
    decide +kernel
  have htext : (brokenHome.disk []).text ⟨"/h/.embedscan/config.toml"⟩ = .error .notUtf8 := rfl
  obtain ⟨hiff, hsame⟩ := result_load_iff (fun _ => "invalid") (brokenHome.disk [])
    { home := some ⟨"/h"⟩ } ⟨"/p"⟩ { ns := some "box" }
  refine ⟨(hiff _).mpr ?_, hsame _ _ hfile htext _ rfl rfl rfl⟩
  have hmerges : Merges { home := some ⟨"/h"⟩ } { ns := some "box" } {} {} { ns := some "box" } :=
    merges_iff.mpr rfl
  refine .loaded (.unreadable hfile htext) (.absent rfl) hmerges ?_ nofun
  intro name hname
  obtain rfl := Option.some.inj hname
  decide +kernel

end GoAssets.Config
