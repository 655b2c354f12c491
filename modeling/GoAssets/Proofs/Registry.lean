import GoAssets.Registry
import Mathlib.Data.List.Nodup

/-!
# The index of a registry

`Registry.index` is a cache: the position that it gives for a directory is the one that a search
through the bundles finds. `Registry.Indexed` states this once. Entering a directory keeps it
(`Indexed.enter`), and so does replacing a bundle by another one of the same directory
(`Indexed.update`); the position that `enter` returns always holds a bundle of that directory, so
no look-up leaves the list of bundles.

The last part says what the operations do to the list of bundles alone (`enter_eq`, `enter_cases`,
`toList_update`, `edit_eq`, `get?_eq_bundleFor?`), so that proofs about runs need not look at positions.
-/

namespace GoAssets.Registry

/-- The search that the index stands for. -/
def position? (bundles : List Bundle) (key : List Path.Component) : Option Nat :=
  bundles.findIdx? (fun b => b.baseDir.components == key)

/-- The index and the bundles say the same, and no directory has two bundles. -/
structure Indexed (r : Registry) : Prop where
  index_eq : ∀ key, r.index[key]? = position? r.bundles.toList key
  distinct : (r.bundles.toList.map (·.baseDir.components)).Nodup

theorem indexed_empty : Indexed empty where
  index_eq key := by simp [empty, position?]
  distinct := by simp [empty]

theorem position?_eq_none_iff {bundles : List Bundle} {key : List Path.Component} :
    position? bundles key = none ↔ ∀ b ∈ bundles, b.baseDir.components ≠ key := by
  simp [position?, List.findIdx?_eq_none_iff]

theorem exists_of_position?_eq_some {bundles : List Bundle} {key : List Path.Component} {i : Nat}
    (h : position? bundles key = some i) :
    ∃ b, bundles[i]? = some b ∧ b.baseDir.components = key := by
  obtain ⟨hi, hkey, -⟩ := List.findIdx?_eq_some_iff_getElem.mp h
  exact ⟨bundles[i], List.getElem?_eq_getElem hi, eq_of_beq hkey⟩

variable {r : Registry}

/-- Entering a directory that was met finds its bundle and changes nothing. -/
theorem enter_of_mem (h : r.Indexed) {dir : Path} (caller : Path) (package : String) {b : Bundle}
    (hb : b ∈ r.bundles.toList) (hdir : b.baseDir.components = dir.components) :
    ∃ i, r.enter dir caller package = (r, i) ∧
      ∃ b', r.bundles.toList[i]? = some b' ∧ b'.baseDir.components = dir.components := by
  cases hpos : position? r.bundles.toList dir.components with
  | none => exact absurd hdir (position?_eq_none_iff.mp hpos b hb)
  | some i =>
      refine ⟨i, ?_, exists_of_position?_eq_some hpos⟩
      rw [enter, h.index_eq, hpos]

/-- Entering a new directory opens a bundle after all others. -/
theorem enter_of_new (h : r.Indexed) {dir : Path} (caller : Path) (package : String)
    (hnew : ∀ b ∈ r.bundles.toList, b.baseDir.components ≠ dir.components) :
    r.enter dir caller package =
      ({ bundles := r.bundles.push (Bundle.empty dir caller package)
         index := r.index.insert dir.components r.bundles.size }, r.bundles.size) := by
  rw [enter, h.index_eq, position?_eq_none_iff.mpr hnew]

theorem Indexed.push (h : r.Indexed) {dir caller : Path} {package : String}
    (hnew : ∀ b ∈ r.bundles.toList, b.baseDir.components ≠ dir.components) :
    Indexed
      { bundles := r.bundles.push (Bundle.empty dir caller package)
        index := r.index.insert dir.components r.bundles.size } where
  index_eq key := by
    have hnone := position?_eq_none_iff.mpr hnew
    rw [Std.HashMap.getElem?_insert, h.index_eq]
    by_cases hkey : dir.components = key
    · subst hkey
      rw [position?] at hnone
      simp [position?, hnone, Bundle.empty]
    · simp [position?, hkey, Bundle.empty]
  distinct := by
    simp only [Array.toList_push, List.map_append, List.map_cons, List.map_nil]
    refine List.nodup_append.mpr ⟨h.distinct, by simp, ?_⟩
    intro a ha b hb
    obtain ⟨bundle, hmem, rfl⟩ := List.mem_map.mp ha
    obtain rfl := List.mem_singleton.mp hb
    exact hnew bundle hmem

theorem Indexed.enter (h : r.Indexed) (dir caller : Path) (package : String) :
    (r.enter dir caller package).1.Indexed := by
  by_cases hmet : ∃ b ∈ r.bundles.toList, b.baseDir.components = dir.components
  · obtain ⟨b, hb, hdir⟩ := hmet
    obtain ⟨i, heq, -⟩ := enter_of_mem h caller package hb hdir
    rw [heq]
    exact h
  · have hnew : ∀ b ∈ r.bundles.toList, b.baseDir.components ≠ dir.components :=
      fun b hb hdir => hmet ⟨b, hb, hdir⟩
    rw [enter_of_new h caller package hnew]
    exact h.push hnew

/-- Replacing a bundle by one of the same directory keeps the index right. -/
theorem Indexed.update (h : r.Indexed) {i : Nat} {b b' : Bundle}
    (hi : r.bundles.toList[i]? = some b) (hdir : b'.baseDir = b.baseDir) :
    (r.update i b').Indexed := by
  have hmap : (r.update i b').bundles.toList.map (·.baseDir.components)
      = r.bundles.toList.map (·.baseDir.components) := by
    obtain ⟨hlt, rfl⟩ := List.getElem?_eq_some_iff.mp hi
    rw [Registry.update, Array.toList_setIfInBounds, List.map_set, hdir, ← List.map_set,
      List.set_getElem_self]
  refine ⟨fun key => ?_, hmap ▸ h.distinct⟩
  have hpos : ∀ bundles : List Bundle, position? bundles key
      = (bundles.map (·.baseDir.components)).findIdx? (· == key) := fun bundles => by
    rw [position?, List.findIdx?_map]
    rfl
  rw [hpos, hmap, ← hpos]
  exact h.index_eq key

/-! ## Bundles as a list -/

/-- The bundles after a directory was entered: there is one more if the directory is new. -/
def opened (bundles : List Bundle) (dir caller : Path) (package : String) : List Bundle :=
  if bundles.any (·.baseDir.components == dir.components) then bundles
  else bundles ++ [Bundle.empty dir caller package]

theorem bundleAt?_eq (r : Registry) (i : Nat) : r.bundleAt? i = r.bundles.toList[i]? :=
  Array.getElem?_toList.symm

theorem mem_opened_of_mem {bundles : List Bundle} {dir caller : Path} {package : String}
    {b : Bundle} (hb : b ∈ bundles) : b ∈ opened bundles dir caller package := by
  rw [opened]
  split
  · exact hb
  · exact List.mem_append_left _ hb

/-- Entering a directory opens it, and returns a position at which a bundle of it stands. -/
theorem enter_eq (h : r.Indexed) (dir caller : Path) (package : String) :
    ∃ r' i b, r.enter dir caller package = (r', i) ∧ r'.Indexed
      ∧ r'.bundles.toList = opened r.bundles.toList dir caller package
      ∧ r'.bundles.toList[i]? = some b ∧ b.baseDir.components = dir.components := by
  have hindexed := h.enter dir caller package
  rw [opened]
  split
  · rename_i hmet
    obtain ⟨b, hb, hdir⟩ := List.any_eq_true.mp hmet
    obtain ⟨i, henter, b', hi, hb'⟩ := enter_of_mem h caller package hb (eq_of_beq hdir)
    rw [henter] at hindexed ⊢
    exact ⟨r, i, b', rfl, hindexed, rfl, hi, hb'⟩
  · rename_i hmet
    have hnew : ∀ b ∈ r.bundles.toList, b.baseDir.components ≠ dir.components := by
      intro b hb hdir
      exact hmet (List.any_eq_true.mpr ⟨b, hb, beq_iff_eq.mpr hdir⟩)
    have henter := enter_of_new h caller package hnew
    rw [henter] at hindexed ⊢
    refine ⟨_, _, Bundle.empty dir caller package, rfl, hindexed, Array.toList_push .., ?_, rfl⟩
    rw [Array.toList_push, ← Array.length_toList, List.getElem?_concat_length]

/-- Entering a directory gives a place at which a bundle of it stands, and leaves all others. -/
theorem enter_cases (h : r.Indexed) (dir caller : Path) (package : String) :
    ∃ r' i b, r.enter dir caller package = (r', i) ∧ r'.Indexed
      ∧ r'.bundles.toList[i]? = some b ∧ b.baseDir.components = dir.components
      ∧ (∀ j, j ≠ i → r'.bundles.toList[j]? = r.bundles.toList[j]?)
      ∧ (r.bundles.toList[i]? = some b
        ∨ r.bundles.toList[i]? = none ∧ b = Bundle.empty dir caller package) := by
  obtain ⟨r', i, b, henter, hindexed, hlist, hi, hdir⟩ := enter_eq h dir caller package
  refine ⟨r', i, b, henter, hindexed, hi, hdir, ?_⟩
  rw [hlist] at hi ⊢
  rw [opened] at hi ⊢
  split
  · rename_i hmet
    rw [if_pos hmet] at hi
    exact ⟨fun _ _ => rfl, .inl hi⟩
  · rename_i hmet
    rw [if_neg hmet] at hi
    -- The bundle of the directory is the new one, so its place is the end of the list.
    obtain hlt | hge := Nat.lt_or_ge i r.bundles.toList.length
    · rw [List.getElem?_append_left hlt] at hi
      have hfound : (r.bundles.toList.any (·.baseDir.components == dir.components)) = true :=
        List.any_eq_true.mpr ⟨b, List.mem_of_getElem? hi, beq_iff_eq.mpr hdir⟩
      exact absurd hfound hmet
    · obtain ⟨hlt, rfl⟩ := List.getElem?_eq_some_iff.mp hi
      obtain rfl : i = r.bundles.toList.length := by
        rw [List.length_append, List.length_singleton] at hlt
        omega
      refine ⟨?_, .inr ⟨List.getElem?_eq_none hge, List.getElem_concat_length rfl _⟩⟩
      intro j hj
      obtain hj | hj := Nat.lt_or_gt_of_ne hj
      · exact List.getElem?_append_left hj
      · rw [List.getElem?_eq_none (Nat.le_of_lt hj), List.getElem?_eq_none]
        rw [List.length_append, List.length_singleton]
        exact hj

/-- Replacing a bundle changes it wherever its directory stands, which is one place. -/
theorem toList_update (h : r.Indexed) {i : Nat} {b : Bundle} (hi : r.bundles.toList[i]? = some b)
    (b' : Bundle) :
    (r.update i b').bundles.toList = r.bundles.toList.map fun c =>
      if c.baseDir.components = b.baseDir.components then b' else c := by
  obtain ⟨hlt, rfl⟩ := List.getElem?_eq_some_iff.mp hi
  rw [Registry.update, Array.toList_setIfInBounds]
  refine List.ext_getElem (by simp) fun j hj hj' => ?_
  rw [List.length_map] at hj'
  rw [List.getElem_set, List.getElem_map]
  by_cases hij : i = j
  · subst hij
    rw [if_pos rfl, if_pos rfl]
  · -- Another position holds another directory.
    have hne : r.bundles.toList[j].baseDir.components
        ≠ r.bundles.toList[i].baseDir.components := by
      intro hsame
      refine hij ((List.getElem?_inj (by simpa using hlt) h.distinct).mp ?_)
      simp only [List.getElem?_map, List.getElem?_eq_getElem hlt, List.getElem?_eq_getElem hj',
        Option.map_some, hsame]
    rw [if_neg hij, if_neg hne]

theorem edit_eq (h : r.Indexed) {α : Type} {change : Bundle → Bundle × α}
    (hchange : ∀ b, (change b).1.baseDir = b.baseDir) (dir caller : Path) (package : String) :
    ∃ r' b, r.edit dir caller package change = (r', (change b).2) ∧ r'.Indexed
      ∧ b ∈ opened r.bundles.toList dir caller package ∧ b.baseDir.components = dir.components
      ∧ r'.bundles.toList = (opened r.bundles.toList dir caller package).map fun c =>
          if c.baseDir.components = dir.components then (change c).1 else c := by
  obtain ⟨r', i, b, henter, hindexed, hlist, hi, hdir⟩ := enter_eq h dir caller package
  have hat : r'.bundleAt? i = some b := (r'.bundleAt?_eq i).trans hi
  refine ⟨r'.update i (change b).1, b, ?_, hindexed.update hi (hchange b), ?_, hdir, ?_⟩
  · rw [edit, henter]
    simp only [hat, Option.getD_some]
  · rw [← hlist]
    exact List.mem_of_getElem? hi
  · rw [toList_update hindexed hi, hlist]
    refine List.map_congr_left fun c hc => ?_
    rw [hdir]
    split
    · -- The directory has one bundle, so `c` is the one that was changed.
      rename_i hcdir
      have hsame : c = b := List.inj_on_of_nodup_map hindexed.distinct (hlist ▸ hc)
        (List.mem_of_getElem? hi) (hcdir.trans hdir.symm)
      rw [hsame]
    · rfl

theorem get?_eq_bundleFor? (h : r.Indexed) (dir : Path) :
    r.get? dir = r.inventory.bundleFor? dir := by
  rw [get?, h.index_eq, position?, Inventory.bundleFor?, List.find?_eq_bind_findIdx?_getElem?]
  simp only [inventory, Array.getElem?_toList]
  rfl

end GoAssets.Registry
