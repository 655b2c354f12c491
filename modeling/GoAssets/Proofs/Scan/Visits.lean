import GoAssets.Proofs.Path.SourceDir
import GoAssets.Proofs.Scan.Extension

/-!
# Every file finds its own directory

A bundle is looked up by the components of a directory and keeps the spelling of the file that opened
it; groups are located from that spelling, also those of the files that come later. That these never
see a foreign spelling is stated of the run itself. A `Visit` records one look into a file: the place
of the bundle that it was given, and the bundle before and after. `Inventory.Accounted` says what the
visits of a scan have to do with its bundles: each was given a bundle of its own directory, letter for
letter, and together they put there all that is in it.

- `FileState.Declares` says which groups the statements of a file bring into play, and
  `Visit.Happens` what a visit does to a session; every tree that is scanned is a visit
  (`Session.exists_visit`).
- `Session.Accounts` is kept by a visit (`Accounts.visit`), hence by a scan (`Accounts.scanAll`),
  wherever its inputs come from (`Loader`).

The spelling is settled at one point, in `Accounts.sourceDir_eq`: a bundle that is found was opened by
a visit, so its directory is that of a source file, and such a directory has one spelling.
-/

namespace GoAssets

/-! ## The groups of one file -/

namespace FileState

/-- Statements of a file in `dir` declared the given groups: they were located from `dir`, and only
they and the groups of before can be referred to. -/
structure Declares (sc : Scanner) (dir : Path) (groups : List Group) (s s' : FileState) : Prop where
  groups_eq : s'.bundle.groups = s.bundle.groups ++ groups
  located : ∀ g ∈ groups, sc.locate dir g.localPath = .ok g.fullPath
  table : ∀ name g, s'.groups.get? name = some g → s.groups.get? name = some g ∨ g ∈ groups
  referred : ∀ a ∈ s'.bundle.assets, ∀ g, a.group = some g →
    a ∈ s.bundle.assets ∨ (∃ name, s.groups.get? name = some g) ∨ g ∈ groups

variable {sc : Scanner} {dir : Path} {s s' s'' : FileState} {groups groups' : List Group}

theorem Declares.refl (s : FileState) : Declares sc dir [] s s where
  groups_eq := (List.append_nil _).symm
  located := List.forall_mem_nil _
  table := fun _ _ h => .inl h
  referred := fun _ ha _ _ => .inl ha

theorem Declares.trans (h : Declares sc dir groups s s') (h' : Declares sc dir groups' s' s'') :
    Declares sc dir (groups ++ groups') s s'' where
  groups_eq := by rw [h'.groups_eq, h.groups_eq, List.append_assoc]
  located := fun g hg => (List.mem_append.mp hg).elim (h.located g) (h'.located g)
  table := by
    intro name g hg
    rcases h'.table name g hg with hg | hg
    · exact (h.table name g hg).imp_right (List.mem_append_left _)
    · exact .inr (List.mem_append_right _ hg)
  referred := by
    intro a ha g hg
    rcases h'.referred a ha g hg with ha | ⟨name, hname⟩ | hmem
    · exact (h.referred a ha g hg).imp_right (Or.imp_right (List.mem_append_left _))
    · rcases h.table name g hname with hname | hmem
      · exact .inr (.inl ⟨name, hname⟩)
      · exact .inr (.inr (List.mem_append_left _ hmem))
    · exact .inr (.inr (List.mem_append_right _ hmem))

theorem declares_effect (sc : Scanner) (stmt : Statement) (s : FileState)
    (journal : Array ScanEvent) :
    Declares sc s.bundle.baseDir (sc.declared? s.bundle.baseDir stmt).toList s
      { bundle := (sc.effect stmt s.bundle s.groups).bundle
        groups := (sc.effect stmt s.bundle s.groups).groups, journal } where
  groups_eq := by
    rw [Scanner.effect_bundle]
    cases sc.referenceTo? s.groups.get? stmt <;> cases sc.declared? s.bundle.baseDir stmt <;>
      simp [Scanner.declareIn, Scanner.recordIn, Bundle.addGroup, Bundle.addAsset_fst]
  located := fun g hg => Scanner.locate_of_declared? (Option.mem_toList.mp hg)
  table := by
    intro name g hg
    rw [Scanner.effect_groups] at hg
    cases hdecl : sc.declared? s.bundle.baseDir stmt with
    | none =>
        rw [hdecl] at hg
        exact .inl hg
    | some declared =>
        rw [hdecl, GroupTable.get?_register] at hg
        split at hg
        · obtain rfl := Option.some.inj hg
          exact .inr (List.mem_singleton_self _)
        · exact .inl hg
  referred := by
    intro a ha g hg
    rw [Scanner.effect_bundle] at ha
    have ha : a ∈ (Scanner.recordIn s.bundle (sc.referenceTo? s.groups.get? stmt)).assets := by
      cases hdecl : sc.declared? s.bundle.baseDir stmt <;> rw [hdecl] at ha <;> exact ha
    cases href : sc.referenceTo? s.groups.get? stmt with
    | none =>
        rw [href] at ha
        exact .inl ha
    | some reference =>
        rw [href, Scanner.recordIn, Bundle.addAsset_fst] at ha
        dsimp only at ha
        split at ha
        · exact .inl ha
        · rcases List.mem_append.mp ha with ha | ha
          · exact .inl ha
          · obtain rfl := List.mem_singleton.mp ha
            exact .inr (.inl (Scanner.exists_get?_of_referenceTo? href hg))

theorem declares_resolve (sc : Scanner) (file : Path) (stmt : Statement) (s : FileState) :
    ∃ groups, Declares sc s.bundle.baseDir groups s (s.resolve sc file stmt).1 := by
  rcases resolve_fails_or_counts sc file stmt s with ⟨e, hres⟩ | ⟨journal, hres⟩
  · rw [hres]
    exact ⟨[], .refl s⟩
  · rw [hres]
    exact ⟨_, declares_effect sc stmt s _⟩

theorem declares_resolveAll (sc : Scanner) (file : Path) (stmts : List Statement) (s : FileState) :
    ∃ groups, Declares sc s.bundle.baseDir groups s (s.resolveAll sc file stmts).1 := by
  induction stmts generalizing s with
  | nil => exact ⟨[], .refl s⟩
  | cons stmt stmts ih =>
      obtain ⟨groups, hfirst⟩ := declares_resolve sc file stmt s
      have hdir := (extends_resolve sc file stmt s).baseDir_eq
      rw [resolveAll]
      cases hres : s.resolve sc file stmt with
      | mk s' stop =>
          rw [hres] at hfirst hdir
          cases stop with
          | some e => exact ⟨groups, hfirst⟩
          | none =>
              obtain ⟨groups', hrest⟩ := ih s'
              rw [← hdir] at hrest
              exact ⟨groups ++ groups', hfirst.trans hrest⟩

end FileState

/-! ## Visits -/

/-- One look of a scan into a file: the place of the bundle that the file was given, and the bundle
before and after. -/
structure Visit where
  file : Path
  position : Nat
  found : Bundle
  left : Bundle

namespace Visit

def groups (v : Visit) : List Group := v.left.groups.drop v.found.groups.length

def assets (v : Visit) : List Asset := v.left.assets.drop v.found.assets.length

end Visit

/-- How a scan comes by its inputs: the file of an input, and its text or why there is none. -/
def Loader (α : Type) := α → Path × Except ScanError String

/-- The file of an input and its tree, if the scan gets to see one. -/
def Loader.tree? {α : Type} (load : Loader α) (sc : Scanner) (input : α) :
    Option (Path × SourceTree) :=
  match load input with
  | (_, .error _) => none
  | (file, .ok source) => (parseSource sc.recover file source).toOption.map (file, ·)

/-- The file of an input, if its text can be had. -/
def Loader.file? {α : Type} (load : Loader α) (input : α) : Option Path :=
  match load input with
  | (_, .error _) => none
  | (file, .ok _) => some file

namespace Session

variable {α : Type}

def scanLoaded (sc : Scanner) (load : Loader α) (input : α) (s : Session) :
    Session × Option Error :=
  match load input with
  | (_, .error cause) => s.meet cause
  | (file, .ok source) => s.scanText sc file source

def visit? (s : Session) (sc : Scanner) (file : Path) (tree : SourceTree) : Option Visit := do
  let (registry, position) := s.registry.enter file.sourceDir file tree.package
  let found ← registry.bundleAt? position
  let left ← (s.scanTree sc file tree).1.registry.bundleAt? position
  return { file, position, found, left }

def visitOf? (s : Session) (sc : Scanner) (load : Loader α) (input : α) : Option Visit :=
  (load.tree? sc input).bind fun seen => s.visit? sc seen.1 seen.2

/-- The visits of a scan that goes on from a session, up to the input that ends it. -/
def visits (sc : Scanner) (load : Loader α) (s : Session) : List α → List Visit
  | [] => []
  | input :: inputs =>
    (s.visitOf? sc load input).toList
      ++ match scanLoaded sc load input s with
        | (_, some _) => []
        | (s', none) => visits sc load s' inputs

/-- An input shows a tree, which is scanned, or nothing that bears on bundles and groups. -/
theorem scanLoaded_cases (sc : Scanner) (load : Loader α) (input : α) (s : Session) :
    (∃ file tree, load.tree? sc input = some (file, tree) ∧ load.file? input = some file
      ∧ scanLoaded sc load input s = s.scanTree sc file tree)
    ∨ load.tree? sc input = none
      ∧ (scanLoaded sc load input s).1.registry = s.registry
      ∧ (scanLoaded sc load input s).1.groups = s.groups
      ∧ (load.file? input = none ∨ (scanLoaded sc load input s).2.isSome) := by
  rw [scanLoaded, Loader.tree?, Loader.file?]
  generalize load input = loaded
  obtain ⟨file, cause | source⟩ := loaded
  · refine .inr ⟨rfl, ?_, ?_, .inl rfl⟩ <;> dsimp only [meet] <;> split <;> rfl
  · simp only [scanText]
    cases parseSource sc.recover file source with
    | error cause => exact .inr ⟨rfl, rfl, rfl, .inr rfl⟩
    | ok tree => exact .inl ⟨file, tree, rfl, rfl, rfl⟩

theorem registry_groups_leave (s : Session) (r : Registry) (i : Nat)
    (outcome : FileState × Option ScanError) :
    (s.leave r i outcome).1.registry = r.update i outcome.1.bundle
      ∧ (s.leave r i outcome).1.groups = outcome.1.groups := by
  obtain ⟨state, stop⟩ := outcome
  cases stop with
  | none => exact ⟨rfl, rfl⟩
  | some cause =>
      dsimp only [leave, meet]
      split <;> exact ⟨rfl, rfl⟩

end Session

/-- What a visit does to a session: the bundle at its place is replaced, or opened, and only added
to. -/
structure Visit.Happens (sc : Scanner) (v : Visit) (s s' : Session) : Prop where
  indexed : s'.registry.Indexed
  bundles : ∀ j, s'.registry.inventory.bundles[j]?
    = if j = v.position then some v.left else s.registry.inventory.bundles[j]?
  found : s.registry.inventory.bundles[v.position]? = some v.found
    ∨ s.registry.inventory.bundles[v.position]? = none
      ∧ ∃ package, v.found = Bundle.empty v.file.sourceDir v.file package
  components_eq : v.found.baseDir.components = v.file.sourceDir.components
  extends_left : v.found.Extends v.left
  declares : ∃ journal journal', FileState.Declares sc v.found.baseDir v.groups
    ⟨v.found, s.groups, journal⟩ ⟨v.left, s'.groups, journal'⟩

namespace Session

theorem exists_visit {s : Session} (hs : s.registry.Indexed) (sc : Scanner) (file : Path)
    (tree : SourceTree) :
    ∃ v : Visit, s.visit? sc file tree = some v ∧ v.file = file
      ∧ v.Happens sc s (s.scanTree sc file tree).1 := by
  obtain ⟨r, i, b, henter, hindexed, hi, hdir, hothers, hfound⟩ :=
    Registry.enter_cases hs file.sourceDir file tree.package
  have hscan : s.scanTree sc file tree = _ := scanTree_of_enter henter hi
  have hextends := FileState.extends_resolveAll sc file
    (tree.root.preorder.filterMap Tree.statement?) ⟨b, s.groups, s.journal⟩
  obtain ⟨groups, hdeclares⟩ := FileState.declares_resolveAll sc file
    (tree.root.preorder.filterMap Tree.statement?) ⟨b, s.groups, s.journal⟩
  generalize FileState.resolveAll sc file ⟨b, s.groups, s.journal⟩
    (tree.root.preorder.filterMap Tree.statement?) = outcome at hscan hextends hdeclares
  obtain ⟨hregistry, hgroups⟩ := registry_groups_leave s r i outcome
  rw [← hscan] at hregistry hgroups
  have hleft : (r.update i outcome.1.bundle).bundles.toList[i]? = some outcome.1.bundle := by
    obtain ⟨hlt, -⟩ := List.getElem?_eq_some_iff.mp hi
    rw [Registry.update, Array.toList_setIfInBounds, List.getElem?_set_self hlt]
  refine ⟨⟨file, i, b, outcome.1.bundle⟩, ?_, rfl, ?_⟩
  · rw [visit?, henter]
    simp only [Registry.bundleAt?_eq, hi, hregistry, hleft]
    rfl
  · have hadded : groups = Visit.groups ⟨file, i, b, outcome.1.bundle⟩ := by
      rw [Visit.groups, hdeclares.groups_eq, List.drop_left]
    refine ⟨?_, ?_, ?_, hdir, hextends, s.journal, outcome.1.journal, ?_⟩
    · rw [hregistry]
      exact hindexed.update hi hextends.baseDir_eq.symm
    · intro j
      rw [hregistry]
      dsimp only [Registry.inventory]
      split
      · rename_i hj
        rw [hj, hleft]
      · rename_i hj
        rw [Registry.update, Array.toList_setIfInBounds, List.getElem?_set_ne (Ne.symm hj),
          hothers j hj]
    · exact hfound.imp_right fun h => ⟨h.1, tree.package, h.2⟩
    · rw [hgroups, ← hadded]
      exact hdeclares

end Session

/-! ## The account of a scan -/

/-- What the visits to one place brought there. -/
def contributed {β : Type} (part : Visit → List β) (i : Nat) (visits : List Visit) : List β :=
  (visits.filter (·.position == i)).flatMap part

section Contributed

variable {β : Type} {part : Visit → List β} {i : Nat} {visits : List Visit} {v : Visit}

theorem contributed_concat_same (h : v.position = i) :
    contributed part i (visits ++ [v]) = contributed part i visits ++ part v := by
  simp [contributed, h]

theorem contributed_concat_other (h : v.position ≠ i) :
    contributed part i (visits ++ [v]) = contributed part i visits := by
  simp [contributed, h]

theorem contributed_of_unvisited (h : ∀ v ∈ visits, v.position ≠ i) :
    contributed part i visits = [] := by
  rw [contributed, List.filter_eq_nil_iff.mpr, List.flatMap_nil]
  intro v hv
  simpa using h v hv

end Contributed

/-- The bundles of an inventory are accounted for by visits. -/
structure Inventory.Accounted (sc : Scanner) (visits : List Visit) (inv : Inventory) : Prop where
  opened : ∀ i b, inv.bundles[i]? = some b → ∃ v ∈ visits, v.position = i
  /-- Every file was given a bundle whose directory is that of the file, to the letter. -/
  baseDir_eq : ∀ v ∈ visits, ∃ b, inv.bundles[v.position]? = some b
    ∧ b.baseDir = v.file.sourceDir
  groups_eq : ∀ i b, inv.bundles[i]? = some b → b.groups = contributed Visit.groups i visits
  assets_eq : ∀ i b, inv.bundles[i]? = some b → b.assets = contributed Visit.assets i visits
  /-- Every group was located from the directory of the file that declares it. -/
  located : ∀ v ∈ visits, ∀ g ∈ v.groups, sc.locate v.file.sourceDir g.localPath = .ok g.fullPath
  /-- A group that an asset carries along is a group of some file, too. -/
  referred : ∀ b ∈ inv.bundles, ∀ a ∈ b.assets, ∀ g, a.group = some g →
    ∃ v ∈ visits, g ∈ v.groups

namespace Session

structure Accounts (sc : Scanner) (visits : List Visit) (s : Session) : Prop where
  indexed : s.registry.Indexed
  inventory : s.registry.inventory.Accounted sc visits
  table : ∀ name g, s.groups.get? name = some g → ∃ v ∈ visits, g ∈ v.groups

variable {sc : Scanner} {visits : List Visit} {v : Visit} {s s' : Session}

theorem accounts_start (sc : Scanner) (files : Option Nat) : (start files).Accounts sc [] where
  indexed := Registry.indexed_empty
  inventory := by
    refine ⟨?_, ?_, ?_, ?_, ?_, ?_⟩ <;> simp [start, Registry.inventory, Registry.empty]
  table := by simp [start, GroupTable.empty, GroupTable.get?]

/-- A bundle that a visit finds has the directory of the visiting file, to the letter. -/
theorem Accounts.sourceDir_eq (h : s.Accounts sc visits) (hv : v.Happens sc s s') :
    v.found.baseDir = v.file.sourceDir := by
  rcases hv.found with hfound | ⟨-, package, hfound⟩
  · obtain ⟨w, hw, hposition⟩ := h.inventory.opened _ _ hfound
    obtain ⟨b, hb, hdir⟩ := h.inventory.baseDir_eq w hw
    rw [hposition] at hb
    obtain rfl := Option.some.inj (hfound.symm.trans hb)
    have hcomponents := hv.components_eq
    rw [hdir] at hcomponents ⊢
    exact Path.sourceDir_eq_of_components_eq hcomponents
  · rw [hfound]
    rfl

/-- A bundle that a visit finds holds what the visits before brought there. -/
theorem Accounts.found_eq (h : s.Accounts sc visits) (hv : v.Happens sc s s') :
    v.found.groups = contributed Visit.groups v.position visits
      ∧ v.found.assets = contributed Visit.assets v.position visits := by
  rcases hv.found with hfound | ⟨hnone, package, hfound⟩
  · exact ⟨h.inventory.groups_eq _ _ hfound, h.inventory.assets_eq _ _ hfound⟩
  · have hunvisited : ∀ w ∈ visits, w.position ≠ v.position := by
      intro w hw hposition
      obtain ⟨b, hb, -⟩ := h.inventory.baseDir_eq w hw
      rw [hposition, hnone] at hb
      cases hb
    rw [hfound, contributed_of_unvisited hunvisited, contributed_of_unvisited hunvisited]
    exact ⟨rfl, rfl⟩

theorem bundle_cases (hv : v.Happens sc s s') {i : Nat} {b : Bundle}
    (h : s'.registry.inventory.bundles[i]? = some b) :
    i = v.position ∧ b = v.left
    ∨ i ≠ v.position ∧ s.registry.inventory.bundles[i]? = some b := by
  rw [hv.bundles] at h
  split at h
  · exact .inl ⟨‹_›, (Option.some.inj h).symm⟩
  · exact .inr ⟨‹_›, h⟩

theorem contributed_visit {β : Type} {view : Bundle → List β} {part : Visit → List β}
    (hv : v.Happens sc s s') (hleft : view v.left = view v.found ++ part v)
    (hfound : view v.found = contributed part v.position visits)
    (hbefore : ∀ i b, s.registry.inventory.bundles[i]? = some b →
      view b = contributed part i visits) :
    ∀ i b, s'.registry.inventory.bundles[i]? = some b →
      view b = contributed part i (visits ++ [v]) := by
  intro i b hb
  rcases bundle_cases hv hb with ⟨rfl, rfl⟩ | ⟨hi, hb⟩
  · rw [contributed_concat_same rfl, hleft, hfound]
  · rw [contributed_concat_other hi.symm, hbefore i b hb]

theorem Accounts.baseDir_visit (h : s.Accounts sc visits) (hv : v.Happens sc s s') :
    ∀ w ∈ visits ++ [v], ∃ b, s'.registry.inventory.bundles[w.position]? = some b
      ∧ b.baseDir = w.file.sourceDir := by
  intro w hw
  rw [hv.bundles]
  split
  · rename_i hposition
    refine ⟨v.left, rfl, hv.extends_left.baseDir_eq.symm.trans ?_⟩
    rcases List.mem_append.mp hw with hw | hw
    · -- An earlier file of the place: the bundle has been there since, so it is the one found.
      obtain ⟨b, hb, hdir⟩ := h.inventory.baseDir_eq w hw
      rw [hposition] at hb
      rcases hv.found with hfound | ⟨hnone, -⟩
      · obtain rfl := Option.some.inj (hfound.symm.trans hb)
        exact hdir
      · rw [hnone] at hb
        cases hb
    · obtain rfl := List.mem_singleton.mp hw
      exact h.sourceDir_eq hv
  · rename_i hposition
    rcases List.mem_append.mp hw with hw | hw
    · exact h.inventory.baseDir_eq w hw
    · obtain rfl := List.mem_singleton.mp hw
      exact absurd rfl hposition

/-- The groups that come into play with a visit are those of before and those that it declares. -/
theorem Accounts.referred_visit (h : s.Accounts sc visits) (hv : v.Happens sc s s') :
    (∀ name g, s'.groups.get? name = some g → ∃ w ∈ visits ++ [v], g ∈ w.groups)
    ∧ ∀ b ∈ s'.registry.inventory.bundles, ∀ a ∈ b.assets, ∀ g, a.group = some g →
      ∃ w ∈ visits ++ [v], g ∈ w.groups := by
  obtain ⟨_, _, hdeclares⟩ := hv.declares
  have hbefore : ∀ {g : Group}, (∃ w ∈ visits, g ∈ w.groups) → ∃ w ∈ visits ++ [v], g ∈ w.groups :=
    fun ⟨w, hw, hg⟩ => ⟨w, List.mem_append_left _ hw, hg⟩
  have hnow : ∀ {g : Group}, g ∈ v.groups → ∃ w ∈ visits ++ [v], g ∈ w.groups :=
    fun hg => ⟨v, List.mem_append_right _ (List.mem_singleton_self v), hg⟩
  constructor
  · intro name g hg
    rcases hdeclares.table name g hg with hg | hg
    · exact hbefore (h.table name g hg)
    · exact hnow hg
  · intro b hb a ha g hg
    obtain ⟨i, hb⟩ := List.mem_iff_getElem?.mp hb
    have hold : ∀ c, s.registry.inventory.bundles[i]? = some c → a ∈ c.assets →
        ∃ w ∈ visits ++ [v], g ∈ w.groups := by
      intro c hc ha
      exact hbefore (h.inventory.referred c (List.mem_of_getElem? hc) a ha g hg)
    rcases bundle_cases hv hb with ⟨rfl, rfl⟩ | ⟨-, hb⟩
    · rcases hdeclares.referred a ha g hg with ha | ⟨name, hname⟩ | hmem
      · rcases hv.found with hfound | ⟨-, package, hfound⟩
        · exact hold _ hfound ha
        · rw [hfound] at ha
          cases ha
      · exact hbefore (h.table name g hname)
      · exact hnow hmem
    · exact hold b hb ha

theorem Accounts.visit (h : s.Accounts sc visits) (hv : v.Happens sc s s') :
    s'.Accounts sc (visits ++ [v]) := by
  obtain ⟨hgroups, hassets⟩ := h.found_eq hv
  obtain ⟨htable, hreferred⟩ := h.referred_visit hv
  refine ⟨hv.indexed, ⟨?_, h.baseDir_visit hv, ?_, ?_, ?_, hreferred⟩, htable⟩
  · intro i b hb
    rcases bundle_cases hv hb with ⟨rfl, -⟩ | ⟨-, hb⟩
    · exact ⟨v, List.mem_append_right _ (List.mem_singleton_self v), rfl⟩
    · obtain ⟨w, hw, hposition⟩ := h.inventory.opened i b hb
      exact ⟨w, List.mem_append_left _ hw, hposition⟩
  · exact contributed_visit hv (List.prefix_iff_eq_append.mp hv.extends_left.groups).symm hgroups
      h.inventory.groups_eq
  · exact contributed_visit hv (List.prefix_iff_eq_append.mp hv.extends_left.assets).symm hassets
      h.inventory.assets_eq
  · intro w hw g hg
    rcases List.mem_append.mp hw with hw | hw
    · exact h.inventory.located w hw g hg
    · obtain rfl := List.mem_singleton.mp hw
      obtain ⟨_, _, hdeclares⟩ := hv.declares
      rw [← h.sourceDir_eq hv]
      exact hdeclares.located g hg

theorem Accounts.scanLoaded {α : Type} (h : s.Accounts sc visits) (load : Loader α) (input : α) :
    (Session.scanLoaded sc load input s).1.Accounts sc
        (visits ++ (s.visitOf? sc load input).toList)
      ∧ ((Session.scanLoaded sc load input s).2 = none →
        (s.visitOf? sc load input).map Visit.file = load.file? input) := by
  rw [visitOf?]
  rcases scanLoaded_cases sc load input s with
    ⟨file, tree, htree, hfile, hstep⟩ | ⟨htree, hregistry, hgroups, hfile⟩
  · obtain ⟨v, hvisit, rfl, hv⟩ := exists_visit h.indexed sc file tree
    simp only [htree, hfile, hstep, Option.bind_some, hvisit]
    exact ⟨h.visit hv, fun _ => rfl⟩
  · rw [htree, Option.bind_none, Option.toList_none, List.append_nil]
    refine ⟨⟨hregistry ▸ h.indexed, hregistry ▸ h.inventory, hgroups ▸ h.table⟩, ?_⟩
    intro hgoes
    rcases hfile with hfile | hstops
    · exact hfile.symm
    · rw [hgoes] at hstops
      cases hstops

/-- A whole scan is accounted for by its visits, and if no input ends it, the files that it visits are
those of its inputs whose text can be had. -/
theorem Accounts.scanAll {α : Type} (load : Loader α) (inputs : List α)
    (h : s.Accounts sc visits) :
    (Session.scanAll (Session.scanLoaded sc load) s inputs).1.Accounts sc
        (visits ++ s.visits sc load inputs)
      ∧ ((Session.scanAll (Session.scanLoaded sc load) s inputs).2 = none →
        (s.visits sc load inputs).map Visit.file = inputs.filterMap load.file?) := by
  induction inputs generalizing s visits with
  | nil =>
      refine ⟨?_, fun _ => rfl⟩
      rw [Session.visits, List.append_nil]
      exact h
  | cons input inputs ih =>
      have hstep := h.scanLoaded load input
      rw [Session.scanAll, Session.visits, ← List.append_assoc]
      cases hres : Session.scanLoaded sc load input s with
      | mk s' stop =>
          rw [hres] at hstep
          obtain ⟨hstep, hfile⟩ := hstep
          cases stop with
          | some e =>
              rw [List.append_nil]
              exact ⟨hstep, fun hgoes => by cases hgoes⟩
          | none =>
              obtain ⟨hrest, hfiles⟩ := ih hstep
              refine ⟨hrest, ?_⟩
              intro hgoes
              rw [List.map_append, hfiles hgoes, List.filterMap_cons, ← hfile rfl]
              cases s.visitOf? sc load input <;> rfl

end Session

namespace Scanner

variable {sc : Scanner} {disk : Disk}

/-- Texts in memory, of which those over the limit are not looked into. -/
def fromMemory (sc : Scanner) : Loader (Path × String) := fun (file, source) =>
  (file, match Session.tooLarge? sc file source.utf8ByteSize with
    | some cause => .error cause
    | none => .ok source)

def fromDisk (sc : Scanner) (disk : Disk) : Loader Path := fun file =>
  (file, Session.readSource sc disk file)

theorem scanSource_eq_scanLoaded : Session.scanSource sc = Session.scanLoaded sc sc.fromMemory := by
  funext input s
  obtain ⟨file, source⟩ := input
  dsimp only [Session.scanSource, Session.scanLoaded, fromMemory]
  cases Session.tooLarge? sc file source.utf8ByteSize <;> rfl

theorem scanFile_eq_scanLoaded :
    Session.scanFile sc disk = Session.scanLoaded sc (sc.fromDisk disk) := by
  funext file s
  dsimp only [Session.scanFile, Session.scanLoaded, fromDisk]
  cases Session.readSource sc disk file <;> rfl

theorem filterMap_file?_fromMemory (inputs : List (Path × String)) :
    inputs.filterMap sc.fromMemory.file? = (inputs.filter (sc.admits ·.2)).map (·.1) := by
  induction inputs with
  | nil => rfl
  | cons input inputs ih =>
      obtain ⟨file, source⟩ := input
      rw [List.filterMap_cons, List.filter_cons, ih, Loader.file?, fromMemory]
      dsimp only
      rw [Session.tooLarge?_eq, admits]
      cases sc.limit with
      | none => rfl
      | some limit => by_cases h : source.utf8ByteSize ≤ limit.toNat <;> simp [h]

theorem filterMap_file?_fromDisk (paths : List Path) :
    paths.filterMap (sc.fromDisk disk).file?
      = paths.filter fun file => (Session.readSource sc disk file).isOk := by
  induction paths with
  | nil => rfl
  | cons file paths ih =>
      rw [List.filterMap_cons, List.filter_cons, ← ih, Loader.file?, fromDisk]
      cases Session.readSource sc disk file <;> rfl

/-- A scan that succeeds is accounted for by its visits, wherever its inputs come from. -/
theorem accounted_of_report {α : Type} (load : Loader α) (files : Option Nat) (inputs : List α)
    {outcome : Outcome Inventory}
    (h : (Session.report (Session.scanAll (Session.scanLoaded sc load) (Session.start files)
      inputs)).result = .ok outcome) :
    outcome.data.Accounted sc ((Session.start files).visits sc load inputs)
      ∧ ((Session.start files).visits sc load inputs).map Visit.file
        = inputs.filterMap load.file? := by
  obtain ⟨haccounts, hfiles⟩ := (Session.accounts_start sc files).scanAll load inputs
  generalize Session.scanAll (Session.scanLoaded sc load) (Session.start files) inputs = done
    at h haccounts hfiles
  obtain ⟨s, stop⟩ := done
  cases stop with
  | some e => cases h
  | none =>
      obtain rfl := Except.ok.inj h
      exact ⟨haccounts.inventory, hfiles rfl⟩

/-- Directories are canonical. The directory of a source file is clean; it is absolute if the file is
given by an absolute path to something below the root; and it has one spelling. So it is in every scan:
the files that are visited, which are those whose text can be had, each find a bundle of their own
directory, to the letter; the bundle holds what they bring there, and nothing else; and every group,
also one that an asset carries along, was located from the directory of the file that declares it. -/
theorem directories_canonical :
    (∀ p : Path, p.sourceDir.clean = p.sourceDir)
    ∧ (∀ p : Path, p.isAbsolute = true → 1 < p.components.length → p.sourceDir.isAbsolute = true)
    ∧ (∀ p q : Path, p.sourceDir.components = q.sourceDir.components → p.sourceDir = q.sourceDir)
    ∧ (∀ (sc : Scanner) (inputs : List (Path × String)) (outcome : Outcome Inventory),
        (sc.scanSources inputs).result = .ok outcome →
        ∃ visits, visits = (Session.start none).visits sc sc.fromMemory inputs
          ∧ visits.map Visit.file = (inputs.filter (sc.admits ·.2)).map (·.1)
          ∧ outcome.data.Accounted sc visits)
    ∧ ∀ (sc : Scanner) (disk : Disk) (files : List Path) (outcome : Outcome Inventory),
        (sc.scan disk files).result = .ok outcome →
        ∃ visits, visits = (Session.start (some files.length)).visits sc (sc.fromDisk disk) files
          ∧ visits.map Visit.file
            = (files.filter fun file => (Session.readSource sc disk file).isOk)
          ∧ outcome.data.Accounted sc visits := by
  refine ⟨Path.clean_sourceDir, ?_, fun _ _ => Path.sourceDir_eq_of_components_eq, ?_, ?_⟩
  · intro p habsolute hlength
    refine Path.isAbsolute_sourceDir habsolute fun hroot => ?_
    rw [hroot] at hlength
    exact absurd hlength (by decide)
  · intro sc inputs outcome h
    rw [scanSources, scanSource_eq_scanLoaded] at h
    obtain ⟨haccounted, hfiles⟩ := accounted_of_report _ _ _ h
    exact ⟨_, rfl, hfiles.trans (filterMap_file?_fromMemory inputs), haccounted⟩
  · intro sc disk files outcome h
    rw [scan, scanFile_eq_scanLoaded] at h
    obtain ⟨haccounted, hfiles⟩ := accounted_of_report _ _ _ h
    exact ⟨_, rfl, hfiles.trans (filterMap_file?_fromDisk files), haccounted⟩

/-- Two files of one directory, in two spellings, each with a group. -/
def respelled : List (Path × String) :=
  [(⟨"a/x.go"⟩, Layout.tabbed.text "a" [⟨"img", ⟨"assets", "Group", "img"⟩⟩]),
    (⟨"./a//y.go"⟩, Layout.tabbed.text "a" [⟨"css", ⟨"assets", "Group", "../css"⟩⟩,
      ⟨"logo", ⟨"img", "String", "logo.png"⟩⟩])]

theorem directories_canonical_respelled :
    ∃ (outcome : Outcome Inventory) (visits : List Visit),
      (assetsScanner.scanSources respelled).result = .ok outcome
      ∧ visits.map Visit.file = [⟨"a/x.go"⟩, ⟨"./a//y.go"⟩]
      ∧ ∀ v ∈ visits, (∃ b ∈ outcome.data.bundles, b.baseDir = ⟨"a"⟩)
        ∧ ∀ g ∈ v.groups, g.fullPath = Path.groupDir ⟨"/w"⟩ ⟨"a"⟩ g.localPath := by
  have hfatal : respelled.findSome? assetsScanner.fatal? = none := by
    rw [List.findSome?_eq_none_iff, respelled]
    simp only [List.forall_mem_cons]
    exact ⟨fatal?_text _ _ (by decide) (by decide) (by decide),
      fatal?_text _ _ (by decide) (by decide) (by decide), List.forall_mem_nil _⟩
  have hok := scanSources_of_not_fatal hfatal
  obtain ⟨visits, -, hfiles, haccounted⟩ := directories_canonical.2.2.2.1 _ _ _ hok
  have hfiles : visits.map Visit.file = [⟨"a/x.go"⟩, ⟨"./a//y.go"⟩] := hfiles
  refine ⟨_, visits, hok, hfiles, ?_⟩
  intro v hv
  have hdir : v.file.sourceDir = ⟨"a"⟩ := by
    have hfile := List.mem_map_of_mem (f := Visit.file) hv
    rw [hfiles, List.mem_cons, List.mem_singleton] at hfile
    rcases hfile with hfile | hfile <;> rw [hfile] <;> decide +kernel
  obtain ⟨b, hb, hbase⟩ := haccounted.baseDir_eq v hv
  refine ⟨⟨b, List.mem_of_getElem? hb, hbase.trans hdir⟩, ?_⟩
  intro g hg
  have hlocated := haccounted.located v hv g hg
  rw [hdir] at hlocated
  exact (Except.ok.inj hlocated).symm

end Scanner

end GoAssets
