import GoAssets.Proofs.Scan.Errors
import GoAssets.Proofs.Source

/-!
# The bundles of a scan

What a scan that succeeds reports, in terms of the files within the size limit and their statements
alone: one bundle for each directory, in the order in which the directories were met, with the
groups that its files declare and the assets that they refer to.
-/

namespace GoAssets.Scanner

variable {sc : Scanner} {inputs : List (Path × String)}

/-- If no input ends the scan, every input within the size limit is a file that it looks into. -/
theorem processed_of_not_fatal (h : ∀ input ∈ inputs, sc.fatal? input = none) :
    List.Forall₂ (fun input f => ∃ tree, parseSource sc.recover input.1 input.2 = .ok tree
        ∧ f = SourceFile.ofTree input.1 tree)
      (inputs.filter (sc.admits ·.2)) (sc.processed inputs) := by
  induction inputs with
  | nil => exact .nil
  | cons input inputs ih =>
      have hrest := ih fun i hi => h i (List.mem_cons_of_mem _ hi)
      have hinput := h input (List.mem_cons_self ..)
      rw [processed, List.filterMap_cons]
      by_cases hsize : sc.admits input.2 = true
      · rw [List.filter_cons, if_pos hsize]
        cases hparse : parseSource sc.recover input.1 input.2 with
        | error cause =>
            rw [fatal?, if_pos hsize, hparse] at hinput
            cases hinput
        | ok tree =>
            rw [sourceFile?_eq_some_iff.mpr ⟨hsize, tree, hparse, rfl⟩]
            exact .cons ⟨tree, hparse, rfl⟩ hrest
      · rw [List.filter_cons, if_neg hsize, sourceFile?, if_neg hsize]
        exact hrest

/-- The bundles of a scan that succeeds. Its files are the inputs within the size limit. There is
one bundle for each of their directories, by the first file of the directory. It holds all groups
that are declared in the directory, and the first of the references to each name from there; a
reference is direct or in the latest group of a name that any file declared before it. What follows
a group whose directory cannot be found does not count. -/
theorem scanSources_bundles {outcome : Outcome Inventory}
    (h : (sc.scanSources inputs).result = .ok outcome) :
    ∃ files, List.Forall₂ (fun input f => ∃ tree, parseSource sc.recover input.1 input.2 = .ok tree
          ∧ f = SourceFile.ofTree input.1 tree)
        (inputs.filter (sc.admits ·.2)) files
      ∧ outcome.data.bundles = (firstBy SourceFile.dir files).map fun first =>
          { caller := first.path
            packageName := first.package
            baseDir := first.dir
            groups := sc.groupsIn first.dir (sc.contributions files)
            assets := sc.assetsIn first.dir (sc.contributions files) } := by
  cases hfatal : inputs.findSome? sc.fatal? with
  | some e =>
      rw [scanSources_of_fatal hfatal] at h
      cases h
  | none =>
      rw [scanSources_of_not_fatal hfatal] at h
      cases h
      exact ⟨_, processed_of_not_fatal (List.findSome?_eq_none_iff.mp hfatal), rfl⟩

/-- A scanner that finds the directories of groups from the working directory `/w`. -/
def assetsScanner : Scanner where
  ns := "assets"
  limit := none
  locate := fun base literal => .ok (Path.groupDir ⟨"/w"⟩ base literal)
  recover := faultless

/-- Two files of different directories, of which the second uses a group of the first. -/
def sharedGroup : List (Path × String) :=
  let layout : Layout := ⟨"\t", true, by decide⟩
  [(⟨"a/x.go"⟩, layout.text "a" [⟨"img", ⟨"assets", "Group", "img"⟩⟩]),
    (⟨"b/y.go"⟩, layout.text "b" [⟨"logo", ⟨"img", "String", "logo.png"⟩⟩,
      ⟨"again", ⟨"assets", "Bytes", "logo.png"⟩⟩])]

/-- A file of asset statements of which none offends does not end a scan. -/
theorem fatal?_text (layout : Layout) (path : Path) {package : String} {stmts : List Statement}
    (hpackage : IsPlainName package) (h : ∀ s ∈ stmts, s.IsPlain)
    (hoffends : ∀ s ∈ stmts, sc.offends s = false) :
    sc.fatal? (path, layout.text package stmts) = none := by
  rw [fatal?]
  split
  · rw [parseSource_text _ layout path hpackage h]
    simp only [Option.map_eq_none_iff, List.find?_eq_none, reached, SourceFile.ofTree,
      filterMap_preorder_fileTree]
    intro s hs
    simp [hoffends s ((List.takeWhile_sublist _).mem hs)]
  · rfl

theorem fatal?_sharedGroup : sharedGroup.findSome? assetsScanner.fatal? = none := by
  rw [List.findSome?_eq_none_iff, sharedGroup]
  simp only [List.forall_mem_cons]
  exact ⟨fatal?_text _ _ (by decide) (by decide) (by decide),
    fatal?_text _ _ (by decide) (by decide) (by decide), List.forall_mem_nil _⟩

theorem scanSources_bundles_sharedGroup :
    ∃ outcome, (assetsScanner.scanSources sharedGroup).result = .ok outcome
      ∧ ∃ files, List.Forall₂ (fun input f =>
            ∃ tree, parseSource assetsScanner.recover input.1 input.2 = .ok tree
              ∧ f = SourceFile.ofTree input.1 tree)
          (sharedGroup.filter (assetsScanner.admits ·.2)) files
        ∧ outcome.data.bundles = (firstBy SourceFile.dir files).map fun first =>
            { caller := first.path
              packageName := first.package
              baseDir := first.dir
              groups := assetsScanner.groupsIn first.dir (assetsScanner.contributions files)
              assets := assetsScanner.assetsIn first.dir (assetsScanner.contributions files) } :=
  ⟨_, scanSources_of_not_fatal fatal?_sharedGroup,
    scanSources_bundles (scanSources_of_not_fatal fatal?_sharedGroup)⟩

end GoAssets.Scanner
