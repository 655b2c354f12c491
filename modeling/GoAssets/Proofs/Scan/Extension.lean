import GoAssets.Proofs.Scan.Bundles

/-!
# Scans only append

A scan never takes back what it recorded. `Bundle.Extends` says what may become of a bundle: its
directory, caller and package stay, and its assets and groups are added to at the end.
`Inventory.Extends` says the same of all bundles, each of which keeps its place, and
`Session.Extends` adds the errors. The table of groups is left out on purpose: a declaration does
replace the group of its name there, but what was recorded through the earlier one is in a bundle.

Every step of a scan extends the session, from the resolution of one statement
(`Bundle.extends_effect`) to a whole input (`Session.extends_scanSource`), and so does any
number of steps (`Session.extends_scanAll`). A scan of further inputs goes on from the session that
the first ones left (`Session.scanAll_append`), and the main statement follows.
-/

namespace GoAssets

/-! ## Bundles -/

/-- One bundle has become another: things were only added to it, at the end. -/
structure Bundle.Extends (b b' : Bundle) : Prop where
  baseDir_eq : b.baseDir = b'.baseDir
  caller_eq : b.caller = b'.caller
  packageName_eq : b.packageName = b'.packageName
  assets : b.assets <+: b'.assets
  groups : b.groups <+: b'.groups

namespace Bundle

variable {b b' b'' : Bundle}

theorem Extends.refl (b : Bundle) : b.Extends b :=
  ⟨rfl, rfl, rfl, List.prefix_rfl, List.prefix_rfl⟩

theorem Extends.trans (h : b.Extends b') (h' : b'.Extends b'') : b.Extends b'' where
  baseDir_eq := h.baseDir_eq.trans h'.baseDir_eq
  caller_eq := h.caller_eq.trans h'.caller_eq
  packageName_eq := h.packageName_eq.trans h'.packageName_eq
  assets := h.assets.trans h'.assets
  groups := h.groups.trans h'.groups

theorem extends_addGroup (b : Bundle) (g : Group) : b.Extends (b.addGroup g) :=
  ⟨rfl, rfl, rfl, List.prefix_rfl, List.prefix_append _ _⟩

theorem extends_addAsset (b : Bundle) (a : Asset) : b.Extends (b.addAsset a).1 := by
  rw [addAsset]
  split
  · exact .refl b
  · exact ⟨rfl, rfl, rfl, List.prefix_append _ _, List.prefix_rfl⟩

/-- A statement that is resolved adds to the bundle, whatever it declares or refers to, and also if
its name or its group was there before. -/
theorem extends_effect (sc : Scanner) (stmt : Statement) (b : Bundle) (groups : GroupTable) :
    b.Extends (sc.effect stmt b groups).bundle := by
  rw [Scanner.effect_bundle]
  have hrecord : b.Extends (Scanner.recordIn b (sc.referenceTo? groups.get? stmt)) := by
    cases sc.referenceTo? groups.get? stmt with
    | some a => exact b.extends_addAsset a
    | none => exact .refl b
  cases sc.declared? b.baseDir stmt with
  | some g => exact hrecord.trans (extends_addGroup _ g)
  | none => exact hrecord

end Bundle

namespace FileState

theorem extends_resolve (sc : Scanner) (file : Path) (stmt : Statement) (s : FileState) :
    s.bundle.Extends (s.resolve sc file stmt).1.bundle := by
  rcases resolve_fails_or_counts sc file stmt s with ⟨e, hres⟩ | ⟨journal, hres⟩
  · rw [hres]
    exact .refl _
  · rw [hres]
    exact Bundle.extends_effect sc stmt s.bundle s.groups

theorem extends_resolveAll (sc : Scanner) (file : Path) (stmts : List Statement) (s : FileState) :
    s.bundle.Extends (s.resolveAll sc file stmts).1.bundle := by
  induction stmts generalizing s with
  | nil => exact .refl _
  | cons stmt stmts ih =>
      have hstep := extends_resolve sc file stmt s
      rw [resolveAll]
      cases hres : s.resolve sc file stmt with
      | mk s' stop =>
          rw [hres] at hstep
          cases stop with
          | some e => exact hstep
          | none => exact hstep.trans (ih s')

end FileState

/-! ## Inventories -/

/-- One inventory has become another: every bundle is still at its place, and was only added to. -/
def Inventory.Extends (inv inv' : Inventory) : Prop :=
  ∀ (i : Nat) (b : Bundle), inv.bundles[i]? = some b →
    ∃ b', inv'.bundles[i]? = some b' ∧ b.Extends b'

namespace Inventory

variable {inv inv' inv'' : Inventory}

theorem Extends.refl (inv : Inventory) : inv.Extends inv :=
  fun _ b hb => ⟨b, hb, .refl b⟩

theorem Extends.trans (h : inv.Extends inv') (h' : inv'.Extends inv'') : inv.Extends inv'' := by
  intro i b hb
  obtain ⟨b', hb', hext⟩ := h i b hb
  obtain ⟨b'', hb'', hext'⟩ := h' i b' hb'
  exact ⟨b'', hb'', hext.trans hext'⟩

/-- What every bundle keeps is kept by the list of bundles. -/
theorem Extends.map {α : Type} (h : inv.Extends inv') (view : Bundle → α)
    (hview : ∀ b b' : Bundle, b.Extends b' → view b = view b') :
    inv.bundles.map view <+: inv'.bundles.map view := by
  rw [List.prefix_iff_getElem?]
  intro i hi
  rw [List.length_map] at hi
  obtain ⟨b', hb', hext⟩ := h i inv.bundles[i] (List.getElem?_eq_getElem hi)
  rw [List.getElem?_map, hb', List.getElem_map, hview _ _ hext]
  rfl

end Inventory

namespace Registry

/-- Entering a directory leaves all bundles as they are, and opens at most one after them. -/
theorem extends_enter (r : Registry) (dir caller : Path) (package : String) :
    r.inventory.Extends (r.enter dir caller package).1.inventory := by
  rw [enter]
  split
  · exact .refl _
  · intro i b hb
    refine ⟨b, ?_, .refl b⟩
    simp only [inventory, Array.toList_push] at hb ⊢
    obtain ⟨hlt, -⟩ := List.getElem?_eq_some_iff.mp hb
    rw [List.getElem?_append_left hlt, hb]

theorem extends_update (r : Registry) {i : Nat} {b b' : Bundle} (hb : r.bundleAt? i = some b)
    (h : b.Extends b') : r.inventory.Extends (r.update i b').inventory := by
  intro j c hc
  rw [inventory, update, Array.toList_setIfInBounds, List.getElem?_set]
  rw [bundleAt?_eq] at hb
  rw [inventory] at hc
  split
  · rename_i hij
    subst hij
    obtain ⟨hlt, -⟩ := List.getElem?_eq_some_iff.mp hb
    obtain rfl := Option.some.inj (hb.symm.trans hc)
    exact ⟨b', by rw [if_pos hlt], h⟩
  · exact ⟨c, hc, .refl c⟩

end Registry

/-! ## Sessions -/

/-- One session has become another: bundles and errors were only added to. -/
structure Session.Extends (s s' : Session) : Prop where
  inventory : s.registry.inventory.Extends s'.registry.inventory
  errors : s.errors <+: s'.errors

namespace Session

variable {s s' s'' : Session}

theorem Extends.refl (s : Session) : s.Extends s := ⟨.refl _, List.prefix_rfl⟩

theorem Extends.trans (h : s.Extends s') (h' : s'.Extends s'') : s.Extends s'' :=
  ⟨h.inventory.trans h'.inventory, h.errors.trans h'.errors⟩

theorem extends_meet (s : Session) (cause : ScanError) : s.Extends (s.meet cause).1 := by
  rw [meet]
  split
  · exact ⟨.refl _, List.prefix_append _ _⟩
  · exact .refl s

theorem extends_scanTree (s : Session) (sc : Scanner) (file : Path) (tree : SourceTree) :
    s.Extends (s.scanTree sc file tree).1 := by
  rw [scanTree]
  have henter := s.registry.extends_enter file.sourceDir file tree.package
  generalize s.registry.enter file.sourceDir file tree.package = entered at henter ⊢
  obtain ⟨r, i⟩ := entered
  simp only [Tree.walk_eq_visitAll, FileState.visitAll_visit]
  cases hat : r.bundleAt? i with
  | none => exact .refl s
  | some bundle =>
      have hfile := FileState.extends_resolveAll sc file
        (tree.root.preorder.filterMap Tree.statement?) ⟨bundle, s.groups, s.journal⟩
      dsimp only
      generalize FileState.resolveAll sc file ⟨bundle, s.groups, s.journal⟩
        (tree.root.preorder.filterMap Tree.statement?) = outcome at hfile ⊢
      obtain ⟨state, stop⟩ := outcome
      have hput : s.Extends { s with
          registry := r.update i state.bundle
          groups := state.groups
          files := s.files + 1
          journal := state.journal } :=
        ⟨henter.trans (r.extends_update hat hfile), List.prefix_rfl⟩
      cases stop with
      | none => exact hput
      | some cause => exact hput.trans (extends_meet _ cause)

theorem extends_scanSource (sc : Scanner) (input : Path × String) (s : Session) :
    s.Extends (scanSource sc input s).1 := by
  obtain ⟨file, source⟩ := input
  rw [scanSource]
  cases tooLarge? sc file source.utf8ByteSize with
  | some cause => exact s.extends_meet cause
  | none =>
      simp only [scanText]
      cases parseSource sc.recover file source with
      | error e => exact .refl s
      | ok tree => exact s.extends_scanTree sc file tree

/-- If every step of a scan extends the session, so does the scan, to its end or to the input that
ends it. -/
theorem extends_scanAll {α : Type} {step : α → Session → Session × Option Error}
    (hstep : ∀ input (s : Session), s.Extends (step input s).1) (inputs : List α) (s : Session) :
    s.Extends (scanAll step s inputs).1 := by
  induction inputs generalizing s with
  | nil => exact .refl s
  | cons input inputs ih =>
      have hfirst := hstep input s
      rw [scanAll]
      cases hres : step input s with
      | mk s' stop =>
          rw [hres] at hfirst
          cases stop with
          | some e => exact hfirst
          | none => exact hfirst.trans (ih s')

end Session

/-! ## Whole scans -/

namespace Scanner

/-- A scan of more inputs only adds. If it succeeds, so does the scan of the first inputs alone, and
what that scan reports is found again at the same places: its bundles come first, with the same
directory, caller and package, their assets (each with its group) and groups come first in them,
and its errors come first. If the scan of the first inputs fails, the scan of all fails in the same
way. -/
theorem scanSources_append (sc : Scanner) (xs ys : List (Path × String)) :
    (∀ all, (sc.scanSources (xs ++ ys)).result = .ok all →
      ∃ first, (sc.scanSources xs).result = .ok first
        ∧ first.data.bundles.map (fun b => (b.baseDir, b.caller, b.packageName))
          <+: all.data.bundles.map (fun b => (b.baseDir, b.caller, b.packageName))
        ∧ (∀ (i : Nat) (b : Bundle), first.data.bundles[i]? = some b →
          ∃ b', all.data.bundles[i]? = some b' ∧ b.assets <+: b'.assets ∧ b.groups <+: b'.groups)
        ∧ first.errors <+: all.errors)
    ∧ ∀ e, (sc.scanSources xs).result = .error e →
      (sc.scanSources (xs ++ ys)).result = .error e := by
  simp only [scanSources, Session.scanAll_append]
  generalize Session.scanAll (Session.scanSource sc) (Session.start none) xs = done
  obtain ⟨s, stop⟩ := done
  cases stop with
  | some e =>
      constructor
      · rintro all ⟨⟩
      · intro e' he
        exact he
  | none =>
      constructor
      · intro all hall
        have hext := Session.extends_scanAll (Session.extends_scanSource sc) ys s
        dsimp only at hall
        generalize Session.scanAll (Session.scanSource sc) s ys = rest at hall hext
        obtain ⟨s', stop'⟩ := rest
        cases stop' with
        | some e => cases hall
        | none =>
            obtain rfl := Except.ok.inj hall
            refine ⟨_, rfl, hext.inventory.map _ ?_, ?_, hext.errors⟩
            · intro b b' h
              rw [h.baseDir_eq, h.caller_eq, h.packageName_eq]
            · intro i b hb
              obtain ⟨b', hb', h⟩ := hext.inventory i b hb
              exact ⟨b', hb', h.assets, h.groups⟩
      · rintro e ⟨⟩

/-- The file that uses a group of another one adds to what that one declared. -/
theorem scanSources_append_sharedGroup :
    ∃ first all, (assetsScanner.scanSources (sharedGroup.take 1)).result = .ok first
      ∧ (assetsScanner.scanSources (sharedGroup.take 1 ++ sharedGroup.drop 1)).result = .ok all
      ∧ first.data.bundles.map (fun b => (b.baseDir, b.caller, b.packageName))
        <+: all.data.bundles.map (fun b => (b.baseDir, b.caller, b.packageName))
      ∧ first.errors <+: all.errors := by
  have hall : (sharedGroup.take 1 ++ sharedGroup.drop 1).findSome? assetsScanner.fatal? = none := by
    rw [List.take_append_drop]
    exact fatal?_sharedGroup
  have hok := scanSources_of_not_fatal hall
  obtain ⟨first, hfirst, hbundles, -, herrors⟩ :=
    (scanSources_append assetsScanner (sharedGroup.take 1) (sharedGroup.drop 1)).1 _ hok
  exact ⟨first, _, hfirst, hok, hbundles, herrors⟩

end Scanner

end GoAssets
