import GoAssets.Proofs.Scan.Bundles

/-!
# Files that do not depend on each other

The order of files matters to a scan: a reference goes to the latest group of its name, and a
directory has its bundle where its first file stands. This module says when the order of two
neighbours does not matter. `Scanner.Independent` asks that they lie in different directories, that
they declare no group of the same name, and that neither refers to a name that the other declares.

The argument is about the statements that count. `Scanner.Apart` is what independence means for
them, and `Scanner.Apart.bundleOf_exchange` says that lists of such statements can be exchanged:

- a reference depends on the statements before it only through the latest group of its receiver
  (`references_congr`), and that is the same without the other file (`references_of_unused`) and
  after both of them, in whichever order (`latest?_exchange`);
- within one directory, at most one of the two lists contributes (`filter_append_comm`).
-/

namespace GoAssets

/-! ## Lists -/

theorem filter_append_comm {α : Type} {p : α → Bool} {xs ys : List α}
    (h : ∀ x ∈ xs, ∀ y ∈ ys, p x = true → p y = true → False) :
    xs.filter p ++ ys.filter p = ys.filter p ++ xs.filter p := by
  by_cases hx : ∃ x ∈ xs, p x = true
  · obtain ⟨x, hx, hpx⟩ := hx
    have hys : ys.filter p = [] := by
      rw [List.filter_eq_nil_iff]
      intro y hy hpy
      exact h x hx y hy hpx hpy
    rw [hys, List.append_nil, List.nil_append]
  · have hxs : xs.filter p = [] := by
      rw [List.filter_eq_nil_iff]
      intro x hmem hpx
      exact hx ⟨x, hmem, hpx⟩
    rw [hxs, List.append_nil, List.nil_append]

theorem find?_exchange {α : Type} {p : α → Bool} {x y : α} (h : p x = true → p y = true → False)
    (before after : List α) :
    (before ++ [x, y] ++ after).find? p = (before ++ [y, x] ++ after).find? p := by
  simp only [List.find?_append, List.find?_cons, List.find?_nil]
  cases hx : p x with
  | false => rfl
  | true =>
      cases hy : p y with
      | false => rfl
      | true => exact absurd hy (h hx)

/-! ## The latest group of a name -/

theorem latest?_append (name : String) (gs hs : List Group) :
    latest? name (gs ++ hs) = (latest? name hs).or (latest? name gs) := by
  rw [latest?, List.reverse_append, List.find?_append, latest?, latest?]

theorem latest?_eq_none {name : String} {gs : List Group} (h : ∀ g ∈ gs, g.name ≠ name) :
    latest? name gs = none := by
  rw [latest?, List.find?_eq_none]
  intro g hg
  simpa using h g (List.mem_reverse.mp hg)

/-- Groups without a common name can be exchanged. -/
theorem latest?_exchange {fs gs : List Group} (h : ∀ f ∈ fs, ∀ g ∈ gs, f.name ≠ g.name)
    (name : String) (before : List Group) :
    latest? name (before ++ fs ++ gs) = latest? name (before ++ gs ++ fs) := by
  simp only [latest?_append]
  by_cases hf : ∃ f ∈ fs, f.name = name
  · obtain ⟨f, hf, rfl⟩ := hf
    have hgs : latest? f.name gs = none := latest?_eq_none fun g hg => (h f hf g hg).symm
    rw [hgs, Option.none_or, Option.none_or]
  · have hfs : latest? name fs = none := latest?_eq_none fun f hmem hname => hf ⟨f, hmem, hname⟩
    rw [hfs, Option.none_or, Option.none_or]

namespace Scanner

/-! ## References -/

variable {sc : Scanner}

theorem groupsOf_append (cs ds : List Contribution) :
    sc.groupsOf (cs ++ ds) = sc.groupsOf cs ++ sc.groupsOf ds :=
  List.filterMap_append ..

theorem contributions_append (fs gs : List SourceFile) :
    sc.contributions (fs ++ gs) = sc.contributions fs ++ sc.contributions gs :=
  List.flatMap_append ..

theorem references_append (before cs ds : List Contribution) :
    sc.references before (cs ++ ds)
      = sc.references before cs ++ sc.references (before ++ cs) ds := by
  induction cs generalizing before with
  | nil => simp [references]
  | cons c cs ih =>
      rw [List.cons_append, references, references, ih, List.append_assoc, List.append_assoc,
        List.singleton_append]

/-- References depend on the statements before them only through the latest groups of the names
that they use. -/
theorem references_congr {before before' cs : List Contribution}
    (h : ∀ c ∈ cs, c.stmt.call.receiver ≠ sc.ns →
      latest? c.stmt.call.receiver (sc.groupsOf before)
        = latest? c.stmt.call.receiver (sc.groupsOf before')) :
    sc.references before cs = sc.references before' cs := by
  induction cs generalizing before before' with
  | nil => rfl
  | cons c cs ih =>
      have hfirst : sc.reference? before c.stmt = sc.reference? before' c.stmt := by
        rw [reference?, reference?]
        by_cases hns : c.stmt.call.receiver = sc.ns
        · rw [if_pos hns, if_pos hns]
        · rw [if_neg hns, if_neg hns, h c (List.mem_cons_self ..) hns]
      have hrest : sc.references (before ++ [c]) cs = sc.references (before' ++ [c]) cs := by
        refine ih fun d hd hns => ?_
        rw [groupsOf_append, groupsOf_append, latest?_append, latest?_append,
          h d (List.mem_cons_of_mem _ hd) hns]
      rw [references, references, hfirst, hrest]

/-- Statements before that declare no name that is used make no difference. -/
theorem references_of_unused {before cs ds : List Contribution}
    (h : ∀ g ∈ sc.groupsOf cs, ∀ d ∈ ds, d.stmt.call.receiver ≠ sc.ns →
      d.stmt.call.receiver ≠ g.name) :
    sc.references (before ++ cs) ds = sc.references before ds := by
  refine references_congr fun d hd hns => ?_
  have hnone : latest? d.stmt.call.receiver (sc.groupsOf cs) = none :=
    latest?_eq_none fun g hg hname => h g hg d hd hns hname.symm
  rw [groupsOf_append, latest?_append, hnone, Option.none_or]

theorem exists_mem_of_mem_references {before cs : List Contribution} {r : Path × Asset}
    (h : r ∈ sc.references before cs) : ∃ c ∈ cs, c.dir = r.1 := by
  induction cs generalizing before with
  | nil => cases h
  | cons c cs ih =>
      rw [references, List.mem_append] at h
      rcases h with h | h
      · obtain ⟨a, -, rfl⟩ := Option.map_eq_some_iff.mp (Option.mem_toList.mp h)
        exact ⟨c, List.mem_cons_self .., rfl⟩
      · obtain ⟨d, hd, hdir⟩ := ih h
        exact ⟨d, List.mem_cons_of_mem _ hd, hdir⟩

/-! ## Statements that can be exchanged -/

/-- Two lists of statements that count have no directory and no declared name in common, and neither
refers to a name that the other declares. -/
structure Apart (sc : Scanner) (cs ds : List Contribution) : Prop where
  dir_ne : ∀ c ∈ cs, ∀ d ∈ ds, c.dir ≠ d.dir
  name_ne : ∀ f ∈ sc.groupsOf cs, ∀ g ∈ sc.groupsOf ds, f.name ≠ g.name
  unused_left : ∀ f ∈ sc.groupsOf cs, ∀ d ∈ ds, d.stmt.call.receiver ≠ sc.ns →
    d.stmt.call.receiver ≠ f.name
  unused_right : ∀ g ∈ sc.groupsOf ds, ∀ c ∈ cs, c.stmt.call.receiver ≠ sc.ns →
    c.stmt.call.receiver ≠ g.name

variable {cs ds : List Contribution}

theorem Apart.groupsIn_exchange (h : sc.Apart cs ds) (dir : Path)
    (before after : List Contribution) :
    sc.groupsIn dir (before ++ cs ++ ds ++ after)
      = sc.groupsIn dir (before ++ ds ++ cs ++ after) := by
  have hcomm : cs.filter (·.dir == dir) ++ ds.filter (·.dir == dir)
      = ds.filter (·.dir == dir) ++ cs.filter (·.dir == dir) := by
    refine filter_append_comm fun c hc d hd hcdir hddir => ?_
    exact h.dir_ne c hc d hd ((eq_of_beq hcdir).trans (eq_of_beq hddir).symm)
  simp only [groupsIn, List.filter_append]
  rw [List.append_assoc (before.filter _), hcomm, ← List.append_assoc]

theorem Apart.assetsIn_exchange (h : sc.Apart cs ds) (dir : Path)
    (before after : List Contribution) :
    sc.assetsIn dir (before ++ cs ++ ds ++ after)
      = sc.assetsIn dir (before ++ ds ++ cs ++ after) := by
  have hds : sc.references (before ++ cs) ds = sc.references before ds :=
    references_of_unused h.unused_left
  have hcs : sc.references (before ++ ds) cs = sc.references before cs :=
    references_of_unused h.unused_right
  have hafter : sc.references (before ++ cs ++ ds) after
      = sc.references (before ++ ds ++ cs) after := by
    refine references_congr fun _ _ _ => ?_
    simp only [groupsOf_append]
    exact latest?_exchange h.name_ne _ _
  have hcomm : (sc.references before cs).filter (·.1 == dir)
        ++ (sc.references before ds).filter (·.1 == dir)
      = (sc.references before ds).filter (·.1 == dir)
        ++ (sc.references before cs).filter (·.1 == dir) := by
    refine filter_append_comm fun r hr q hq hrdir hqdir => ?_
    obtain ⟨c, hc, hcdir⟩ := exists_mem_of_mem_references hr
    obtain ⟨d, hd, hddir⟩ := exists_mem_of_mem_references hq
    refine h.dir_ne c hc d hd ?_
    rw [hcdir, hddir, eq_of_beq hrdir, eq_of_beq hqdir]
  simp only [assetsIn, references_append, List.nil_append, hds, hcs, hafter, List.filter_append]
  rw [List.append_assoc ((sc.references [] before).filter _), hcomm, ← List.append_assoc]

/-- Statements that are apart can be exchanged: every bundle is the same. -/
theorem Apart.bundleOf_exchange (h : sc.Apart cs ds) (before after : List Contribution) :
    sc.bundleOf (before ++ cs ++ ds ++ after) = sc.bundleOf (before ++ ds ++ cs ++ after) := by
  funext first
  rw [bundleOf, bundleOf, h.assetsIn_exchange, h.groupsIn_exchange]

/-! ## Inputs that can be exchanged -/

/-- The asset statements of an input, also those that do not count; none if the scan does not look
into it. -/
def statementsOf (sc : Scanner) (input : Path × String) : List Statement :=
  ((sc.sourceFile? input).map SourceFile.statements).getD []

/-- Two inputs do not depend on each other. -/
structure Independent (sc : Scanner) (f g : Path × String) : Prop where
  dir_ne : f.1.sourceDir ≠ g.1.sourceDir
  target_ne : ∀ s ∈ sc.statementsOf f, ∀ t ∈ sc.statementsOf g,
    sc.declares s = true → sc.declares t = true → s.target ≠ t.target
  unused_left : ∀ s ∈ sc.statementsOf f, ∀ t ∈ sc.statementsOf g,
    sc.declares s = true → t.call.receiver ≠ sc.ns → t.call.receiver ≠ s.target
  unused_right : ∀ s ∈ sc.statementsOf f, ∀ t ∈ sc.statementsOf g,
    sc.declares t = true → s.call.receiver ≠ sc.ns → s.call.receiver ≠ t.target

variable {f g : Path × String} {F G : SourceFile}

theorem mem_statementsOf_of_contributes (hF : sc.sourceFile? f = some F) {c : Contribution}
    (hc : c ∈ sc.contributions [F]) : c.dir = f.1.sourceDir ∧ c.stmt ∈ sc.statementsOf f := by
  obtain ⟨-, tree, -, rfl⟩ := sourceFile?_eq_some_iff.mp hF
  rw [contributions, List.flatMap_singleton] at hc
  obtain ⟨stmt, hstmt, rfl⟩ := List.mem_map.mp hc
  refine ⟨rfl, ?_⟩
  rw [statementsOf, hF]
  exact (List.takeWhile_sublist _).mem hstmt

theorem exists_declares_of_mem_groupsOf {g : Group} (hg : g ∈ sc.groupsOf cs) :
    ∃ c ∈ cs, sc.declares c.stmt = true ∧ g.name = c.stmt.target := by
  obtain ⟨c, hc, hdeclared⟩ := List.mem_filterMap.mp hg
  rw [declared?] at hdeclared
  split at hdeclared
  · obtain ⟨p, -, rfl⟩ := Option.map_eq_some_iff.mp hdeclared
    exact ⟨c, hc, ‹_›, rfl⟩
  · cases hdeclared

theorem Independent.apart (h : sc.Independent f g) (hF : sc.sourceFile? f = some F)
    (hG : sc.sourceFile? g = some G) :
    sc.Apart (sc.contributions [F]) (sc.contributions [G]) where
  dir_ne c hc d hd := by
    rw [(mem_statementsOf_of_contributes hF hc).1, (mem_statementsOf_of_contributes hG hd).1]
    exact h.dir_ne
  name_ne a ha b hb := by
    obtain ⟨c, hc, hcdecl, hcname⟩ := exists_declares_of_mem_groupsOf ha
    obtain ⟨d, hd, hddecl, hdname⟩ := exists_declares_of_mem_groupsOf hb
    rw [hcname, hdname]
    exact h.target_ne _ (mem_statementsOf_of_contributes hF hc).2 _
      (mem_statementsOf_of_contributes hG hd).2 hcdecl hddecl
  unused_left a ha d hd hns := by
    obtain ⟨c, hc, hcdecl, hcname⟩ := exists_declares_of_mem_groupsOf ha
    rw [hcname]
    exact h.unused_left _ (mem_statementsOf_of_contributes hF hc).2 _
      (mem_statementsOf_of_contributes hG hd).2 hcdecl hns
  unused_right b hb c hc hns := by
    obtain ⟨d, hd, hddecl, hdname⟩ := exists_declares_of_mem_groupsOf hb
    rw [hdname]
    exact h.unused_right _ (mem_statementsOf_of_contributes hF hc).2 _
      (mem_statementsOf_of_contributes hG hd).2 hddecl hns

/-! ## Whole scans -/

/-- Two lists of bundles are the same but for the order of two neighbours, which are the bundles
that `f` and `g` opened. -/
def BundlesExchanged (f g : Path × String) (bs bs' : List Bundle) : Prop :=
  ∃ before x y after, bs = before ++ [x, y] ++ after ∧ bs' = before ++ [y, x] ++ after
    ∧ x.baseDir = f.1.sourceDir ∧ x.caller = f.1 ∧ y.baseDir = g.1.sourceDir ∧ y.caller = g.1

theorem exists_ok_iff {inputs : List (Path × String)} :
    (∃ outcome, (sc.scanSources inputs).result = .ok outcome)
      ↔ ∀ input ∈ inputs, sc.fatal? input = none := by
  rw [← List.findSome?_eq_none_iff]
  cases h : inputs.findSome? sc.fatal? with
  | some e => simp [scanSources_of_fatal h]
  | none => simp [scanSources_of_not_fatal h]

theorem Independent.bundles_exchange (h : sc.Independent f g) (xs ys : List (Path × String)) :
    let bundles inputs := (firstFiles (sc.processed inputs)).map
      (sc.bundleOf (sc.contributions (sc.processed inputs)))
    bundles (xs ++ [f, g] ++ ys) = bundles (xs ++ [g, f] ++ ys)
      ∨ BundlesExchanged f g (bundles (xs ++ [f, g] ++ ys)) (bundles (xs ++ [g, f] ++ ys)) := by
  intro bundles
  have hprocessed : ∀ a b : Path × String, sc.processed (xs ++ [a, b] ++ ys)
      = sc.processed xs ++ ((sc.sourceFile? a).toList ++ (sc.sourceFile? b).toList)
        ++ sc.processed ys := by
    intro a b
    simp only [processed, List.filterMap_append]
    cases ha : sc.sourceFile? a <;> cases hb : sc.sourceFile? b <;> simp [ha, hb]
  simp only [bundles, hprocessed]
  -- A file that the scan does not look into leaves no trace, so its place does not matter.
  cases hF : sc.sourceFile? f with
  | none => exact .inl (by simp)
  | some F =>
      cases hG : sc.sourceFile? g with
      | none => exact .inl (by simp)
      | some G =>
          have hcontributions : ∀ A B, sc.contributions
              (sc.processed xs ++ ([A] ++ [B]) ++ sc.processed ys)
              = sc.contributions (sc.processed xs) ++ sc.contributions [A] ++ sc.contributions [B]
                ++ sc.contributions (sc.processed ys) := by
            intro A B
            simp only [contributions_append, List.append_assoc]
          have hbundle := (h.apart hF hG).bundleOf_exchange (sc.contributions (sc.processed xs))
            (sc.contributions (sc.processed ys))
          obtain ⟨-, treeF, -, rfl⟩ := sourceFile?_eq_some_iff.mp hF
          obtain ⟨-, treeG, -, rfl⟩ := sourceFile?_eq_some_iff.mp hG
          simp only [Option.toList_some, hcontributions, hbundle]
          generalize hview : sc.bundleOf _ = view
          -- Both orders now show their first files through the same view.
          rcases firstBy_exchange SourceFile.dir (x := .ofTree f.1 treeF) (y := .ofTree g.1 treeG)
            h.dir_ne (sc.processed xs) (sc.processed ys) with heq | ⟨before, after, hfg, hgf⟩
          · exact .inl (congrArg _ heq)
          · refine .inr ⟨before.map view, view (.ofTree f.1 treeF), view (.ofTree g.1 treeG),
              after.map view, ?_, ?_, ?_⟩
            · exact (congrArg _ hfg).trans (by simp)
            · exact (congrArg _ hgf).trans (by simp)
            · rw [← hview]
              exact ⟨rfl, rfl, rfl, rfl⟩

/-- The order of two neighbours that do not depend on each other does not matter. A scan succeeds
with both orders or with none. If it does, every directory has the same bundle; the lists of bundles
are equal, or the two neighbours opened bundles next to each other and these are exchanged; and the
lists of errors are equal but for the order of the errors of the two. -/
theorem scanSources_exchange (h : sc.Independent f g) (xs ys : List (Path × String)) :
    ((∃ outcome, (sc.scanSources (xs ++ [f, g] ++ ys)).result = .ok outcome)
      ↔ ∃ outcome, (sc.scanSources (xs ++ [g, f] ++ ys)).result = .ok outcome)
    ∧ ∀ fg gf, (sc.scanSources (xs ++ [f, g] ++ ys)).result = .ok fg →
      (sc.scanSources (xs ++ [g, f] ++ ys)).result = .ok gf →
      (∀ dir, fg.data.bundleFor? dir = gf.data.bundleFor? dir)
      ∧ (fg.data.bundles = gf.data.bundles
        ∨ BundlesExchanged f g fg.data.bundles gf.data.bundles)
      ∧ ∃ before after,
        fg.errors = before ++ ((sc.noted? f).toList ++ (sc.noted? g).toList).map .scan ++ after
        ∧ gf.errors = before ++ ((sc.noted? g).toList ++ (sc.noted? f).toList).map .scan
          ++ after := by
  have hperm : (xs ++ [f, g] ++ ys).Perm (xs ++ [g, f] ++ ys) :=
    ((List.Perm.swap g f []).append_left xs).append_right ys
  refine ⟨by simp only [exists_ok_iff, hperm.mem_iff], ?_⟩
  intro fg gf hfg hgf
  have hnone : (xs ++ [f, g] ++ ys).findSome? sc.fatal? = none :=
    List.findSome?_eq_none_iff.mpr (exists_ok_iff.mp ⟨fg, hfg⟩)
  have hnone' : (xs ++ [g, f] ++ ys).findSome? sc.fatal? = none :=
    List.findSome?_eq_none_iff.mpr (exists_ok_iff.mp ⟨gf, hgf⟩)
  rw [scanSources_of_not_fatal hnone] at hfg
  rw [scanSources_of_not_fatal hnone'] at hgf
  obtain rfl := Except.ok.inj hfg
  obtain rfl := Except.ok.inj hgf
  have hbundles := h.bundles_exchange xs ys
  refine ⟨?_, hbundles, (xs.filterMap sc.noted?).map .scan, (ys.filterMap sc.noted?).map .scan,
    ?_, ?_⟩
  · intro dir
    rw [Inventory.bundleFor?, Inventory.bundleFor?]
    rcases hbundles with heq | ⟨before, x, y, after, hx, hy, hxdir, -, hydir, -⟩
    · exact congrArg _ heq
    · refine (congrArg _ hx).trans ((find?_exchange ?_ before after).trans (congrArg _ hy).symm)
      intro hxcomp hycomp
      refine h.dir_ne (Path.sourceDir_eq_of_components_eq ?_)
      rw [← hxdir, ← hydir, eq_of_beq hxcomp, eq_of_beq hycomp]
  · cases hf : sc.noted? f <;> cases hg : sc.noted? g <;> simp [hf, hg]
  · cases hf : sc.noted? f <;> cases hg : sc.noted? g <;> simp [hf, hg]

/-! ## Two files that can be exchanged -/

def imageStatements : List Statement :=
  [⟨"img", ⟨"assets", "Group", "img"⟩⟩, ⟨"logo", ⟨"img", "String", "logo.png"⟩⟩]

def styleStatements : List Statement :=
  [⟨"css", ⟨"assets", "Group", "css"⟩⟩, ⟨"main", ⟨"css", "Bytes", "main.css"⟩⟩]

/-- The file with the images, in the directory `a`. -/
def imageFile : Path × String :=
  (⟨"a/x.go"⟩, Layout.tabbed.text "a" imageStatements)

/-- The file with the styles, in the directory `b`. -/
def styleFile : Path × String :=
  (⟨"b/y.go"⟩, Layout.tabbed.text "b" styleStatements)

theorem statementsOf_text (layout : Layout) (path : Path) {package : String}
    {stmts : List Statement} (hlimit : sc.limit = none) (hpackage : IsPlainName package)
    (h : ∀ s ∈ stmts, s.IsPlain) :
    sc.statementsOf (path, layout.text package stmts) = stmts := by
  have hadmits : sc.admits (layout.text package stmts) = true := by rw [admits, hlimit]
  have hfile : sc.sourceFile? (path, layout.text package stmts)
      = some (.ofTree path ⟨package, fileTree package stmts⟩) :=
    sourceFile?_eq_some_iff.mpr ⟨hadmits, _, parseSource_text _ layout path hpackage h, rfl⟩
  rw [statementsOf, hfile]
  exact filterMap_preorder_fileTree package stmts

theorem isPlain_imageStatements : ∀ s ∈ imageStatements, s.IsPlain := by decide

theorem isPlain_styleStatements : ∀ s ∈ styleStatements, s.IsPlain := by decide

theorem independent_imageFile_styleFile : assetsScanner.Independent imageFile styleFile := by
  have himages : assetsScanner.statementsOf imageFile = imageStatements :=
    statementsOf_text _ _ rfl (by decide) isPlain_imageStatements
  have hstyles : assetsScanner.statementsOf styleFile = styleStatements :=
    statementsOf_text _ _ rfl (by decide) isPlain_styleStatements
  constructor
  · decide +kernel
  all_goals
    rw [himages, hstyles]
    decide

theorem scanSources_exchange_imageFile_styleFile :
    assetsScanner.Independent imageFile styleFile
      ∧ ∃ fg gf, (assetsScanner.scanSources ([] ++ [imageFile, styleFile] ++ sharedGroup)).result
          = .ok fg
        ∧ (assetsScanner.scanSources ([] ++ [styleFile, imageFile] ++ sharedGroup)).result = .ok gf
        ∧ (∀ dir, fg.data.bundleFor? dir = gf.data.bundleFor? dir)
        ∧ (fg.data.bundles = gf.data.bundles
          ∨ BundlesExchanged imageFile styleFile fg.data.bundles gf.data.bundles) := by
  have hindependent := independent_imageFile_styleFile
  have himages : assetsScanner.fatal? imageFile = none :=
    fatal?_text _ _ (by decide) isPlain_imageStatements (by decide)
  have hstyles : assetsScanner.fatal? styleFile = none :=
    fatal?_text _ _ (by decide) isPlain_styleStatements (by decide)
  have hnone : ∀ input ∈ [] ++ [imageFile, styleFile] ++ sharedGroup,
      assetsScanner.fatal? input = none := by
    simp only [List.nil_append, List.cons_append, List.forall_mem_cons]
    exact ⟨himages, hstyles, List.findSome?_eq_none_iff.mp fatal?_sharedGroup⟩
  obtain ⟨fg, hfg⟩ := exists_ok_iff.mpr hnone
  obtain ⟨hiff, hsame⟩ := scanSources_exchange hindependent [] sharedGroup
  obtain ⟨gf, hgf⟩ := hiff.mp ⟨fg, hfg⟩
  obtain ⟨hbundle, hbundles, -⟩ := hsame fg gf hfg hgf
  exact ⟨hindependent, fg, gf, hfg, hgf, hbundle, hbundles⟩

end Scanner

end GoAssets
