import GoAssets.Proofs.Path.Canonical
import GoAssets.Proofs.Registry
import GoAssets.Proofs.Scan.Resolution

/-!
# A scan computes what it means

The account of `Proofs/Scan/Reference` is carried through a scan: through one statement
(`FileState.Agrees.resolve`), the statements of one file (`FileState.Agrees.resolveAll`), one input
(`Session.Agrees.scanSource`) and all inputs (`Session.Agrees.scanAll`). At every level the state
agrees with what was looked at so far, or the level ends with the error that the account gives.

A group is located from the spelling of its bundle's directory, which is that of the first file
met there. The account uses the directory of the declaring file. The two are the same text, because
a source directory has one spelling (`Path.sourceDir_eq_of_components_eq`).
-/

namespace GoAssets

/-! ## The statements of one file -/

namespace FileState

/-- Resolve statements one after another, until one of them fails. -/
def resolveAll (sc : Scanner) (file : Path) (s : FileState) :
    List Statement → FileState × Option ScanError
  | [] => (s, none)
  | stmt :: rest =>
    match s.resolve sc file stmt with
    | (s', some e) => (s', some e)
    | (s', none) => resolveAll sc file s' rest

theorem visitAll_visit (sc : Scanner) (file : Path) (s : FileState) (nodes : List Tree) :
    Tree.visitAll (visit sc file) s nodes
      = s.resolveAll sc file (nodes.filterMap Tree.statement?) := by
  induction nodes generalizing s with
  | nil => rfl
  | cons node nodes ih =>
      cases hstmt : node.statement? with
      | none =>
          rw [Tree.visitAll, List.filterMap_cons_none hstmt, ← ih]
          simp only [visit, hstmt]
      | some stmt =>
          rw [Tree.visitAll, List.filterMap_cons_some hstmt, resolveAll]
          simp only [visit, hstmt]
          cases hres : s.resolve sc file stmt with
          | mk s' stop => cases stop <;> simp [ih]

/-- The state agrees with the statements that counted so far: the bundle is that of its directory,
and the table has the latest group of every name. -/
structure Agrees (sc : Scanner) (cs : List Contribution) (first : SourceFile) (s : FileState) :
    Prop where
  bundle_eq : s.bundle = sc.bundleOf cs first
  table : ∀ name, s.groups.get? name = latest? name (sc.groupsOf cs)

variable {sc : Scanner} {cs : List Contribution} {first : SourceFile} {s : FileState}
  {file : Path} {stmt : Statement}

theorem Agrees.baseDir_eq (h : s.Agrees sc cs first) : s.bundle.baseDir = first.dir := by
  rw [h.bundle_eq]
  rfl

/-- One statement that counts is one more contribution. -/
theorem Agrees.resolve (h : s.Agrees sc cs first) (file : Path) (hoff : sc.offends stmt = false)
    (hfail : sc.failure? first.dir stmt = none) :
    ∃ s', s.resolve sc file stmt = (s', none)
      ∧ s'.Agrees sc (cs ++ [⟨first.dir, stmt⟩]) first := by
  rw [← h.baseDir_eq] at hfail
  obtain ⟨journal, hres⟩ := resolve_of_effect (resolve_of_counts file hoff hfail)
  refine ⟨_, hres, ?_, ?_⟩
  · have hreference : sc.referenceTo? s.groups.get? stmt = sc.reference? cs stmt :=
      congrArg (sc.referenceTo? · stmt) (funext h.table)
    dsimp only
    rw [Scanner.effect_bundle, hreference, h.baseDir_eq, h.bundle_eq, Scanner.bundleOf_concat_same]
  · intro name
    rw [Scanner.groupsOf_concat, ← h.baseDir_eq]
    exact Scanner.get?_effect_groups h.table name

/-- The statements that count are resolved, and the file is given up at the first group whose
directory cannot be found. -/
theorem Agrees.resolveAll (h : s.Agrees sc cs first) (file : Path) (stmts : List Statement)
    (hoff : ∀ stmt ∈ stmts.takeWhile (fun stmt => (sc.failure? first.dir stmt).isNone),
      sc.offends stmt = false) :
    ∃ s', s.resolveAll sc file stmts
        = (s', stmts.findSome? fun stmt =>
            (sc.failure? first.dir stmt).map (.groupPath file stmt.call.path ·))
      ∧ s'.Agrees sc (cs ++ (stmts.takeWhile fun stmt =>
          (sc.failure? first.dir stmt).isNone).map (⟨first.dir, ·⟩)) first := by
  induction stmts generalizing s cs with
  | nil => exact ⟨s, rfl, by simpa using h⟩
  | cons stmt stmts ih =>
      rw [FileState.resolveAll, List.findSome?_cons]
      cases hfail : sc.failure? first.dir stmt with
      | some cause =>
          have hres := resolve_of_error (resolve_of_failure file (h.baseDir_eq ▸ hfail))
          refine ⟨s, by simp [hres], ?_⟩
          simpa [hfail] using h
      | none =>
          rw [List.takeWhile_cons_of_pos (by simp [hfail])] at hoff ⊢
          obtain ⟨s', hres, hs'⟩ :=
            h.resolve file (hoff stmt (List.mem_cons_self ..)) hfail
          obtain ⟨s'', hrest, hs''⟩ := ih hs' fun t ht => hoff t (List.mem_cons_of_mem _ ht)
          refine ⟨s'', by rw [hres]; exact hrest, ?_⟩
          rwa [List.append_assoc] at hs''

/-- The first of the statements that count and offend is the error of the file. -/
theorem Agrees.resolveAll_of_offends (h : s.Agrees sc cs first) (file : Path)
    {stmts : List Statement} (hfind : (stmts.takeWhile fun stmt =>
      (sc.failure? first.dir stmt).isNone).find? sc.offends = some stmt) :
    (s.resolveAll sc file stmts).2 = some (.unknownMethod sc.ns stmt.call.method file) := by
  induction stmts generalizing s cs with
  | nil => cases hfind
  | cons t stmts ih =>
      cases hfail : sc.failure? first.dir t with
      | some cause => simp [hfail] at hfind
      | none =>
          rw [List.takeWhile_cons_of_pos (by simp [hfail]), List.find?_cons] at hfind
          rw [FileState.resolveAll]
          cases hoff : sc.offends t with
          | true =>
              rw [hoff] at hfind
              obtain rfl := Option.some.inj hfind
              simp [resolve_of_error (resolve_of_offends file hoff)]
          | false =>
              rw [hoff] at hfind
              obtain ⟨s', hres, hs'⟩ := h.resolve file hoff hfail
              rw [hres]
              exact ih hs' hfind

end FileState

/-! ## One file -/

namespace Session

/-- The registry and the group table agree with the files that were looked into so far. -/
structure Collects (sc : Scanner) (files : List SourceFile) (s : Session) : Prop where
  indexed : s.registry.Indexed
  bundles_eq : s.registry.bundles.toList
    = (Scanner.firstFiles files).map (sc.bundleOf (sc.contributions files))
  table : ∀ name, s.groups.get? name = latest? name (sc.groupsOf (sc.contributions files))

/-- The session agrees with the inputs that came so far. -/
structure Agrees (sc : Scanner) (done : List (Path × String)) (s : Session) : Prop where
  collects : s.Collects sc (sc.processed done)
  errors_eq : s.errors = (done.filterMap sc.noted?).map .scan

variable {sc : Scanner}

theorem isFileScoped_of_noted? {input : Path × String} {cause : ScanError}
    (h : sc.noted? input = some cause) : cause.isFileScoped = true := by
  rw [Scanner.noted?] at h
  split at h
  · obtain ⟨f, -, hf⟩ := Option.bind_eq_some_iff.mp h
    obtain ⟨stmt, -, hstmt⟩ := List.exists_of_findSome?_eq_some hf
    obtain ⟨cause', -, rfl⟩ := Option.map_eq_some_iff.mp hstmt
    rfl
  · obtain ⟨limit, -, rfl⟩ := Option.map_eq_some_iff.mp h
    rfl

/-- An input is done when its files are collected and its error, if it has one, is noted. -/
theorem Collects.close {done : List (Path × String)} {input : Path × String} {s : Session}
    (h : s.Collects sc (sc.processed (done ++ [input])))
    (herrors : s.errors = (done.filterMap sc.noted?).map .scan) :
    ∃ s', (match sc.noted? input with
        | none => (s, none)
        | some cause => s.meet cause) = (s', none)
      ∧ s'.Agrees sc (done ++ [input]) := by
  cases hnoted : sc.noted? input with
  | none => exact ⟨s, rfl, h, by simp [herrors, hnoted]⟩
  | some cause =>
      refine ⟨s.skip cause, by simp [meet, isFileScoped_of_noted? hnoted], ?_, ?_⟩
      · exact ⟨h.indexed, h.bundles_eq, h.table⟩
      · simp [skip, herrors, hnoted]

/-- A registry with the directory of a further file entered: its bundle is at `i`, and `first` is
the file that opened it. -/
structure Entered (sc : Scanner) (files : List SourceFile) (f : SourceFile) (r : Registry) (i : Nat)
    (first : SourceFile) : Prop where
  indexed : r.Indexed
  bundles_eq : r.bundles.toList
    = (Scanner.firstFiles (files ++ [f])).map (sc.bundleOf (sc.contributions files))
  first_eq : (Scanner.firstFiles (files ++ [f]))[i]? = some first
  dir_eq : first.dir = f.dir

/-- The directory of a file is entered at the bundle of the first file of the directory, which may
be the file itself. -/
theorem enter_firstFiles {r : Registry} (hr : r.Indexed) {files : List SourceFile}
    (hbundles : r.bundles.toList
      = (Scanner.firstFiles files).map (sc.bundleOf (sc.contributions files))) (f : SourceFile) :
    ∃ r' i first, r.enter f.dir f.path f.package = (r', i) ∧ Entered sc files f r' i first := by
  have hindexed := hr.enter f.dir f.path f.package
  by_cases hmet : ∃ g ∈ files, g.dir = f.dir
  · have hsame : Scanner.firstFiles (files ++ [f]) = Scanner.firstFiles files :=
      firstBy_concat_of_mem _ hmet
    obtain ⟨g, hg, hdir⟩ := (exists_mem_firstBy_iff _ files f.dir).mpr hmet
    have hmem : sc.bundleOf (sc.contributions files) g ∈ r.bundles.toList :=
      hbundles ▸ List.mem_map_of_mem hg
    have hcomp : (sc.bundleOf (sc.contributions files) g).baseDir.components = f.dir.components :=
      congrArg Path.components hdir
    obtain ⟨i, henter, b, hi, hb⟩ := Registry.enter_of_mem hr f.path f.package hmem hcomp
    rw [hbundles, List.getElem?_map, Option.map_eq_some_iff] at hi
    obtain ⟨first, hfirst, rfl⟩ := hi
    rw [henter] at hindexed
    exact ⟨r, i, first, henter, hindexed, hsame ▸ hbundles, hsame ▸ hfirst,
      Path.sourceDir_eq_of_components_eq hb⟩
  · have hdirs : ∀ g ∈ files, g.dir ≠ f.dir := fun g hg hdir => hmet ⟨g, hg, hdir⟩
    have hmore : Scanner.firstFiles (files ++ [f]) = Scanner.firstFiles files ++ [f] :=
      firstBy_concat_of_new _ hdirs
    have hnew : ∀ b ∈ r.bundles.toList, b.baseDir.components ≠ f.dir.components := by
      intro b hb hcomp
      rw [hbundles] at hb
      obtain ⟨g, hg, rfl⟩ := List.mem_map.mp hb
      exact hmet ((exists_mem_firstBy_iff _ files f.dir).mp
        ⟨g, hg, Path.sourceDir_eq_of_components_eq hcomp⟩)
    have hempty : sc.bundleOf (sc.contributions files) f
        = Bundle.empty f.dir f.path f.package := by
      refine Scanner.bundleOf_eq_empty fun c hc => ?_
      obtain ⟨g, hg, hdir⟩ := Scanner.exists_file_of_mem_contributions hc
      exact hdir ▸ hdirs g hg
    have henter := Registry.enter_of_new hr f.path f.package hnew
    rw [henter] at hindexed
    refine ⟨_, _, f, henter, hindexed, ?_, ?_, rfl⟩
    · rw [hmore, List.map_append, ← hbundles, List.map_singleton, hempty, Array.toList_push]
    · have hlen : r.bundles.size = (Scanner.firstFiles files).length := by
        rw [← Array.length_toList, hbundles, List.length_map]
      rw [hmore, hlen, List.getElem?_concat_length]

/-- Further statements of the file change the bundle of its directory only. -/
theorem Entered.update {files : List SourceFile} {f : SourceFile} {r : Registry} {i : Nat}
    {first : SourceFile} (h : Entered sc files f r i first) {ds : List Contribution}
    (hds : ∀ d ∈ ds, d.dir = first.dir) :
    (r.update i (sc.bundleOf (sc.contributions files ++ ds) first)).bundles.toList
      = (Scanner.firstFiles (files ++ [f])).map (sc.bundleOf (sc.contributions files ++ ds)) := by
  obtain ⟨hindexed, hbundles, hi, -⟩ := h
  have hat : r.bundles.toList[i]? = some (sc.bundleOf (sc.contributions files) first) := by
    rw [hbundles, List.getElem?_map, hi]
    rfl
  have hdistinct : ((Scanner.firstFiles (files ++ [f])).map (·.dir.components)).Nodup := by
    simpa only [hbundles, List.map_map, Function.comp_def, Scanner.bundleOf] using hindexed.distinct
  rw [Registry.toList_update hindexed hat, hbundles, List.map_map]
  refine List.map_congr_left fun g hg => ?_
  rw [Function.comp_apply]
  split
  · -- Two files of one directory would have their bundles at one position.
    rename_i hsame
    have hsame : g.dir.components = first.dir.components := hsame
    have hfirst : g = first :=
      List.inj_on_of_nodup_map hdistinct hg (List.mem_of_getElem? hi) hsame
    rw [hfirst]
  · rename_i hother
    refine (Scanner.bundleOf_append_other fun d hd hdir => hother ?_).symm
    exact congrArg Path.components (hdir.symm.trans (hds d hd))

/-- Put the outcome of a file back into the session, and act on the error that ended it. -/
def leave (s : Session) (r : Registry) (i : Nat) : FileState × Option ScanError →
    Session × Option Error
  | (state, stop) =>
    let s' := { s with
      registry := r.update i state.bundle
      groups := state.groups
      files := s.files + 1
      journal := state.journal }
    match stop with
    | none => (s', none)
    | some cause => s'.meet cause

variable {done : List (Path × String)} {s : Session} {file : Path} {source : String}
  {tree : SourceTree}

theorem scanTree_of_enter {r : Registry} {i : Nat} {b : Bundle}
    (henter : s.registry.enter file.sourceDir file tree.package = (r, i))
    (hi : r.bundles.toList[i]? = some b) :
    s.scanTree sc file tree = s.leave r i (FileState.resolveAll sc file ⟨b, s.groups, s.journal⟩
      (tree.root.preorder.filterMap Tree.statement?)) := by
  have hat : r.bundleAt? i = some b := (r.bundleAt?_eq i).trans hi
  rw [Session.scanTree, henter]
  simp only [hat, Tree.walk_eq_visitAll, FileState.visitAll_visit]
  rfl

/-- Scanning a tree resolves the statements of its file, from a state that agrees with the files
before it. -/
theorem Agrees.scanTree_eq (h : s.Agrees sc done) (file : Path) (tree : SourceTree) :
    ∃ r i first state, Entered sc (sc.processed done) (.ofTree file tree) r i first
      ∧ FileState.Agrees sc (sc.contributions (sc.processed done)) first state
      ∧ s.scanTree sc file tree
          = s.leave r i (state.resolveAll sc file (SourceFile.ofTree file tree).statements) := by
  obtain ⟨r, i, first, henter, hentered⟩ :=
    enter_firstFiles h.collects.indexed h.collects.bundles_eq (.ofTree file tree)
  have hi : r.bundles.toList[i]?
      = some (sc.bundleOf (sc.contributions (sc.processed done)) first) := by
    rw [hentered.bundles_eq, List.getElem?_map, hentered.first_eq]
    rfl
  exact ⟨r, i, first, ⟨_, s.groups, s.journal⟩, hentered, ⟨rfl, h.collects.table⟩,
    scanTree_of_enter henter hi⟩

theorem Agrees.scanTree_of_offends (h : s.Agrees sc done) {stmt : Statement}
    (hfind : (sc.reached (.ofTree file tree)).find? sc.offends = some stmt) :
    (s.scanTree sc file tree).2
      = some (.scan (.unknownMethod sc.ns stmt.call.method file)) := by
  obtain ⟨r, i, first, state, hentered, hstate, heq⟩ := h.scanTree_eq file tree
  rw [Scanner.reached, ← hentered.dir_eq] at hfind
  have hstop := hstate.resolveAll_of_offends file hfind
  rw [heq]
  generalize state.resolveAll sc file (SourceFile.ofTree file tree).statements = result at hstop ⊢
  obtain ⟨state', stop⟩ := result
  obtain rfl : stop = some _ := hstop
  rfl

/-- Scanning the tree of a file in which no statement that counts offends: the file is one more
file, and the error that it may have is noted. -/
theorem Agrees.scanTree (h : s.Agrees sc done) (hadm : sc.admits source = true)
    (hparse : parseSource sc.recover file source = .ok tree)
    (hfind : (sc.reached (.ofTree file tree)).find? sc.offends = none) :
    ∃ s', s.scanTree sc file tree = (s', none) ∧ s'.Agrees sc (done ++ [(file, source)]) := by
  obtain ⟨r, i, first, state, hentered, hstate, heq⟩ := h.scanTree_eq file tree
  have hfile : sc.sourceFile? (file, source) = some (.ofTree file tree) := by
    simp [Scanner.sourceFile?, hadm, hparse, Except.toOption]
  have hprocessed : sc.processed (done ++ [(file, source)])
      = sc.processed done ++ [.ofTree file tree] := by
    simp [Scanner.processed, hfile]
  rw [Scanner.reached, ← hentered.dir_eq, List.find?_eq_none] at hfind
  obtain ⟨state', hres, hstate'⟩ := hstate.resolveAll file (SourceFile.ofTree file tree).statements
    fun stmt hmem => by simpa using hfind stmt hmem
  have hcs : sc.contributions (sc.processed (done ++ [(file, source)]))
      = sc.contributions (sc.processed done)
        ++ ((SourceFile.ofTree file tree).statements.takeWhile fun stmt =>
          (sc.failure? first.dir stmt).isNone).map (⟨first.dir, ·⟩) := by
    rw [hprocessed, Scanner.contributions_concat, Scanner.reached, hentered.dir_eq]
  have hnoted : sc.noted? (file, source)
      = (SourceFile.ofTree file tree).statements.findSome? fun stmt =>
          (sc.failure? first.dir stmt).map (.groupPath file stmt.call.path ·) := by
    rw [Scanner.noted?, if_pos hadm, hfile, hentered.dir_eq]
    rfl
  have hcollects : ({ s with
      registry := r.update i state'.bundle
      groups := state'.groups
      files := s.files + 1
      journal := state'.journal } : Session).Collects sc
        (sc.processed (done ++ [(file, source)])) := by
    refine ⟨?_, ?_, ?_⟩
    · obtain ⟨b, hb, hdir⟩ : ∃ b, r.bundles.toList[i]? = some b ∧ b.baseDir = first.dir := by
        rw [hentered.bundles_eq, List.getElem?_map, hentered.first_eq]
        exact ⟨_, rfl, rfl⟩
      exact hentered.indexed.update hb (hstate'.baseDir_eq.trans hdir.symm)
    · rw [hstate'.bundle_eq, hcs, hprocessed]
      exact hentered.update fun d hd => by
        obtain ⟨stmt, -, rfl⟩ := List.mem_map.mp hd
        rfl
    · rw [hcs]
      exact hstate'.table
  obtain ⟨s', hs', hagrees⟩ := hcollects.close h.errors_eq
  refine ⟨s', ?_, hagrees⟩
  rw [heq, hres, ← hs', ← hnoted]
  rfl

/-! ## All inputs -/

theorem tooLarge?_eq (sc : Scanner) (file : Path) (source : String) :
    tooLarge? sc file source.utf8ByteSize
      = if sc.admits source then none
        else sc.limit.map fun limit => .fileTooLarge file source.utf8ByteSize limit.toNat := by
  rw [tooLarge?, Scanner.admits]
  cases sc.limit with
  | none => rfl
  | some limit =>
      by_cases h : source.utf8ByteSize ≤ limit.toNat
      · simp [h]
      · simp [h, Nat.lt_of_not_le h]

/-- An input that does not end the scan is done. -/
theorem Agrees.scanSource (h : s.Agrees sc done) {input : Path × String}
    (hfatal : sc.fatal? input = none) :
    ∃ s', Session.scanSource sc input s = (s', none) ∧ s'.Agrees sc (done ++ [input]) := by
  obtain ⟨file, source⟩ := input
  rw [Session.scanSource, tooLarge?_eq]
  cases hadm : sc.admits source with
  | true =>
      rw [Scanner.fatal?, if_pos hadm] at hfatal
      cases hparse : parseSource sc.recover file source with
      | error cause => rw [hparse] at hfatal; cases hfatal
      | ok tree =>
          rw [hparse, Option.map_eq_none_iff] at hfatal
          simp only [if_true, scanText, hparse]
          exact h.scanTree hadm hparse hfatal
  | false =>
      have hnone : sc.sourceFile? (file, source) = none := by simp [Scanner.sourceFile?, hadm]
      have hprocessed : sc.processed (done ++ [(file, source)]) = sc.processed done := by
        simp [Scanner.processed, hnone]
      obtain ⟨s', hs', hagrees⟩ := Collects.close (hprocessed ▸ h.collects) h.errors_eq
      refine ⟨s', ?_, hagrees⟩
      -- A text is too large only if there is a limit.
      obtain ⟨limit, hlimit⟩ : ∃ limit, sc.limit = some limit := by
        rw [Scanner.admits] at hadm
        split at hadm
        · exact ⟨_, ‹_›⟩
        · cases hadm
      rw [← hs', Scanner.noted?]
      simp [hadm, hlimit]

theorem Agrees.scanSource_of_fatal (h : s.Agrees sc done) {input : Path × String} {e : Error}
    (hfatal : sc.fatal? input = some e) : (Session.scanSource sc input s).2 = some e := by
  obtain ⟨file, source⟩ := input
  rw [Scanner.fatal?] at hfatal
  split at hfatal
  · rename_i hadm
    rw [Session.scanSource, tooLarge?_eq, if_pos hadm]
    cases hparse : parseSource sc.recover file source with
    | error cause =>
        rw [hparse] at hfatal
        simpa [scanText, hparse] using hfatal
    | ok tree =>
        rw [hparse] at hfatal
        obtain ⟨stmt, hfind, rfl⟩ := Option.map_eq_some_iff.mp hfatal
        simp only [scanText, hparse]
        exact h.scanTree_of_offends hfind
  · cases hfatal

/-- All inputs are done, or the scan ends with the error of the first one that ends it. -/
theorem Agrees.scanAll (h : s.Agrees sc done) (inputs : List (Path × String)) :
    match inputs.findSome? sc.fatal? with
    | some e => (Session.scanAll (Session.scanSource sc) s inputs).2 = some e
    | none => ∃ s', Session.scanAll (Session.scanSource sc) s inputs = (s', none)
        ∧ s'.Agrees sc (done ++ inputs) := by
  induction inputs generalizing s done with
  | nil => exact ⟨s, rfl, by rwa [List.append_nil]⟩
  | cons input inputs ih =>
      rw [List.findSome?_cons, Session.scanAll]
      cases hfatal : sc.fatal? input with
      | some e =>
          have hstop := h.scanSource_of_fatal hfatal
          generalize Session.scanSource sc input s = result at hstop ⊢
          obtain ⟨s', stop⟩ := result
          obtain rfl : stop = some e := hstop
          rfl
      | none =>
          obtain ⟨s', hs', hagrees⟩ := h.scanSource hfatal
          have hrest := ih hagrees
          rw [List.append_assoc, List.singleton_append] at hrest
          simpa only [hs'] using hrest

theorem agrees_start (sc : Scanner) (files : Option Nat) : (start files).Agrees sc [] where
  collects :=
    { indexed := Registry.indexed_empty
      bundles_eq := rfl
      table := fun name => by
        simp [start, GroupTable.empty, GroupTable.get?, Scanner.processed, Scanner.contributions,
          Scanner.groupsOf, latest?] }
  errors_eq := rfl

variable {inputs : List (Path × String)}

/-- A scan of inputs of which one ends it reports the error of the first such input, however the
scan was started. -/
theorem result_of_fatal (files : Option Nat) {e : Error}
    (h : inputs.findSome? sc.fatal? = some e) :
    (report (scanAll (scanSource sc) (start files) inputs)).result = .error e := by
  have hall := (agrees_start sc files).scanAll inputs
  rw [h] at hall
  generalize scanAll (scanSource sc) (start files) inputs = result at hall ⊢
  obtain ⟨s, stop⟩ := result
  obtain rfl : stop = some e := hall
  rfl

theorem result_of_not_fatal (files : Option Nat) (h : inputs.findSome? sc.fatal? = none) :
    (report (scanAll (scanSource sc) (start files) inputs)).result = .ok
      { data := ⟨(Scanner.firstFiles (sc.processed inputs)).map
          (sc.bundleOf (sc.contributions (sc.processed inputs)))⟩
        errors := (inputs.filterMap sc.noted?).map .scan } := by
  have hall := (agrees_start sc files).scanAll inputs
  rw [h] at hall
  obtain ⟨s, hs, hagrees⟩ := hall
  rw [hs, report, Registry.inventory, hagrees.collects.bundles_eq, hagrees.errors_eq]
  rfl

/-- How a scan was started shows in its journal only. -/
theorem result_start (sc : Scanner) (files : Option Nat) (inputs : List (Path × String)) :
    (report (scanAll (scanSource sc) (start files) inputs)).result
      = (sc.scanSources inputs).result := by
  rw [Scanner.scanSources]
  cases h : inputs.findSome? sc.fatal? with
  | some e => rw [result_of_fatal files h, result_of_fatal none h]
  | none => rw [result_of_not_fatal files h, result_of_not_fatal none h]

end Session

namespace Scanner

variable {sc : Scanner} {inputs : List (Path × String)}

theorem scanSources_of_fatal {e : Error} (h : inputs.findSome? sc.fatal? = some e) :
    (sc.scanSources inputs).result = .error e :=
  Session.result_of_fatal none h

theorem scanSources_of_not_fatal (h : inputs.findSome? sc.fatal? = none) :
    (sc.scanSources inputs).result = .ok
      { data := ⟨(firstFiles (sc.processed inputs)).map
          (sc.bundleOf (sc.contributions (sc.processed inputs)))⟩
        errors := (inputs.filterMap sc.noted?).map .scan } :=
  Session.result_of_not_fatal none h

end Scanner

end GoAssets
