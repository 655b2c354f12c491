import GoAssets.Proofs.FirstBy
import GoAssets.Proofs.Syntax.Preorder
import GoAssets.Scan

/-!
# What a scan means

A second account of a scan, without registry, group table or early exit. It looks at a scan as a
whole: which files it looks into, which of their statements count, which errors there are, and what
the statements that count add up to.

- A statement *declares* if it calls `Group` on the namespace, and it *offends* if it calls a method
  on the namespace that there is not. A declaration whose directory cannot be found ends what
  counts of its file (`Scanner.reached`).
- `Scanner.fatal?` is the error with which an input ends the scan, and `Scanner.noted?` the one
  that is only noted.
- The statements that count, of all files in order, are `Scanner.contributions`. What one of them
  refers to depends on those before it: `Scanner.reference?` takes the latest group of a name.
- `Scanner.bundleOf` collects what belongs to one directory.

The lemmas say how each of these changes when one more statement counts. `Proofs/Scan/Session`
shows that a scan computes them.
-/

namespace GoAssets

/-- A file that a scan looks into: its asset statements are those of its tree in pre-order. -/
structure SourceFile where
  path : Path
  package : String
  statements : List Statement

namespace SourceFile

def dir (f : SourceFile) : Path := f.path.sourceDir

def ofTree (path : Path) (tree : SourceTree) : SourceFile :=
  ⟨path, tree.package, tree.root.preorder.filterMap Tree.statement?⟩

end SourceFile

/-- The methods of the namespace that refer to an asset. -/
def itemMethods : List String := ["String", "MustString", "Bytes", "MustBytes"]

def knownMethods : List String := "Group" :: itemMethods

/-- A statement that counts, with the directory of its file. -/
structure Contribution where
  dir : Path
  stmt : Statement

/-- The last of the groups with a name. -/
def latest? (name : String) (groups : List Group) : Option Group :=
  groups.reverse.find? (·.name == name)

namespace Scanner

variable (sc : Scanner)

/-! ## Single statements -/

def declares (stmt : Statement) : Bool :=
  stmt.call.receiver == sc.ns && stmt.call.method == "Group"

/-- Whether a statement calls a method on the namespace that there is not. -/
def offends (stmt : Statement) : Bool :=
  stmt.call.receiver == sc.ns && !knownMethods.contains stmt.call.method

/-- Why the directory of a declared group cannot be found, for a file in `dir`. -/
def failure? (dir : Path) (stmt : Statement) : Option IoFailure :=
  if sc.declares stmt then
    match sc.locate dir stmt.call.path with
    | .error cause => some cause
    | .ok _ => none
  else none

/-- The group that a statement of a file in `dir` declares. -/
def declared? (dir : Path) (stmt : Statement) : Option Group :=
  if sc.declares stmt then
    (sc.locate dir stmt.call.path).toOption.map (⟨stmt.target, stmt.call.path, ·⟩)
  else none

/-- The statements of a file that count: those before the first group whose directory cannot be
found. -/
def reached (f : SourceFile) : List Statement :=
  f.statements.takeWhile (fun stmt => (sc.failure? f.dir stmt).isNone)

/-! ## Single inputs -/

def admits (source : String) : Bool :=
  match sc.limit with
  | some limit => decide (source.utf8ByteSize ≤ limit.toNat)
  | none => true

def sourceFile? (input : Path × String) : Option SourceFile :=
  if sc.admits input.2 then
    (parseSource sc.recover input.1 input.2).toOption.map (SourceFile.ofTree input.1)
  else none

/-- The error with which an input ends the scan: its text cannot be read, or a statement that counts
offends. -/
def fatal? (input : Path × String) : Option Error :=
  if sc.admits input.2 then
    match parseSource sc.recover input.1 input.2 with
    | .error cause => some (.source cause)
    | .ok tree =>
      ((sc.reached (.ofTree input.1 tree)).find? sc.offends).map fun stmt =>
        .scan (.unknownMethod sc.ns stmt.call.method input.1)
  else none

/-- The error of an input that is only noted: it is too large, or the directory of a group cannot
be found. -/
def noted? (input : Path × String) : Option ScanError :=
  if sc.admits input.2 then
    (sc.sourceFile? input).bind fun f => f.statements.findSome? fun stmt =>
      (sc.failure? f.dir stmt).map (.groupPath input.1 stmt.call.path ·)
  else sc.limit.map fun limit => .fileTooLarge input.1 input.2.utf8ByteSize limit.toNat

/-! ## All inputs -/

def processed (inputs : List (Path × String)) : List SourceFile :=
  inputs.filterMap sc.sourceFile?

/-- The statements that count, of all files in order. -/
def contributions (files : List SourceFile) : List Contribution :=
  files.flatMap fun f => (sc.reached f).map (⟨f.dir, ·⟩)

def groupsOf (cs : List Contribution) : List Group :=
  cs.filterMap fun c => sc.declared? c.dir c.stmt

/-- The asset that a statement refers to after those before it: directly, through the namespace, or
in the latest group that has the name of its receiver. -/
def reference? (before : List Contribution) (stmt : Statement) : Option Asset :=
  if stmt.call.receiver = sc.ns then
    if itemMethods.contains stmt.call.method then some (.direct stmt.call.path) else none
  else (latest? stmt.call.receiver (sc.groupsOf before)).map (.inGroup stmt.call.path)

def references (before : List Contribution) : List Contribution → List (Path × Asset)
  | [] => []
  | c :: cs =>
    ((sc.reference? before c.stmt).map (c.dir, ·)).toList ++ references (before ++ [c]) cs

/-- The assets that are referred to from one directory: the first reference to each name. -/
def assetsIn (dir : Path) (cs : List Contribution) : List Asset :=
  firstBy Asset.name (((sc.references [] cs).filter (·.1 == dir)).map (·.2))

/-- The groups that are declared in one directory, also those of the same name. -/
def groupsIn (dir : Path) (cs : List Contribution) : List Group :=
  sc.groupsOf (cs.filter (·.dir == dir))

/-- The bundle of a directory, of which `first` is the first file. -/
def bundleOf (cs : List Contribution) (first : SourceFile) : Bundle where
  caller := first.path
  packageName := first.package
  baseDir := first.dir
  assets := sc.assetsIn first.dir cs
  groups := sc.groupsIn first.dir cs

def firstFiles (files : List SourceFile) : List SourceFile := firstBy SourceFile.dir files

end Scanner

/-! ## One more statement -/

theorem Bundle.addAsset_fst (b : Bundle) (a : Asset) :
    (b.addAsset a).1
      = { b with assets :=
            if b.assets.any (·.name == a.name) then b.assets else b.assets ++ [a] } := by
  rw [addAsset, hasAsset]
  split <;> rfl

theorem Bundle.addAsset_snd (b : Bundle) (a : Asset) : (b.addAsset a).2 = !b.hasAsset a.name := by
  rw [addAsset]
  cases b.hasAsset a.name <;> rfl

theorem latest?_concat (name : String) (groups : List Group) (g : Group) :
    latest? name (groups ++ [g]) = if g.name = name then some g else latest? name groups := by
  rw [latest?, List.reverse_append, List.reverse_singleton, List.singleton_append]
  by_cases h : g.name = name
  · simp [h]
  · rw [List.find?_cons_of_neg (by simpa using h), if_neg h, latest?]

theorem name_of_latest? {name : String} {groups : List Group} {g : Group}
    (h : latest? name groups = some g) : g.name = name := by
  rw [latest?] at h
  simpa using List.find?_some h

namespace Scanner

variable {sc : Scanner} {dir : Path} {stmt : Statement} {cs : List Contribution}

/-- The file of an input that a scan looks into comes from the tree of its text. -/
theorem sourceFile?_eq_some_iff {input : Path × String} {f : SourceFile} :
    sc.sourceFile? input = some f ↔ sc.admits input.2 = true
      ∧ ∃ tree, parseSource sc.recover input.1 input.2 = .ok tree ∧ f = .ofTree input.1 tree := by
  rw [sourceFile?]
  by_cases hsize : sc.admits input.2 = true
  · rw [if_pos hsize]
    cases parseSource sc.recover input.1 input.2 with
    | error cause => simp [Except.toOption]
    | ok tree => simp [Except.toOption, hsize, eq_comm]
  · simp [hsize]

theorem groupsOf_concat (cs : List Contribution) (c : Contribution) :
    sc.groupsOf (cs ++ [c]) = sc.groupsOf cs ++ (sc.declared? c.dir c.stmt).toList := by
  rw [groupsOf, groupsOf, List.filterMap_append]
  cases h : sc.declared? c.dir c.stmt <;> simp [h]

theorem references_concat (before cs : List Contribution) (c : Contribution) :
    sc.references before (cs ++ [c]) = sc.references before cs
      ++ ((sc.reference? (before ++ cs) c.stmt).map (c.dir, ·)).toList := by
  induction cs generalizing before with
  | nil => simp [references]
  | cons d cs ih =>
      rw [List.cons_append, references, references, ih, List.append_assoc, List.append_assoc,
        List.singleton_append]

def recordIn (b : Bundle) (reference : Option Asset) : Bundle :=
  match reference with
  | some a => (b.addAsset a).1
  | none => b

def declareIn (b : Bundle) (group : Option Group) : Bundle :=
  match group with
  | some g => b.addGroup g
  | none => b

theorem assetsIn_concat (cs : List Contribution) (stmt : Statement) :
    sc.assetsIn dir (cs ++ [⟨dir, stmt⟩]) =
      match sc.reference? cs stmt with
      | some a =>
        if (sc.assetsIn dir cs).any (·.name == a.name) then sc.assetsIn dir cs
        else sc.assetsIn dir cs ++ [a]
      | none => sc.assetsIn dir cs := by
  simp only [assetsIn, references_concat, List.nil_append, List.filter_append, List.map_append]
  cases sc.reference? cs stmt with
  | none => simp
  | some a => simp [firstBy_concat]

/-- A statement changes the bundle of its own directory as it is resolved: it records what it refers
to and takes in what it declares. -/
theorem bundleOf_concat_same (cs : List Contribution) (first : SourceFile) (stmt : Statement) :
    sc.bundleOf (cs ++ [⟨first.dir, stmt⟩]) first
      = declareIn (recordIn (sc.bundleOf cs first) (sc.reference? cs stmt))
          (sc.declared? first.dir stmt) := by
  have hgroups : sc.groupsIn first.dir (cs ++ [⟨first.dir, stmt⟩])
      = sc.groupsIn first.dir cs ++ (sc.declared? first.dir stmt).toList := by
    simp [groupsIn, List.filter_append, groupsOf_concat]
  rw [bundleOf, hgroups, assetsIn_concat, bundleOf]
  cases sc.reference? cs stmt <;> cases sc.declared? first.dir stmt <;>
    simp [declareIn, recordIn, Bundle.addGroup, Bundle.addAsset_fst]

/-- A statement of another directory changes nothing. -/
theorem bundleOf_concat_other {first : SourceFile} {c : Contribution} (h : c.dir ≠ first.dir) :
    sc.bundleOf (cs ++ [c]) first = sc.bundleOf cs first := by
  have hassets : sc.assetsIn first.dir (cs ++ [c]) = sc.assetsIn first.dir cs := by
    simp only [assetsIn, references_concat, List.nil_append, List.filter_append, List.map_append]
    cases sc.reference? cs c.stmt <;> simp [h]
  have hgroups : sc.groupsIn first.dir (cs ++ [c]) = sc.groupsIn first.dir cs := by
    simp [groupsIn, List.filter_append, h]
  rw [bundleOf, hassets, hgroups, bundleOf]

theorem bundleOf_append_other {first : SourceFile} {cs ds : List Contribution}
    (h : ∀ d ∈ ds, d.dir ≠ first.dir) :
    sc.bundleOf (cs ++ ds) first = sc.bundleOf cs first := by
  induction ds using List.reverseRecOn with
  | nil => rw [List.append_nil]
  | append_singleton ds d ih =>
      rw [← List.append_assoc, bundleOf_concat_other (h d (by simp)),
        ih fun e he => h e (List.mem_append_left _ he)]

/-- A directory in which no statement counts has an empty bundle. -/
theorem bundleOf_eq_empty {first : SourceFile} (h : ∀ c ∈ cs, c.dir ≠ first.dir) :
    sc.bundleOf cs first = Bundle.empty first.dir first.path first.package := by
  rw [← List.nil_append cs, bundleOf_append_other h]
  rfl

theorem contributions_concat (files : List SourceFile) (f : SourceFile) :
    sc.contributions (files ++ [f])
      = sc.contributions files ++ (sc.reached f).map (⟨f.dir, ·⟩) := by
  simp [contributions]

theorem exists_file_of_mem_contributions {files : List SourceFile} {c : Contribution}
    (h : c ∈ sc.contributions files) : ∃ f ∈ files, f.dir = c.dir := by
  obtain ⟨f, hf, hc⟩ := List.mem_flatMap.mp h
  obtain ⟨stmt, -, rfl⟩ := List.mem_map.mp hc
  exact ⟨f, hf, rfl⟩

end Scanner

end GoAssets
