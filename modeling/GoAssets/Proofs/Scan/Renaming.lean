import GoAssets.Proofs.Scan.Bundles
import Mathlib.Logic.Equiv.Basic

/-!
# Names do not matter

A scan compares names with the namespace and with each other, and does nothing else with them. So if
all identifiers of all files are renamed, and the namespace with them, in a way that keeps different
names different, the scan goes as before: groups get the new names, and nothing else changes.

Renaming is defined for trees and for all that a scan builds from them. Every operation of a scan
commutes with it, from a single node up to all files. The table of groups is the only place where
two runs are compared by what they answer and not as a whole: a renamed table need not be the image
of the other one, but it answers a renamed name with the renamed group.
-/

namespace GoAssets

/-! ## Renaming -/

section Definitions

variable (ρ : String → String)

mutual

def Tree.rename : Tree → Tree
  | .file package body => .file package (Tree.renames body)
  | .assignment targets values => .assignment (Tree.renames targets) (Tree.renames values)
  | .call function arguments => .call function.rename (Tree.renames arguments)
  | .selector operand field => .selector operand.rename field
  | .identifier name => .identifier (ρ name)
  | .stringLiteral raw => .stringLiteral raw
  | .other kind children => .other kind (Tree.renames children)

def Tree.renames : List Tree → List Tree
  | [] => []
  | t :: ts => t.rename :: Tree.renames ts

end

/-- The package is no identifier of the tree. -/
def SourceTree.rename (t : SourceTree) : SourceTree := { t with root := t.root.rename ρ }

def Statement.rename (s : Statement) : Statement :=
  { target := ρ s.target, call := { s.call with receiver := ρ s.call.receiver } }

def Group.rename (g : Group) : Group := { g with name := ρ g.name }

def Asset.rename (a : Asset) : Asset := { a with group := a.group.map (Group.rename ρ) }

def Bundle.rename (b : Bundle) : Bundle :=
  { b with assets := b.assets.map (Asset.rename ρ), groups := b.groups.map (Group.rename ρ) }

def Inventory.rename (inv : Inventory) : Inventory := ⟨inv.bundles.map (Bundle.rename ρ)⟩

/-- The only name in an error is that of the namespace. -/
def ScanError.rename : ScanError → ScanError
  | .unknownMethod ns method path => .unknownMethod (ρ ns) method path
  | e => e

def Error.rename : Error → Error
  | .scan cause => .scan (cause.rename ρ)
  | e => e

def Outcome.rename (o : Outcome Inventory) : Outcome Inventory :=
  { data := o.data.rename ρ, errors := o.errors.map (Error.rename ρ) }

def Scanner.rename (sc : Scanner) : Scanner := { sc with ns := ρ sc.ns }

def Registry.rename (r : Registry) : Registry :=
  { r with bundles := r.bundles.map (Bundle.rename ρ) }

end Definitions

variable {ρ : String → String}

/-! ## Trees -/

namespace Tree

mutual

theorem preorder_rename (t : Tree) : (t.rename ρ).preorder = t.preorder.map (rename ρ) := by
  cases t with
  | file package body => simp [rename, preorder, preorders_rename body]
  | assignment targets values =>
      simp [rename, preorder, preorders_rename targets, preorders_rename values]
  | call function arguments =>
      simp [rename, preorder, preorder_rename function, preorders_rename arguments]
  | selector operand field => simp [rename, preorder, preorder_rename operand]
  | identifier name => simp [rename, preorder]
  | stringLiteral raw => simp [rename, preorder]
  | other kind children => simp [rename, preorder, preorders_rename children]

theorem preorders_rename (ts : List Tree) :
    preorders (renames ρ ts) = (preorders ts).map (rename ρ) := by
  cases ts with
  | nil => rfl
  | cons t ts => simp [renames, preorders, preorder_rename t, preorders_rename ts]

end

theorem methodCall?_rename (t : Tree) : (t.rename ρ).methodCall?
    = t.methodCall?.map fun c => { c with receiver := ρ c.receiver } := by
  cases t with
  | call function arguments =>
      cases function with
      | selector operand field =>
          cases operand with
          | identifier receiver =>
              match arguments with
              | [] => rfl
              | [argument] => cases argument <;> rfl
              | first :: _ :: _ => cases first <;> rfl
          | _ => rfl
      | _ => rfl
  | _ => rfl

/-- A renamed tree is an asset statement exactly if the tree is one. -/
theorem statement?_rename (t : Tree) :
    (t.rename ρ).statement? = t.statement?.map (Statement.rename ρ) := by
  cases t with
  | assignment targets values =>
      match targets, values with
      | [], _ => rfl
      | [target], [] => cases target <;> rfl
      | [target], [value] =>
          cases target with
          | identifier name =>
              have hvalue : (assignment [identifier name] [value]).rename ρ
                  = assignment [identifier (ρ name)] [value.rename ρ] := rfl
              rw [hvalue, statement?, statement?, methodCall?_rename, Option.map_map,
                Option.map_map]
              rfl
          | _ => rfl
      | [target], _ :: _ :: _ => cases target <;> rfl
      | first :: _ :: _, _ => cases first <;> rfl
  | _ => rfl

theorem filterMap_preorder_rename (t : Tree) :
    (t.rename ρ).preorder.filterMap statement?
      = (t.preorder.filterMap statement?).map (Statement.rename ρ) := by
  rw [preorder_rename, List.filterMap_map, List.map_filterMap]
  exact congrArg (List.filterMap · t.preorder) (funext statement?_rename)

end Tree

/-! ## Bundles -/

namespace Bundle

theorem hasAsset_rename (b : Bundle) (name : String) :
    (b.rename ρ).hasAsset name = b.hasAsset name := by
  rw [hasAsset, hasAsset, rename, List.any_map]
  rfl

theorem addAsset_rename (b : Bundle) (a : Asset) :
    ((b.rename ρ).addAsset (a.rename ρ)).1 = (b.addAsset a).1.rename ρ := by
  have hname : (a.rename ρ).name = a.name := rfl
  rw [addAsset, addAsset, hname, hasAsset_rename]
  split <;> simp [rename]

theorem addGroup_rename (b : Bundle) (g : Group) :
    (b.rename ρ).addGroup (g.rename ρ) = (b.addGroup g).rename ρ := by
  simp [addGroup, rename]

end Bundle

/-! ## One statement -/

namespace Scanner

variable {sc : Scanner} {stmt : Statement} {dir : Path}

theorem recordIn_rename (b : Bundle) (reference : Option Asset) :
    recordIn (b.rename ρ) (reference.map (Asset.rename ρ)) = (recordIn b reference).rename ρ := by
  cases reference with
  | none => rfl
  | some a => exact b.addAsset_rename a

theorem declareIn_rename (b : Bundle) (group : Option Group) :
    declareIn (b.rename ρ) (group.map (Group.rename ρ)) = (declareIn b group).rename ρ := by
  cases group with
  | none => rfl
  | some g => exact b.addGroup_rename g

section

variable (hρ : Function.Injective ρ)
include hρ

theorem receiver_rename :
    (stmt.rename ρ).call.receiver = (sc.rename ρ).ns ↔ stmt.call.receiver = sc.ns :=
  hρ.eq_iff

theorem receiver_beq_rename : ((stmt.rename ρ).call.receiver == (sc.rename ρ).ns)
    = (stmt.call.receiver == sc.ns) := by
  rw [Bool.eq_iff_iff, beq_iff_eq, beq_iff_eq, receiver_rename hρ]

theorem declares_rename : (sc.rename ρ).declares (stmt.rename ρ) = sc.declares stmt := by
  rw [declares, declares, receiver_beq_rename hρ]
  rfl

theorem offends_rename : (sc.rename ρ).offends (stmt.rename ρ) = sc.offends stmt := by
  rw [offends, offends, receiver_beq_rename hρ]
  rfl

theorem failure?_rename : (sc.rename ρ).failure? dir (stmt.rename ρ) = sc.failure? dir stmt := by
  rw [failure?, failure?, declares_rename hρ]
  rfl

theorem declared?_rename : (sc.rename ρ).declared? dir (stmt.rename ρ)
    = (sc.declared? dir stmt).map (Group.rename ρ) := by
  rw [declared?, declared?, declares_rename hρ]
  split
  · rw [Option.map_map]
    rfl
  · rfl

theorem referenceTo?_rename {lookup lookup' : String → Option Group}
    (h : ∀ name, lookup' (ρ name) = (lookup name).map (Group.rename ρ)) :
    (sc.rename ρ).referenceTo? lookup' (stmt.rename ρ)
      = (sc.referenceTo? lookup stmt).map (Asset.rename ρ) := by
  by_cases hns : stmt.call.receiver = sc.ns
  · have hmethod : (stmt.rename ρ).call.method = stmt.call.method := rfl
    rw [referenceTo?, referenceTo?, if_pos hns, if_pos ((receiver_rename hρ).mpr hns), hmethod]
    split <;> rfl
  · rw [referenceTo?, referenceTo?, if_neg hns, if_neg fun h => hns ((receiver_rename hρ).mp h)]
    have hlookup : lookup' (stmt.rename ρ).call.receiver
        = (lookup stmt.call.receiver).map (Group.rename ρ) := h _
    rw [hlookup, Option.map_map, Option.map_map]
    rfl

theorem effect_rename {b : Bundle} {groups groups' : GroupTable}
    (h : ∀ name, groups'.get? (ρ name) = (groups.get? name).map (Group.rename ρ)) :
    ((sc.rename ρ).effect (stmt.rename ρ) (b.rename ρ) groups').bundle
        = (sc.effect stmt b groups).bundle.rename ρ
      ∧ ∀ name, ((sc.rename ρ).effect (stmt.rename ρ) (b.rename ρ) groups').groups.get? (ρ name)
        = ((sc.effect stmt b groups).groups.get? name).map (Group.rename ρ) := by
  have hdir : (b.rename ρ).baseDir = b.baseDir := rfl
  constructor
  · rw [effect_bundle, effect_bundle, hdir, declared?_rename hρ, referenceTo?_rename hρ h,
      recordIn_rename, declareIn_rename]
  · intro name
    rw [effect_groups, effect_groups, hdir, declared?_rename hρ]
    cases sc.declared? b.baseDir stmt with
    | none => exact h name
    | some g =>
        -- A declaration must not take over a name that only the renaming made equal.
        have hname : (g.rename ρ).name = ρ name ↔ g.name = name := hρ.eq_iff
        simp only [Option.map_some, GroupTable.get?_register, hname, h]
        split <;> rfl

end

end Scanner

/-! ## One file -/

namespace FileState

variable (ρ) in
/-- The second state is the first one with other names. -/
structure Renamed (s s' : FileState) : Prop where
  bundle_eq : s'.bundle = s.bundle.rename ρ
  table : ∀ name, s'.groups.get? (ρ name) = (s.groups.get? name).map (Group.rename ρ)

variable {s s' : FileState} (hρ : Function.Injective ρ)
include hρ

theorem Renamed.resolve (h : Renamed ρ s s') (sc : Scanner) (file : Path) (stmt : Statement) :
    Renamed ρ (s.resolve sc file stmt).1 (s'.resolve (sc.rename ρ) file (stmt.rename ρ)).1
      ∧ (s'.resolve (sc.rename ρ) file (stmt.rename ρ)).2
        = (s.resolve sc file stmt).2.map (ScanError.rename ρ) := by
  have hdir : s'.bundle.baseDir = s.bundle.baseDir := by
    rw [h.bundle_eq]
    rfl
  have hoff' : (sc.rename ρ).offends (stmt.rename ρ) = sc.offends stmt :=
    Scanner.offends_rename hρ
  have hfail' : (sc.rename ρ).failure? s'.bundle.baseDir (stmt.rename ρ)
      = sc.failure? s.bundle.baseDir stmt := by
    rw [hdir, Scanner.failure?_rename hρ]
  cases hoff : sc.offends stmt with
  | true =>
      rw [resolve_of_error (resolve_of_offends file hoff),
        resolve_of_error (resolve_of_offends file (hoff'.trans hoff))]
      exact ⟨h, rfl⟩
  | false =>
      cases hfail : sc.failure? s.bundle.baseDir stmt with
      | some cause =>
          rw [resolve_of_error (resolve_of_failure file hfail),
            resolve_of_error (resolve_of_failure file (hfail'.trans hfail))]
          exact ⟨h, rfl⟩
      | none =>
          obtain ⟨journal, hres⟩ := resolve_of_effect (resolve_of_counts file hoff hfail)
          obtain ⟨journal', hres'⟩ :=
            resolve_of_effect (resolve_of_counts file (hoff'.trans hoff) (hfail'.trans hfail))
          obtain ⟨hbundle, htable⟩ := Scanner.effect_rename hρ h.table
          rw [hres, hres', h.bundle_eq]
          exact ⟨⟨hbundle, htable⟩, rfl⟩

theorem Renamed.resolveAll (h : Renamed ρ s s') (sc : Scanner) (file : Path)
    (stmts : List Statement) :
    Renamed ρ (s.resolveAll sc file stmts).1
        (s'.resolveAll (sc.rename ρ) file (stmts.map (Statement.rename ρ))).1
      ∧ (s'.resolveAll (sc.rename ρ) file (stmts.map (Statement.rename ρ))).2
        = (s.resolveAll sc file stmts).2.map (ScanError.rename ρ) := by
  induction stmts generalizing s s' with
  | nil => exact ⟨h, rfl⟩
  | cons stmt stmts ih =>
      obtain ⟨hstate, hstop⟩ := h.resolve hρ sc file stmt
      rw [List.map_cons, FileState.resolveAll, FileState.resolveAll]
      generalize s.resolve sc file stmt = result at hstate hstop ⊢
      generalize s'.resolve (sc.rename ρ) file (stmt.rename ρ) = result' at hstate hstop ⊢
      obtain ⟨t, stop⟩ := result
      obtain ⟨t', stop'⟩ := result'
      obtain rfl : stop' = stop.map (ScanError.rename ρ) := hstop
      cases stop with
      | some e => exact ⟨hstate, rfl⟩
      | none => exact ih hstate

end FileState

/-! ## Bundles by directory -/

namespace Registry

theorem enter_rename (r : Registry) (dir caller : Path) (package : String) :
    (r.rename ρ).enter dir caller package
      = ((r.enter dir caller package).1.rename ρ, (r.enter dir caller package).2) := by
  have hindex : (r.rename ρ).index = r.index := rfl
  have hsize : (r.rename ρ).bundles.size = r.bundles.size := Array.size_map
  rw [enter, enter, hindex, hsize]
  cases r.index[dir.components]? with
  | some i => rfl
  | none =>
      simp only [rename, Array.map_push]
      rfl

theorem bundleAt?_rename (r : Registry) (i : Nat) :
    (r.rename ρ).bundleAt? i = (r.bundleAt? i).map (Bundle.rename ρ) := by
  simp [bundleAt?, rename]

theorem update_rename (r : Registry) (i : Nat) (b : Bundle) :
    (r.rename ρ).update i (b.rename ρ) = (r.update i b).rename ρ := by
  simp [update, rename]

end Registry

/-! ## All files -/

namespace Session

variable (ρ) in
/-- The second session is the first one with other names. -/
structure Renamed (s s' : Session) : Prop where
  registry_eq : s'.registry = s.registry.rename ρ
  table : ∀ name, s'.groups.get? (ρ name) = (s.groups.get? name).map (Group.rename ρ)
  errors_eq : s'.errors = s.errors.map (Error.rename ρ)

variable {s s' : Session}

/-- Which errors end a scan has nothing to do with names. -/
theorem Renamed.meet (h : Renamed ρ s s') (cause : ScanError) :
    Renamed ρ (s.meet cause).1 (s'.meet (cause.rename ρ)).1
      ∧ (s'.meet (cause.rename ρ)).2 = (s.meet cause).2.map (Error.rename ρ) := by
  have hscoped : (cause.rename ρ).isFileScoped = cause.isFileScoped := by cases cause <;> rfl
  rw [Session.meet, Session.meet, hscoped]
  cases cause.isFileScoped with
  | true =>
      refine ⟨⟨h.registry_eq, h.table, ?_⟩, rfl⟩
      simp [skip, h.errors_eq, Error.rename]
  | false => exact ⟨h, rfl⟩

variable (hρ : Function.Injective ρ)
include hρ

theorem Renamed.scanTree (h : Renamed ρ s s') (sc : Scanner) (file : Path) (tree : SourceTree) :
    Renamed ρ (s.scanTree sc file tree).1 (s'.scanTree (sc.rename ρ) file (tree.rename ρ)).1
      ∧ (s'.scanTree (sc.rename ρ) file (tree.rename ρ)).2
        = (s.scanTree sc file tree).2.map (Error.rename ρ) := by
  have hstatements : (tree.rename ρ).root.preorder.filterMap Tree.statement?
      = (tree.root.preorder.filterMap Tree.statement?).map (Statement.rename ρ) :=
    Tree.filterMap_preorder_rename tree.root
  have hpackage : (tree.rename ρ).package = tree.package := rfl
  rw [Session.scanTree, Session.scanTree, h.registry_eq, hpackage, Registry.enter_rename]
  simp only [Tree.walk_eq_visitAll, FileState.visitAll_visit, hstatements,
    Registry.bundleAt?_rename]
  generalize s.registry.enter file.sourceDir file tree.package = entered
  obtain ⟨r, i⟩ := entered
  cases r.bundleAt? i with
  | none => exact ⟨h, rfl⟩
  | some b =>
      have hstart : FileState.Renamed ρ ⟨b, s.groups, s.journal⟩
          ⟨b.rename ρ, s'.groups, s'.journal⟩ := ⟨rfl, h.table⟩
      obtain ⟨hstate, hstop⟩ := hstart.resolveAll hρ sc file
        (tree.root.preorder.filterMap Tree.statement?)
      dsimp only [Option.map_some]
      generalize FileState.resolveAll sc file ⟨b, s.groups, s.journal⟩ _ = result at hstate hstop ⊢
      generalize FileState.resolveAll (sc.rename ρ) file ⟨b.rename ρ, s'.groups, s'.journal⟩ _
        = result' at hstate hstop ⊢
      obtain ⟨t, stop⟩ := result
      obtain ⟨t', stop'⟩ := result'
      obtain rfl : stop' = stop.map (ScanError.rename ρ) := hstop
      have hput : Renamed ρ
          { s with
            registry := r.update i t.bundle
            groups := t.groups
            files := s.files + 1
            journal := t.journal }
          { s' with
            registry := (r.rename ρ).update i t'.bundle
            groups := t'.groups
            files := s'.files + 1
            journal := t'.journal } :=
        ⟨by rw [hstate.bundle_eq, Registry.update_rename], hstate.table, h.errors_eq⟩
      cases stop with
      | none => exact ⟨hput, rfl⟩
      | some cause => exact hput.meet cause

theorem Renamed.scanAll (h : Renamed ρ s s') (sc : Scanner) (inputs : List (Path × SourceTree)) :
    Renamed ρ (Session.scanAll (fun input s => s.scanTree sc input.1 input.2) s inputs).1
        (Session.scanAll (fun input s => s.scanTree (sc.rename ρ) input.1 input.2) s'
          (inputs.map fun input => (input.1, input.2.rename ρ))).1
      ∧ (Session.scanAll (fun input s => s.scanTree (sc.rename ρ) input.1 input.2) s'
          (inputs.map fun input => (input.1, input.2.rename ρ))).2
        = (Session.scanAll (fun input s => s.scanTree sc input.1 input.2) s inputs).2.map
            (Error.rename ρ) := by
  induction inputs generalizing s s' with
  | nil => exact ⟨h, rfl⟩
  | cons input inputs ih =>
      obtain ⟨hsession, hstop⟩ := h.scanTree hρ sc input.1 input.2
      rw [List.map_cons, Session.scanAll, Session.scanAll]
      generalize s.scanTree sc input.1 input.2 = result at hsession hstop ⊢
      generalize s'.scanTree (sc.rename ρ) input.1 (input.2.rename ρ) = result'
        at hsession hstop ⊢
      obtain ⟨t, stop⟩ := result
      obtain ⟨t', stop'⟩ := result'
      obtain rfl : stop' = stop.map (Error.rename ρ) := hstop
      cases stop with
      | some e => exact ⟨hsession, rfl⟩
      | none => exact ih hsession

end Session

namespace Scanner

/-- Scan trees, as the scan of texts does after it has read them. -/
def scanTrees (sc : Scanner) (inputs : List (Path × SourceTree)) : ScanReport :=
  Session.report (Session.scanAll (fun input s => s.scanTree sc input.1 input.2)
    (Session.start none) inputs)

/-- A text within the size limit has a given tree. -/
def Reads (sc : Scanner) (input : Path × String) (tree : Path × SourceTree) : Prop :=
  sc.admits input.2 = true ∧ input.1 = tree.1 ∧ parseSource sc.recover input.1 input.2 = .ok tree.2

theorem Reads.scanSource_eq {sc : Scanner} {input : Path × String} {tree : Path × SourceTree}
    (h : sc.Reads input tree) (s : Session) :
    Session.scanSource sc input s = s.scanTree sc tree.1 tree.2 := by
  obtain ⟨file, source⟩ := input
  obtain ⟨path, tree⟩ := tree
  obtain ⟨hsize, rfl, hparse⟩ := h
  rw [Session.scanSource, Session.tooLarge?_eq, if_pos hsize]
  simp only [Session.scanText, hparse]

/-- The scan of texts that can be read is the scan of their trees. -/
theorem scanSources_eq_scanTrees {sc : Scanner} {inputs : List (Path × String)}
    {trees : List (Path × SourceTree)} (h : List.Forall₂ sc.Reads inputs trees) :
    sc.scanSources inputs = sc.scanTrees trees := by
  rw [scanSources, scanTrees]
  generalize Session.start none = s
  induction h generalizing s with
  | nil => rfl
  | @cons input tree inputs trees hread _ ih =>
      rw [Session.scanAll, Session.scanAll, hread.scanSource_eq]
      cases s.scanTree sc tree.1 tree.2 with
      | mk s' stop =>
          cases stop with
          | some e => rfl
          | none => exact ih s'

def renameResult (ρ : String → String) :
    Except Error (Outcome Inventory) → Except Error (Outcome Inventory)
  | .ok outcome => .ok (outcome.rename ρ)
  | .error e => .error (e.rename ρ)

theorem result_report_rename {result result' : Session × Option Error}
    (h : Session.Renamed ρ result.1 result'.1) (hstop : result'.2 = result.2.map (Error.rename ρ)) :
    (Session.report result').result = renameResult ρ (Session.report result).result := by
  obtain ⟨s, stop⟩ := result
  obtain ⟨s', stop'⟩ := result'
  obtain rfl : stop' = stop.map (Error.rename ρ) := hstop
  cases stop with
  | some e => rfl
  | none =>
      have hinventory : s'.registry.inventory = s.registry.inventory.rename ρ := by
        rw [h.registry_eq]
        simp [Registry.inventory, Registry.rename, Inventory.rename]
      have herrors : s'.errors = s.errors.map (Error.rename ρ) := h.errors_eq
      simp only [Option.map_none, Session.report, renameResult, Outcome.rename, hinventory, herrors]

/-- A scan does not depend on names. If different names stay different, the scan of the renamed
trees under the renamed namespace reports what the scan of the trees does, with the groups (also
those that assets belong to) and the namespace of an unknown method renamed and everything else as
it is. So do the scans of texts that have these trees. -/
theorem scanTrees_rename (sc : Scanner) (hρ : Function.Injective ρ)
    (trees : List (Path × SourceTree)) :
    ((sc.rename ρ).scanTrees (trees.map fun tree => (tree.1, tree.2.rename ρ))).result
        = renameResult ρ (sc.scanTrees trees).result
      ∧ ∀ inputs inputs', List.Forall₂ sc.Reads inputs trees →
        List.Forall₂ sc.Reads inputs' (trees.map fun tree => (tree.1, tree.2.rename ρ)) →
        ((sc.rename ρ).scanSources inputs').result
          = renameResult ρ (sc.scanSources inputs).result := by
  have hstart : Session.Renamed ρ (Session.start none) (Session.start none) :=
    ⟨by simp [Session.start, Registry.rename, Registry.empty],
      fun name => by simp [Session.start, GroupTable.empty, GroupTable.get?], rfl⟩
  obtain ⟨hsession, hstop⟩ := hstart.scanAll hρ sc trees
  have htrees := result_report_rename hsession hstop
  refine ⟨htrees, ?_⟩
  intro inputs inputs' hinputs hinputs'
  have hrenamed : List.Forall₂ (sc.rename ρ).Reads inputs'
      (trees.map fun tree => (tree.1, tree.2.rename ρ)) := hinputs'
  rw [scanSources_eq_scanTrees hinputs, scanSources_eq_scanTrees hrenamed]
  exact htrees

/-- The namespace and a group exchange their names. -/
def exchangedNames : String → String := Equiv.swap "assets" "img"

def sharedGroupTrees : List (Path × SourceTree) :=
  [(⟨"a/x.go"⟩, ⟨"a", fileTree "a" [⟨"img", ⟨"assets", "Group", "img"⟩⟩]⟩),
    (⟨"b/y.go"⟩, ⟨"b", fileTree "b" [⟨"logo", ⟨"img", "String", "logo.png"⟩⟩,
      ⟨"again", ⟨"assets", "Bytes", "logo.png"⟩⟩]⟩)]

/-- The texts of `sharedGroup` with exchanged names. -/
def exchangedGroup : List (Path × String) :=
  [(⟨"a/x.go"⟩, Layout.tabbed.text "a" [⟨"assets", ⟨"img", "Group", "img"⟩⟩]),
    (⟨"b/y.go"⟩, Layout.tabbed.text "b" [⟨"logo", ⟨"assets", "String", "logo.png"⟩⟩,
      ⟨"again", ⟨"img", "Bytes", "logo.png"⟩⟩])]

theorem reads_text {sc : Scanner} (hlimit : sc.limit = none) (layout : Layout) (path : Path)
    {package : String} {stmts : List Statement} (hpackage : IsPlainName package)
    (h : ∀ s ∈ stmts, s.IsPlain) :
    sc.Reads (path, layout.text package stmts) (path, ⟨package, fileTree package stmts⟩) :=
  ⟨by rw [admits, hlimit], rfl, parseSource_text _ layout path hpackage h⟩

/-- Files in which the namespace is called `img` and the group `assets` are scanned like those in
which it is the other way round. -/
theorem scanTrees_rename_exchangedNames :
    Function.Injective exchangedNames
      ∧ ((assetsScanner.rename exchangedNames).scanSources exchangedGroup).result
        = renameResult exchangedNames (assetsScanner.scanSources sharedGroup).result := by
  have hinjective : Function.Injective exchangedNames := (Equiv.swap "assets" "img").injective
  refine ⟨hinjective, (scanTrees_rename assetsScanner hinjective sharedGroupTrees).2 _ _ ?_ ?_⟩
  · exact .cons (reads_text rfl _ _ (by decide) (by decide))
      (.cons (reads_text rfl _ _ (by decide) (by decide)) .nil)
  · exact .cons (reads_text rfl _ _ (by decide) (by decide))
      (.cons (reads_text rfl _ _ (by decide) (by decide)) .nil)

end Scanner

end GoAssets
