import GoAssets.Draft
import GoAssets.Proofs.Registry
import GoAssets.Proofs.Scan.Resolution

/-!
# Drafts and what was asked of them

A draft keeps one bundle for each directory, the first asset of each name and the latest group of
each name. A `Ledger` keeps everything instead: every request for a directory, every reference to an
asset that was to be added, every group that was recorded and every one that was declared, in order
and also where the draft already had something of that name. Nothing in a ledger is ever replaced.

`Draft.Follows` says that a draft shows of a ledger exactly the first bundles, the first assets and
the latest groups. Every step keeps it (`Follows.apply`, from one lemma for each operation), and so
does every run (`follows_run`).
-/

namespace GoAssets

/-- A request for the bundle of a directory, by a file of a package. -/
structure Request where
  dir : Path
  caller : Path
  package : String

/-- What a directory is known by, in whatever spelling it is asked for. -/
def Request.key (q : Request) : List Path.Component := q.dir.components

/-! ## Ledgers -/

/-- Everything that was asked of a draft. -/
structure Ledger where
  requests : List Request := []
  /-- The assets that were to be added, each with the directory. -/
  references : List (Path × Asset) := []
  /-- The groups that were recorded, each with the directory. -/
  recorded : List (Path × Group) := []
  /-- The groups that became those of their names. -/
  declared : List Group := []

namespace Ledger

def entriesIn {α : Type} (dir : Path) (entries : List (Path × α)) : List α :=
  (entries.filter (·.1.components == dir.components)).map (·.2)

def bundleOf (l : Ledger) (q : Request) : Bundle where
  caller := q.caller
  packageName := q.package
  baseDir := q.dir
  assets := firstBy Asset.name (entriesIn q.dir l.references)
  groups := entriesIn q.dir l.recorded

/-- The requests that opened a bundle: the first one for each directory. -/
def opening (l : Ledger) : List Request := firstBy Request.key l.requests

/-- The spelling that a directory is kept by, which is that of the first request for it. -/
def spelling (l : Ledger) (dir : Path) : Path :=
  ((l.requests.find? (·.key == dir.components)).map (·.dir)).getD dir

def ask (l : Ledger) (q : Request) : Ledger := { l with requests := l.requests ++ [q] }

/-- Note a reference from a directory, if there is one. -/
def refer (l : Ledger) (dir : Path) (reference : Option Asset) : Ledger :=
  { l with references := l.references ++ (reference.map (dir, ·)).toList }

def record (l : Ledger) (dir : Path) (group : Option Group) : Ledger :=
  { l with recorded := l.recorded ++ (group.map (dir, ·)).toList }

def declare (l : Ledger) (group : Option Group) : Ledger :=
  { l with declared := l.declared ++ group.toList }

end Ledger

/-! ## Steps -/

namespace Draft

/-- One operation on a draft. -/
inductive Step where
  | enter (request : Request)
  | addAsset (request : Request) (asset : Asset)
  | addGroup (request : Request) (group : Group)
  | register (group : Group)
  /-- Resolve a statement of the calling file as a scanner does. -/
  | resolve (sc : Scanner) (request : Request) (stmt : Statement)

namespace Step

def request? : Step → Option Request
  | enter q | addAsset q _ | addGroup q _ | resolve _ q _ => some q
  | register _ => none

def apply (d : Draft) : Step → Draft
  | enter q => (d.enter q.dir q.caller q.package).1
  | addAsset q asset => (d.addAsset q.dir q.caller q.package asset).1
  | addGroup q group => (d.addGroup q.dir q.caller q.package group).1
  | register group => (d.register group).1
  | resolve sc q stmt => (d.resolve sc.ns sc.locate q.dir q.caller q.package stmt).1

/-- What a step asks for. A statement refers to the latest group of a name, and a group that it
declares is located from the spelling that its directory is kept by. -/
def note (l : Ledger) : Step → Ledger
  | enter q => l.ask q
  | addAsset q asset => (l.ask q).refer q.dir (some asset)
  | addGroup q group => (l.ask q).record q.dir (some group)
  | register group => l.declare (some group)
  | resolve sc q stmt =>
    let group := sc.declared? ((l.ask q).spelling q.dir) stmt
    (((l.ask q).refer q.dir (sc.referenceTo? (latest? · l.declared) stmt)).record q.dir
      group).declare group

end Step

def run (steps : List Step) : Draft := steps.foldl Step.apply {}

end Draft

def Ledger.ofSteps (steps : List Draft.Step) : Ledger := steps.foldl Draft.Step.note {}

/-! ## One more entry -/

namespace Ledger

variable {l : Ledger} {q p : Request} {dir : Path}

theorem entriesIn_congr {α : Type} {dir' : Path} (h : dir.components = dir'.components)
    (entries : List (Path × α)) : entriesIn dir entries = entriesIn dir' entries := by
  rw [entriesIn, h, entriesIn]

theorem entriesIn_append {α : Type} (entries : List (Path × α)) (dir' : Path)
    (entry : Option α) :
    entriesIn dir (entries ++ (entry.map (dir', ·)).toList)
      = entriesIn dir entries ++ if dir.components = dir'.components then entry.toList else [] := by
  rw [entriesIn, List.filter_append, List.map_append, ← entriesIn]
  cases entry with
  | none => simp
  | some a =>
      by_cases h : dir.components = dir'.components
      · simp [h]
      · simp [h, Ne.symm h]

theorem bundleOf_refer (l : Ledger) (dir : Path) (reference : Option Asset) (p : Request) :
    (l.refer dir reference).bundleOf p
      = if p.key = dir.components then Scanner.recordIn (l.bundleOf p) reference
        else l.bundleOf p := by
  by_cases h : p.key = dir.components
  · have hdir : p.dir.components = dir.components := h
    rw [if_pos h]
    simp only [bundleOf, refer, entriesIn_append, if_pos hdir]
    cases reference with
    | none => simp [Scanner.recordIn]
    | some a => simp [Scanner.recordIn, Bundle.addAsset_fst, firstBy_concat]
  · have hdir : p.dir.components ≠ dir.components := h
    rw [if_neg h]
    simp only [bundleOf, refer, entriesIn_append, if_neg hdir, List.append_nil]

theorem bundleOf_record (l : Ledger) (dir : Path) (group : Option Group) (p : Request) :
    (l.record dir group).bundleOf p
      = if p.key = dir.components then Scanner.declareIn (l.bundleOf p) group
        else l.bundleOf p := by
  by_cases h : p.key = dir.components
  · have hdir : p.dir.components = dir.components := h
    rw [if_pos h]
    simp only [bundleOf, record, entriesIn_append, if_pos hdir]
    cases group with
    | none => simp [Scanner.declareIn]
    | some g => simp [Scanner.declareIn, Bundle.addGroup]
  · have hdir : p.dir.components ≠ dir.components := h
    rw [if_neg h]
    simp only [bundleOf, record, entriesIn_append, if_neg hdir, List.append_nil]

/-- The request that opened a bundle gave it its spelling. -/
theorem spelling_eq (hp : p ∈ l.opening) (hkey : p.key = dir.components) :
    l.spelling dir = p.dir := by
  rw [spelling, ← hkey, find?_of_mem_firstBy Request.key hp]
  rfl

theorem hasAsset_bundleOf (name : String) :
    (l.bundleOf p).hasAsset name = true
      ↔ ∃ a ∈ entriesIn p.dir l.references, a.name = name := by
  rw [← exists_mem_firstBy_iff Asset.name, Bundle.hasAsset, List.any_eq_true]
  simp only [beq_iff_eq]
  rfl

/-- A directory appears in a ledger only after it was asked for. -/
structure Closed (l : Ledger) : Prop where
  references : ∀ entry ∈ l.references, ∃ q ∈ l.requests, q.key = entry.1.components
  recorded : ∀ entry ∈ l.recorded, ∃ q ∈ l.requests, q.key = entry.1.components

theorem Closed.ask (h : l.Closed) (q : Request) : (l.ask q).Closed := by
  constructor
  · intro entry hentry
    obtain ⟨p, hp, hkey⟩ := h.references entry hentry
    exact ⟨p, List.mem_append_left _ hp, hkey⟩
  · intro entry hentry
    obtain ⟨p, hp, hkey⟩ := h.recorded entry hentry
    exact ⟨p, List.mem_append_left _ hp, hkey⟩

theorem Closed.refer (h : l.Closed) (hq : q ∈ l.requests) (reference : Option Asset) :
    (l.refer q.dir reference).Closed := by
  refine ⟨?_, h.recorded⟩
  intro entry hentry
  rcases List.mem_append.mp hentry with hold | hnew
  · exact h.references entry hold
  · obtain ⟨a, -, rfl⟩ := Option.map_eq_some_iff.mp (Option.mem_toList.mp hnew)
    exact ⟨q, hq, rfl⟩

theorem Closed.record (h : l.Closed) (hq : q ∈ l.requests) (group : Option Group) :
    (l.record q.dir group).Closed := by
  refine ⟨h.references, ?_⟩
  intro entry hentry
  rcases List.mem_append.mp hentry with hold | hnew
  · exact h.recorded entry hold
  · obtain ⟨g, -, rfl⟩ := Option.map_eq_some_iff.mp (Option.mem_toList.mp hnew)
    exact ⟨q, hq, rfl⟩

theorem entriesIn_eq_nil {α : Type} {entries : List (Path × α)}
    (h : ∀ entry ∈ entries, entry.1.components ≠ dir.components) : entriesIn dir entries = [] := by
  rw [entriesIn, List.filter_eq_nil_iff.mpr, List.map_nil]
  intro entry hentry
  simpa using h entry hentry

/-- A request opens the bundle of its directory, which is empty if the directory is new. -/
theorem Closed.opened_bundles (h : l.Closed) (q : Request) :
    Registry.opened (l.opening.map l.bundleOf) q.dir q.caller q.package
      = (l.ask q).opening.map l.bundleOf := by
  by_cases hmet : ∃ p ∈ l.requests, p.key = q.key
  · obtain ⟨p, hp, hkey⟩ := (exists_mem_firstBy_iff Request.key l.requests q.key).mpr hmet
    have hopening : (l.ask q).opening = l.opening := firstBy_concat_of_mem Request.key hmet
    rw [hopening, Registry.opened, if_pos]
    exact List.any_eq_true.mpr
      ⟨l.bundleOf p, List.mem_map_of_mem hp, beq_iff_eq.mpr hkey⟩
  · have hnew : ∀ p ∈ l.requests, p.key ≠ q.key := fun p hp hkey => hmet ⟨p, hp, hkey⟩
    have hopening : (l.ask q).opening = l.opening ++ [q] := firstBy_concat_of_new Request.key hnew
    -- Nothing was entered for a directory before it was asked for.
    have hempty : l.bundleOf q = Bundle.empty q.dir q.caller q.package := by
      have hreferences : entriesIn q.dir l.references = [] := by
        refine entriesIn_eq_nil fun entry hentry hdir => ?_
        obtain ⟨p, hp, hkey⟩ := h.references entry hentry
        exact hnew p hp (hkey.trans hdir)
      have hrecorded : entriesIn q.dir l.recorded = [] := by
        refine entriesIn_eq_nil fun entry hentry hdir => ?_
        obtain ⟨p, hp, hkey⟩ := h.recorded entry hentry
        exact hnew p hp (hkey.trans hdir)
      rw [bundleOf, hreferences, hrecorded]
      rfl
    rw [hopening, List.map_append, List.map_singleton, hempty, Registry.opened, if_neg]
    intro hany
    obtain ⟨b, hb, hdir⟩ := List.any_eq_true.mp hany
    obtain ⟨p, hp, rfl⟩ := List.mem_map.mp hb
    obtain ⟨p', hp', hkey⟩ := (exists_mem_firstBy_iff Request.key l.requests q.key).mp
      ⟨p, hp, eq_of_beq hdir⟩
    exact hnew p' hp' hkey

end Ledger

/-! ## Drafts follow their ledgers -/

namespace Draft

/-- A draft shows the first bundle of each directory and the latest group of each name. -/
structure Follows (d : Draft) (l : Ledger) : Prop where
  indexed : d.registry.Indexed
  bundles_eq : d.registry.bundles.toList = l.opening.map l.bundleOf
  table : ∀ name, d.groups.get? name = latest? name l.declared
  closed : l.Closed

variable {d : Draft} {l : Ledger}

/-- Changing the bundle of a directory, where `l'` says what becomes of the bundles. -/
theorem Follows.edit (h : d.Follows l) {α : Type} (change : Bundle → Bundle × α)
    (hchange : ∀ b, (change b).1.baseDir = b.baseDir) (q : Request) (l' : Ledger)
    (hrequests : l'.requests = (l.ask q).requests)
    (hbundle : ∀ p ∈ (l.ask q).opening, l'.bundleOf p
      = if p.key = q.dir.components then (change (l.bundleOf p)).1 else l.bundleOf p) :
    ∃ r p, d.registry.edit q.dir q.caller q.package change = (r, (change (l.bundleOf p)).2)
      ∧ p ∈ (l.ask q).opening ∧ p.key = q.key ∧ r.Indexed
      ∧ r.bundles.toList = l'.opening.map l'.bundleOf := by
  obtain ⟨r, b, hedit, hindexed, hb, hdir, hlist⟩ :=
    Registry.edit_eq h.indexed hchange q.dir q.caller q.package
  rw [h.bundles_eq, h.closed.opened_bundles] at hb hlist
  obtain ⟨p, hp, rfl⟩ := List.mem_map.mp hb
  refine ⟨r, p, hedit, hp, hdir, hindexed, ?_⟩
  have hopening : l'.opening = (l.ask q).opening := congrArg (firstBy Request.key) hrequests
  rw [hlist, List.map_map, hopening]
  refine List.map_congr_left fun p' hp' => ?_
  rw [hbundle p' hp']
  rfl

theorem Follows.enter (h : d.Follows l) (q : Request) :
    (d.enter q.dir q.caller q.package).1.Follows (l.ask q) := by
  obtain ⟨r, p, hedit, -, -, hindexed, hlist⟩ :=
    h.edit (fun b => (b, b)) (fun _ => rfl) q (l.ask q) rfl fun p _ => (ite_self _).symm
  rw [Draft.enter, hedit]
  exact ⟨hindexed, hlist, h.table, h.closed.ask q⟩

/-- Adding an asset is a reference, and says whether its name was free. -/
theorem Follows.addAsset (h : d.Follows l) (q : Request) (a : Asset) :
    ∃ p, p.key = q.key
      ∧ (d.addAsset q.dir q.caller q.package a).2 = !(l.bundleOf p).hasAsset a.name
      ∧ (d.addAsset q.dir q.caller q.package a).1.Follows ((l.ask q).refer q.dir (some a)) := by
  obtain ⟨r, p, hedit, -, hkey, hindexed, hlist⟩ :=
    h.edit (·.addAsset a) (fun b => by rw [Bundle.addAsset_fst]) q
      ((l.ask q).refer q.dir (some a)) rfl fun p _ => (l.ask q).bundleOf_refer q.dir (some a) p
  refine ⟨p, hkey, ?_, ?_⟩
  · rw [Draft.addAsset, hedit]
    exact Bundle.addAsset_snd ..
  · rw [Draft.addAsset, hedit]
    exact ⟨hindexed, hlist, h.table,
      (h.closed.ask q).refer (List.mem_append_right _ (List.mem_singleton_self q)) _⟩

theorem Follows.addGroup (h : d.Follows l) (q : Request) (g : Group) :
    (d.addGroup q.dir q.caller q.package g).1.Follows ((l.ask q).record q.dir (some g)) := by
  obtain ⟨r, p, hedit, -, -, hindexed, hlist⟩ :=
    h.edit (fun b => (b.addGroup g, b.addGroup g)) (fun _ => rfl) q
      ((l.ask q).record q.dir (some g)) rfl fun p _ => (l.ask q).bundleOf_record q.dir (some g) p
  rw [Draft.addGroup, hedit]
  exact ⟨hindexed, hlist, h.table,
    (h.closed.ask q).record (List.mem_append_right _ (List.mem_singleton_self q)) _⟩

theorem Follows.register (h : d.Follows l) (g : Group) :
    (d.register g).1.Follows (l.declare (some g)) := by
  refine ⟨h.indexed, h.bundles_eq, ?_, h.closed.references, h.closed.recorded⟩
  intro name
  rw [Ledger.declare, Option.toList_some, latest?_concat, ← h.table]
  exact GroupTable.get?_register d.groups g name

/-- What resolving a statement does to the bundle of its directory, and what comes of it. -/
def resolveIn (sc : Scanner) (file : Path) (stmt : Statement) (groups : GroupTable) (b : Bundle) :
    Bundle × Resolved :=
  let r := GoAssets.resolve sc.ns sc.locate file stmt b groups
  (r.bundle, r)

section ResolveIn

variable {sc : Scanner} {file : Path} {stmt : Statement} {groups : GroupTable}

theorem resolveIn_fst (b : Bundle) : (resolveIn sc file stmt groups b).1
    = Scanner.declareIn (Scanner.recordIn b (sc.referenceTo? groups.get? stmt))
        (sc.declared? b.baseDir stmt) :=
  resolve_bundle file

theorem resolveIn_baseDir (b : Bundle) :
    (resolveIn sc file stmt groups b).1.baseDir = b.baseDir := by
  rw [resolveIn_fst, Scanner.baseDir_declareIn, Scanner.baseDir_recordIn]

theorem Follows.bundleOf_note (h : d.Follows l) {q p : Request} (hp : p ∈ (l.ask q).opening) :
    ((Step.resolve sc q stmt).note l).bundleOf p
      = if p.key = q.dir.components then (resolveIn sc file stmt d.groups (l.bundleOf p)).1
        else l.bundleOf p := by
  have hlookup : d.groups.get? = (latest? · l.declared) := funext h.table
  have hnote : ((Step.resolve sc q stmt).note l).bundleOf p
      = (((l.ask q).refer q.dir (sc.referenceTo? (latest? · l.declared) stmt)).record q.dir
          (sc.declared? ((l.ask q).spelling q.dir) stmt)).bundleOf p := rfl
  rw [hnote, Ledger.bundleOf_record, Ledger.bundleOf_refer, resolveIn_fst, hlookup]
  split
  · rename_i hkey
    rw [Ledger.spelling_eq hp hkey]
    rfl
  · rfl

end ResolveIn

/-- Resolving a statement notes what it refers to and what it declares, and nothing if it fails. It
is resolved against the bundle of its directory. -/
theorem Follows.resolve (h : d.Follows l) (sc : Scanner) (q : Request) (stmt : Statement) :
    ∃ p, p.key = q.key
      ∧ (d.resolve sc.ns sc.locate q.dir q.caller q.package stmt).2
        = GoAssets.resolve sc.ns sc.locate q.caller stmt (l.bundleOf p) d.groups
      ∧ (d.resolve sc.ns sc.locate q.dir q.caller q.package stmt).1.Follows
          ((Step.resolve sc q stmt).note l) := by
  obtain ⟨r, p, hedit, hp, hkey, hindexed, hlist⟩ :=
    h.edit (resolveIn sc q.caller stmt d.groups) resolveIn_baseDir q
      ((Step.resolve sc q stmt).note l) rfl fun p hp => h.bundleOf_note hp
  have hclosed : ((Step.resolve sc q stmt).note l).Closed := by
    have hq : q ∈ (l.ask q).requests := List.mem_append_right _ (List.mem_singleton_self q)
    have hrecord := ((h.closed.ask q).refer hq (sc.referenceTo? (latest? · l.declared) stmt)).record
      hq (sc.declared? ((l.ask q).spelling q.dir) stmt)
    exact ⟨hrecord.references, hrecord.recorded⟩
  have hdeclared : ((Step.resolve sc q stmt).note l).declared
      = l.declared ++ (sc.declared? (l.bundleOf p).baseDir stmt).toList := by
    have hdir : (l.bundleOf p).baseDir = (l.ask q).spelling q.dir :=
      (Ledger.spelling_eq hp hkey).symm
    rw [hdir]
    rfl
  have heq : d.resolve sc.ns sc.locate q.dir q.caller q.package stmt
      = ({ registry := r, groups := (resolveIn sc q.caller stmt d.groups (l.bundleOf p)).2.groups },
         (resolveIn sc q.caller stmt d.groups (l.bundleOf p)).2) :=
    congrArg (fun result : Registry × Resolved =>
      (Draft.mk result.1 result.2.groups, result.2)) hedit
  rw [heq]
  refine ⟨p, hkey, rfl, hindexed, hlist, ?_, hclosed⟩
  rw [hdeclared]
  exact get?_resolve_groups q.caller h.table

theorem Follows.apply (h : d.Follows l) (step : Step) : (step.apply d).Follows (step.note l) := by
  cases step with
  | enter q => exact h.enter q
  | addAsset q a =>
      obtain ⟨-, -, -, hfollows⟩ := h.addAsset q a
      exact hfollows
  | addGroup q g => exact h.addGroup q g
  | register g => exact h.register g
  | resolve sc q stmt =>
      obtain ⟨-, -, -, hfollows⟩ := h.resolve sc q stmt
      exact hfollows

/-- A draft follows the ledger of the steps that led to it. -/
theorem follows_run (steps : List Step) : (run steps).Follows (Ledger.ofSteps steps) := by
  induction steps using List.reverseRecOn with
  | nil =>
      exact ⟨Registry.indexed_empty, rfl,
        fun name => by simp [run, GroupTable.empty, GroupTable.get?, Ledger.ofSteps, latest?],
        by simp [Ledger.ofSteps], by simp [Ledger.ofSteps]⟩
  | append_singleton steps step ih =>
      rw [run, Ledger.ofSteps, List.foldl_concat, List.foldl_concat]
      exact ih.apply step

end Draft

end GoAssets
