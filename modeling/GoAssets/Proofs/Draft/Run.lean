import GoAssets.Proofs.Draft.Ledger

/-!
# What a draft holds after any run

Two consequences of following a ledger, for every sequence of steps in any order, failed ones
included. One is about directories: which bundles there are, in which order, and that the index
finds them. The other is about names: what a bundle holds of all that was to be added to it, and
what an addition reports.
-/

namespace GoAssets.Draft

/-! ## Directories -/

theorem request?_note (l : Ledger) (step : Step) :
    (step.note l).requests = l.requests ++ step.request?.toList := by
  cases step with
  | register g => exact (List.append_nil _).symm
  | enter q => rfl
  | addAsset q a => rfl
  | addGroup q g => rfl
  | resolve sc q stmt => rfl

theorem requests_ofSteps (steps : List Step) :
    (Ledger.ofSteps steps).requests = steps.filterMap Step.request? := by
  induction steps using List.reverseRecOn with
  | nil => rfl
  | append_singleton steps step ih =>
      rw [Ledger.ofSteps, List.foldl_concat, request?_note, ← Ledger.ofSteps, ih,
        List.filterMap_append]
      cases h : step.request? <;> simp [h]

/-- A draft has a bundle for a directory exactly if the directory was asked for. -/
theorem exists_bundle_iff (steps : List Step) (key : List Path.Component) :
    (∃ b ∈ (run steps).registry.bundles.toList, b.baseDir.components = key)
      ↔ ∃ q ∈ steps.filterMap Step.request?, q.key = key := by
  rw [(follows_run steps).bundles_eq, ← requests_ofSteps,
    ← exists_mem_firstBy_iff Request.key]
  constructor
  · rintro ⟨b, hb, hkey⟩
    obtain ⟨q, hq, rfl⟩ := List.mem_map.mp hb
    exact ⟨q, hq, hkey⟩
  · rintro ⟨q, hq, hkey⟩
    exact ⟨_, List.mem_map_of_mem hq, hkey⟩

/-- The bundles after any run. Every entry of the index is the position of a bundle of the directory
that it stands for, and so is the position at which a directory is entered next, so no look-up goes
wrong. There is one bundle for each directory that was asked for, in whatever spelling, in the order
of the first requests and with their spelling, caller and package. Looking a directory up finds what
a search through all bundles finds, and nothing exactly if the directory was never asked for. -/
theorem registry_run (steps : List Step) :
    (∀ key (i : Nat), (run steps).registry.index[key]? = some i →
      ∃ b, (run steps).registry.bundles[i]? = some b ∧ b.baseDir.components = key)
    ∧ (∀ q : Request, ∃ r i b, (run steps).registry.enter q.dir q.caller q.package = (r, i)
      ∧ r.bundles[i]? = some b ∧ b.baseDir.components = q.dir.components)
    ∧ (run steps).registry.inventory.bundles.map (fun b => (b.baseDir, b.caller, b.packageName))
      = (firstBy (·.dir.components) (steps.filterMap Step.request?)).map
          (fun q => (q.dir, q.caller, q.package))
    ∧ ((run steps).registry.inventory.bundles.map (·.baseDir.components)).Nodup
    ∧ ∀ dir, (run steps).registry.get? dir = (run steps).registry.inventory.bundleFor? dir
      ∧ ((run steps).registry.get? dir = none
        ↔ ∀ q ∈ steps.filterMap Step.request?, q.dir.components ≠ dir.components) := by
  have h := follows_run steps
  refine ⟨?_, ?_, ?_, h.indexed.distinct, ?_⟩
  · intro key i hi
    rw [h.indexed.index_eq] at hi
    simpa only [Array.getElem?_toList] using Registry.exists_of_position?_eq_some hi
  · intro q
    obtain ⟨r, i, b, henter, -, -, hi, hdir⟩ :=
      Registry.enter_eq h.indexed q.dir q.caller q.package
    exact ⟨r, i, b, henter, by rwa [← Array.getElem?_toList], hdir⟩
  · rw [Registry.inventory, h.bundles_eq, List.map_map, Ledger.opening, requests_ofSteps]
    rfl
  · intro dir
    have hget := Registry.get?_eq_bundleFor? h.indexed dir
    refine ⟨hget, ?_⟩
    rw [hget, Inventory.bundleFor?, List.find?_eq_none]
    constructor
    · intro hnone q hq hdir
      obtain ⟨b, hb, hkey⟩ := (exists_bundle_iff steps dir.components).mpr ⟨q, hq, hdir⟩
      exact hnone b hb (beq_iff_eq.mpr hkey)
    · intro hnone b hb hkey
      obtain ⟨q, hq, hdir⟩ := (exists_bundle_iff steps dir.components).mp ⟨b, hb, eq_of_beq hkey⟩
      exact hnone q hq hdir

/-! ## Names -/

/-- The references that steps were to add in a directory, those of taken names included. -/
def attempts (steps : List Step) (dir : Path) : List Asset :=
  Ledger.entriesIn dir (Ledger.ofSteps steps).references

/-- Whether a step adds an asset in one of the two forms that a reference has. -/
def Step.AddsReference : Step → Prop
  | addAsset _ a => (∃ path, a = .direct path) ∨ ∃ path group, a = .inGroup path group
  | _ => True

def referenceAfter? (steps : List Step) (sc : Scanner) (stmt : Statement) : Option Asset :=
  sc.referenceTo? (latest? · (Ledger.ofSteps steps).declared) stmt

variable {steps : List Step}

theorem attempts_concat_other {dir : Path} {step : Step}
    (h : ∀ q, step.request? = some q → q.dir.components ≠ dir.components) :
    attempts (steps ++ [step]) dir = attempts steps dir := by
  have hother : ∀ (entries : List (Path × Asset)) (q : Request), step.request? = some q →
      ∀ reference : Option Asset,
        Ledger.entriesIn dir (entries ++ (reference.map (q.dir, ·)).toList)
          = Ledger.entriesIn dir entries := by
    intro entries q hq reference
    rw [Ledger.entriesIn_append, if_neg (h q hq).symm, List.append_nil]
  rw [attempts, attempts, Ledger.ofSteps, List.foldl_concat, ← Ledger.ofSteps]
  cases step with
  | enter q => rfl
  | addGroup q g => rfl
  | register g => rfl
  | addAsset q a => exact hother _ q rfl (some a)
  | resolve sc q stmt => exact hother _ q rfl _

theorem name_eq_assetPath (h : ∀ step ∈ steps, step.AddsReference) :
    ∀ entry ∈ (Ledger.ofSteps steps).references, entry.2.name = entry.2.assetPath := by
  induction steps using List.reverseRecOn with
  | nil => simp [Ledger.ofSteps]
  | append_singleton steps step ih =>
      have hold := ih fun s hs => h s (List.mem_append_left _ hs)
      rw [Ledger.ofSteps, List.foldl_concat, ← Ledger.ofSteps]
      cases step with
      | enter q => exact hold
      | addGroup q g => exact hold
      | register g => exact hold
      | addAsset q a =>
          intro entry hentry
          rcases List.mem_append.mp hentry with hentry | hentry
          · exact hold entry hentry
          · obtain rfl := List.mem_singleton.mp hentry
            rcases h (.addAsset q a) (by simp) with ⟨path, rfl⟩ | ⟨path, group, rfl⟩ <;> rfl
      | resolve sc q stmt =>
          intro entry hentry
          rcases List.mem_append.mp hentry with hentry | hentry
          · exact hold entry hentry
          · obtain ⟨a, ha, rfl⟩ := Option.map_eq_some_iff.mp (Option.mem_toList.mp hentry)
            exact Scanner.name_of_referenceTo? ha

/-- The assets after any run. In every bundle they are, in order, the first of the references to
each name that steps were to add there, so no two have the same name, a name is there exactly if it
was attempted, and if only references are added by hand, the path of each is its name. An addition
reports success exactly if its name was not attempted in its directory before, and a statement that
refers to an asset reports that it was added or that its name is taken accordingly. Steps for
another directory make no difference. -/
theorem assets_run (steps : List Step) :
    (∀ b ∈ (run steps).registry.inventory.bundles, ∀ dir, b.baseDir.components = dir.components →
      b.assets = firstBy Asset.name (attempts steps dir)
      ∧ (b.assets.map (·.name)).Nodup
      ∧ (∀ name, b.hasAsset name = true ↔ ∃ a ∈ attempts steps dir, a.name = name)
      ∧ ((∀ step ∈ steps, step.AddsReference) → ∀ a ∈ b.assets, a.name = a.assetPath))
    ∧ (∀ dir, attempts steps dir ≠ [] →
      ∃ b ∈ (run steps).registry.inventory.bundles, b.baseDir.components = dir.components)
    ∧ (∀ (q : Request) (a : Asset), ((run steps).addAsset q.dir q.caller q.package a).2 = true
      ↔ ∀ a' ∈ attempts steps q.dir, a'.name ≠ a.name)
    ∧ (∀ (sc : Scanner) (q : Request) (stmt : Statement),
      (∀ a, ((run steps).resolve sc.ns sc.locate q.dir q.caller q.package stmt).2.outcome
            = .ok (.assetAdded a)
          ↔ referenceAfter? steps sc stmt = some a
            ∧ ∀ a' ∈ attempts steps q.dir, a'.name ≠ a.name)
      ∧ ∀ name, ((run steps).resolve sc.ns sc.locate q.dir q.caller q.package stmt).2.outcome
            = .ok (.duplicateAsset name)
          ↔ ∃ a, referenceAfter? steps sc stmt = some a ∧ a.name = name
            ∧ ∃ a' ∈ attempts steps q.dir, a'.name = name)
    ∧ ∀ (dir : Path) (step : Step),
      (∀ q, step.request? = some q → q.dir.components ≠ dir.components) →
        attempts (steps ++ [step]) dir = attempts steps dir := by
  have h := follows_run steps
  have hlookup : (run steps).groups.get? = (latest? · (Ledger.ofSteps steps).declared) :=
    funext h.table
  have hattempts : ∀ {p q : Request}, p.key = q.key →
      Ledger.entriesIn p.dir (Ledger.ofSteps steps).references = attempts steps q.dir :=
    fun hkey => Ledger.entriesIn_congr hkey _
  refine ⟨?_, ?_, ?_, ?_, fun dir step => attempts_concat_other⟩
  · intro b hb dir hdir
    rw [Registry.inventory, h.bundles_eq] at hb
    obtain ⟨p, hp, rfl⟩ := List.mem_map.mp hb
    have hsame : Ledger.entriesIn p.dir (Ledger.ofSteps steps).references = attempts steps dir :=
      Ledger.entriesIn_congr hdir _
    refine ⟨?_, nodup_map_firstBy Asset.name _, ?_, ?_⟩
    · rw [← hsame]
      rfl
    · intro name
      rw [Ledger.hasAsset_bundleOf, hsame]
    · intro hsteps a ha
      obtain ⟨entry, hentry, rfl⟩ := List.mem_map.mp
        (List.mem_of_find?_eq_some (find?_of_mem_firstBy Asset.name ha))
      exact name_eq_assetPath hsteps entry (List.mem_of_mem_filter hentry)
  · intro dir hne
    obtain ⟨a, ha⟩ := List.exists_mem_of_ne_nil _ hne
    obtain ⟨entry, hentry, -⟩ := List.mem_map.mp ha
    obtain ⟨hmem, hdir⟩ := List.mem_filter.mp hentry
    obtain ⟨q, hq, hkey⟩ := h.closed.references entry hmem
    exact (exists_bundle_iff steps dir.components).mpr
      ⟨q, requests_ofSteps steps ▸ hq, hkey.trans (eq_of_beq hdir)⟩
  · intro q a
    obtain ⟨p, hkey, hadded, -⟩ := h.addAsset q a
    rw [hadded, Bool.not_eq_true', ← Bool.not_eq_true, Ledger.hasAsset_bundleOf, hattempts hkey]
    simp
  · intro sc q stmt
    obtain ⟨p, hkey, houtcome, -⟩ := h.resolve sc q stmt
    rw [houtcome]
    constructor
    · intro a
      rw [resolve_assetAdded_iff, ← Bool.not_eq_true, Ledger.hasAsset_bundleOf, hattempts hkey,
        hlookup]
      simp [referenceAfter?]
    · intro name
      rw [resolve_duplicateAsset_iff, hlookup]
      simp only [Ledger.hasAsset_bundleOf, hattempts hkey]
      rfl

end GoAssets.Draft
