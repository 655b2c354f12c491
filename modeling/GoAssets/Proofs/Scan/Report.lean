import GoAssets.Proofs.Scan.Resolution

/-!
# A report says what was done

A statement is reported as one of six things: two errors, a declared group, an added asset, a
duplicate, or nothing of interest. `FileState.resolve_reports` says for every statement and every
state of a scan that the report is right in both directions:

- what it tells about the bundle and the table of groups is all that was done to them (`Tells`), so
  after an error nothing was;
- each report is made exactly in its own case.

Both parts go through `Scanner.Reports`, which has one rule for each report. The rules cover every
statement (`exists_reports`), and each of them says what `resolve` does (`Reports.tells`), so a report
is made exactly if its rule applies (`report_eq_iff`).
-/

namespace GoAssets

/-- What a report tells about a bundle and a table of groups, before and after. -/
def Tells (b b' : Bundle) (groups groups' : GroupTable) : Except ScanError Resolution → Prop
  | .error _ => b' = b ∧ groups' = groups
  | .ok .ignored => b' = b ∧ groups' = groups
  | .ok (.duplicateAsset _) => b' = b ∧ groups' = groups
  | .ok (.assetAdded a) =>
    a.name ∉ b.assets.map (·.name) ∧ b' = { b with assets := b.assets ++ [a] } ∧ groups' = groups
  | .ok (.groupDeclared g) =>
    b' = { b with groups := b.groups ++ [g] } ∧ groups'.get? g.name = some g
      ∧ ∀ name, name ≠ g.name → groups'.get? name = groups.get? name

/-! ## Recording an asset -/

theorem Bundle.hasAsset_iff {b : Bundle} {name : String} :
    b.hasAsset name = true ↔ name ∈ b.assets.map (·.name) := by
  simp [hasAsset]

theorem recordAsset_of_new {a : Asset} {b : Bundle} (h : a.name ∉ b.assets.map (·.name))
    (groups : GroupTable) : recordAsset a b groups
      = { outcome := .ok (.assetAdded a), bundle := { b with assets := b.assets ++ [a] }
          groups } := by
  rw [recordAsset, Bundle.addAsset, if_neg (mt Bundle.hasAsset_iff.mp h)]

theorem recordAsset_of_taken {a : Asset} {b : Bundle} (h : a.name ∈ b.assets.map (·.name))
    (groups : GroupTable) : recordAsset a b groups
      = { outcome := .ok (.duplicateAsset a.name), bundle := b, groups } := by
  rw [recordAsset, Bundle.addAsset, if_pos (Bundle.hasAsset_iff.mpr h)]

/-! ## One rule for each report -/

namespace Scanner

inductive Reports (sc : Scanner) (file : Path) (stmt : Statement) (b : Bundle)
    (groups : GroupTable) : Except ScanError Resolution → Prop where
  | unknownMethod (hns : stmt.call.receiver = sc.ns) (hmethod : stmt.call.method ∉ knownMethods) :
      Reports sc file stmt b groups (.error (.unknownMethod sc.ns stmt.call.method file))
  | groupPath {cause : IoFailure} (hns : stmt.call.receiver = sc.ns)
      (hgroup : stmt.call.method = "Group")
      (hlocate : sc.locate b.baseDir stmt.call.path = .error cause) :
      Reports sc file stmt b groups (.error (.groupPath file stmt.call.path cause))
  | groupDeclared {dir : Path} (hns : stmt.call.receiver = sc.ns)
      (hgroup : stmt.call.method = "Group")
      (hlocate : sc.locate b.baseDir stmt.call.path = .ok dir) :
      Reports sc file stmt b groups (.ok (.groupDeclared ⟨stmt.target, stmt.call.path, dir⟩))
  | assetAdded {a : Asset} (href : sc.referenceTo? groups.get? stmt = some a)
      (hnew : a.name ∉ b.assets.map (·.name)) : Reports sc file stmt b groups (.ok (.assetAdded a))
  | duplicateAsset {a : Asset} (href : sc.referenceTo? groups.get? stmt = some a)
      (htaken : a.name ∈ b.assets.map (·.name)) :
      Reports sc file stmt b groups (.ok (.duplicateAsset a.name))
  | ignored (hns : stmt.call.receiver ≠ sc.ns) (hnone : groups.get? stmt.call.receiver = none) :
      Reports sc file stmt b groups (.ok .ignored)

variable {sc : Scanner} {stmt : Statement}

/-- A reference is to an asset by itself, through the namespace, or to one in the group that has the
name of the receiver. A group that has the name of the namespace is never asked. -/
theorem referenceTo?_eq_some_iff {lookup : String → Option Group} {a : Asset} :
    sc.referenceTo? lookup stmt = some a ↔
      (stmt.call.receiver = sc.ns ∧ stmt.call.method ∈ itemMethods ∧ a = .direct stmt.call.path)
      ∨ (stmt.call.receiver ≠ sc.ns
        ∧ ∃ g, lookup stmt.call.receiver = some g ∧ a = .inGroup stmt.call.path g) := by
  rw [referenceTo?]
  by_cases hns : stmt.call.receiver = sc.ns
  · by_cases hitem : stmt.call.method ∈ itemMethods <;> simp [hns, hitem, eq_comm]
  · simp only [hns, if_false, Option.map_eq_some_iff, false_and, false_or, ne_eq,
      not_false_eq_true, true_and, @eq_comm _ a]

theorem name_eq_path_of_referenceTo? {lookup : String → Option Group} {a : Asset}
    (h : sc.referenceTo? lookup stmt = some a) : a.name = stmt.call.path := by
  rcases referenceTo?_eq_some_iff.mp h with ⟨-, -, rfl⟩ | ⟨-, g, -, rfl⟩ <;> rfl

theorem exists_reports (sc : Scanner) (file : Path) (stmt : Statement) (b : Bundle)
    (groups : GroupTable) : ∃ report, sc.Reports file stmt b groups report := by
  have hrecord : ∀ {a : Asset}, sc.referenceTo? groups.get? stmt = some a →
      ∃ report, sc.Reports file stmt b groups report := by
    intro a href
    by_cases htaken : a.name ∈ b.assets.map (·.name)
    · exact ⟨_, .duplicateAsset href htaken⟩
    · exact ⟨_, .assetAdded href htaken⟩
  by_cases hns : stmt.call.receiver = sc.ns
  · by_cases hgroup : stmt.call.method = "Group"
    · cases hlocate : sc.locate b.baseDir stmt.call.path with
      | error cause => exact ⟨_, .groupPath hns hgroup hlocate⟩
      | ok dir => exact ⟨_, .groupDeclared hns hgroup hlocate⟩
    · by_cases hitem : stmt.call.method ∈ itemMethods
      · exact hrecord (referenceTo?_eq_some_iff.mpr (.inl ⟨hns, hitem, rfl⟩))
      · exact ⟨_, .unknownMethod hns (by simp [knownMethods, hgroup, hitem])⟩
  · cases hget : groups.get? stmt.call.receiver with
    | some g => exact hrecord (referenceTo?_eq_some_iff.mpr (.inr ⟨hns, g, hget, rfl⟩))
    | none => exact ⟨_, .ignored hns hget⟩

end Scanner

/-! ## What a rule says about the state -/

section

variable {sc : Scanner} {file : Path} {stmt : Statement} {b : Bundle} {groups : GroupTable}

theorem resolve_of_declared {g : Group} (h : sc.declared? b.baseDir stmt = some g) :
    resolve sc.ns sc.locate file stmt b groups = declareGroup g b groups := by
  rcases resolve_fails_or_counts file with ⟨e, -, hnone, -⟩ | hcounts
  · rw [h] at hnone
    cases hnone
  · rw [hcounts, Scanner.effect, h]

theorem resolve_of_ignored (hns : stmt.call.receiver ≠ sc.ns)
    (hnone : groups.get? stmt.call.receiver = none) :
    resolve sc.ns sc.locate file stmt b groups
      = { outcome := .ok .ignored, bundle := b, groups } := by
  have hdeclares : sc.declares stmt = false := by simp [Scanner.declares, hns]
  have hoff : sc.offends stmt = false := by simp [Scanner.offends, hns]
  rw [resolve_of_counts file hoff (by simp [Scanner.failure?, hdeclares]), Scanner.effect,
    Scanner.declared?, hdeclares, Scanner.referenceTo?, if_neg hns, hnone]
  rfl

end

namespace FileState

variable {sc : Scanner} {file : Path} {stmt : Statement} {s : FileState}

/-- The report of a statement: the error, or the resolution. -/
def report (sc : Scanner) (file : Path) (stmt : Statement) (s : FileState) :
    Except ScanError Resolution :=
  (GoAssets.resolve sc.ns sc.locate file stmt s.bundle s.groups).outcome

theorem tells_of_error {e : ScanError}
    (h : (GoAssets.resolve sc.ns sc.locate file stmt s.bundle s.groups).outcome = .error e) :
    s.report sc file stmt = .error e
      ∧ Tells s.bundle (s.resolve sc file stmt).1.bundle s.groups (s.resolve sc file stmt).1.groups
          (.error e) := by
  rw [resolve_of_error h]
  exact ⟨h, rfl, rfl⟩

theorem tells_of_ok {r : Resolved} {resolution : Resolution}
    (h : GoAssets.resolve sc.ns sc.locate file stmt s.bundle s.groups = r)
    (hok : r.outcome = .ok resolution)
    (htells : Tells s.bundle r.bundle s.groups r.groups (.ok resolution)) :
    s.report sc file stmt = .ok resolution
      ∧ Tells s.bundle (s.resolve sc file stmt).1.bundle s.groups (s.resolve sc file stmt).1.groups
          (.ok resolution) := by
  subst h
  obtain ⟨journal, hres⟩ := resolve_of_ok hok
  rw [hres]
  exact ⟨hok, htells⟩

end FileState

/-- A rule says what is reported, and what it tells is what is done. -/
theorem Scanner.Reports.tells {sc : Scanner} {file : Path} {stmt : Statement} {s : FileState}
    {report : Except ScanError Resolution} (h : sc.Reports file stmt s.bundle s.groups report) :
    s.report sc file stmt = report
      ∧ Tells s.bundle (s.resolve sc file stmt).1.bundle s.groups (s.resolve sc file stmt).1.groups
          report := by
  cases h with
  | unknownMethod hns hmethod =>
      have hoff : sc.offends stmt = true := by simp [offends, hns, hmethod]
      exact FileState.tells_of_error (resolve_of_offends file hoff)
  | @groupPath cause hns hgroup hlocate =>
      have hfail : sc.failure? s.bundle.baseDir stmt = some cause := by
        simp [failure?, declares, hns, hgroup, hlocate]
      exact FileState.tells_of_error (resolve_of_failure file hfail)
  | @groupDeclared dir hns hgroup hlocate =>
      have hdecl : sc.declared? s.bundle.baseDir stmt
          = some ⟨stmt.target, stmt.call.path, dir⟩ := by
        simp [declared?, declares, hns, hgroup, hlocate, Except.toOption]
      refine FileState.tells_of_ok (resolve_of_declared hdecl) rfl ⟨rfl, ?_, fun name hne => ?_⟩
      · exact (GroupTable.get?_register ..).trans (if_pos rfl)
      · exact (GroupTable.get?_register ..).trans (if_neg (Ne.symm hne))
  | assetAdded href hnew =>
      have hres := (resolve_of_reference file href).trans (recordAsset_of_new hnew s.groups)
      exact FileState.tells_of_ok hres rfl ⟨hnew, rfl, rfl⟩
  | duplicateAsset href htaken =>
      have hres := (resolve_of_reference file href).trans (recordAsset_of_taken htaken s.groups)
      exact FileState.tells_of_ok hres rfl ⟨rfl, rfl⟩
  | ignored hns hnone =>
      exact FileState.tells_of_ok (resolve_of_ignored hns hnone) rfl ⟨rfl, rfl⟩

namespace FileState

/-! ## When a report is made -/

section

variable {sc : Scanner} {file : Path} {stmt : Statement} {s : FileState}

theorem report_eq_iff {report : Except ScanError Resolution} :
    s.report sc file stmt = report ↔ sc.Reports file stmt s.bundle s.groups report := by
  refine ⟨?_, fun h => h.tells.1⟩
  rintro rfl
  obtain ⟨report, h⟩ := sc.exists_reports file stmt s.bundle s.groups
  rwa [h.tells.1]

theorem report_unknownMethod_iff {ns method : String} {path : Path} :
    s.report sc file stmt = .error (.unknownMethod ns method path) ↔
      stmt.call.receiver = sc.ns ∧ stmt.call.method ∉ knownMethods
        ∧ ns = sc.ns ∧ method = stmt.call.method ∧ path = file := by
  rw [report_eq_iff]
  constructor
  · intro h
    cases h with
    | unknownMethod hns hmethod => exact ⟨hns, hmethod, rfl, rfl, rfl⟩
  · rintro ⟨hns, hmethod, rfl, rfl, rfl⟩
    exact .unknownMethod hns hmethod

theorem report_groupPath_iff {path : Path} {literal : String} {cause : IoFailure} :
    s.report sc file stmt = .error (.groupPath path literal cause) ↔
      stmt.call.receiver = sc.ns ∧ stmt.call.method = "Group"
        ∧ sc.locate s.bundle.baseDir stmt.call.path = .error cause
        ∧ path = file ∧ literal = stmt.call.path := by
  rw [report_eq_iff]
  constructor
  · intro h
    cases h with
    | groupPath hns hgroup hlocate => exact ⟨hns, hgroup, hlocate, rfl, rfl⟩
  · rintro ⟨hns, hgroup, hlocate, rfl, rfl⟩
    exact .groupPath hns hgroup hlocate

theorem report_groupDeclared_iff {g : Group} :
    s.report sc file stmt = .ok (.groupDeclared g) ↔
      stmt.call.receiver = sc.ns ∧ stmt.call.method = "Group"
        ∧ sc.locate s.bundle.baseDir stmt.call.path = .ok g.fullPath
        ∧ g.name = stmt.target ∧ g.localPath = stmt.call.path := by
  rw [report_eq_iff]
  constructor
  · intro h
    cases h with
    | groupDeclared hns hgroup hlocate => exact ⟨hns, hgroup, hlocate, rfl, rfl⟩
  · obtain ⟨name, localPath, fullPath⟩ := g
    rintro ⟨hns, hgroup, hlocate, rfl, rfl⟩
    exact .groupDeclared hns hgroup hlocate

theorem report_ignored_iff : s.report sc file stmt = .ok .ignored ↔
    stmt.call.receiver ≠ sc.ns ∧ s.groups.get? stmt.call.receiver = none := by
  rw [report_eq_iff]
  constructor
  · intro h
    cases h with
    | ignored hns hnone => exact ⟨hns, hnone⟩
  · rintro ⟨hns, hnone⟩
    exact .ignored hns hnone

theorem report_assetAdded_iff {a : Asset} :
    s.report sc file stmt = .ok (.assetAdded a) ↔
      ((stmt.call.receiver = sc.ns ∧ stmt.call.method ∈ itemMethods ∧ a = .direct stmt.call.path)
        ∨ (stmt.call.receiver ≠ sc.ns
          ∧ ∃ g, s.groups.get? stmt.call.receiver = some g ∧ a = .inGroup stmt.call.path g))
      ∧ stmt.call.path ∉ s.bundle.assets.map (·.name) := by
  rw [report_eq_iff, ← Scanner.referenceTo?_eq_some_iff]
  constructor
  · intro h
    cases h with
    | assetAdded href hnew => exact ⟨href, Scanner.name_eq_path_of_referenceTo? href ▸ hnew⟩
  · rintro ⟨href, hnew⟩
    exact .assetAdded href (Scanner.name_eq_path_of_referenceTo? href ▸ hnew)

theorem report_duplicateAsset_iff {name : String} :
    s.report sc file stmt = .ok (.duplicateAsset name) ↔
      ((stmt.call.receiver = sc.ns ∧ stmt.call.method ∈ itemMethods)
        ∨ (stmt.call.receiver ≠ sc.ns ∧ ∃ g, s.groups.get? stmt.call.receiver = some g))
      ∧ stmt.call.path ∈ s.bundle.assets.map (·.name) ∧ name = stmt.call.path := by
  rw [report_eq_iff]
  constructor
  · intro h
    cases h with
    | duplicateAsset href htaken =>
        have hname := Scanner.name_eq_path_of_referenceTo? href
        refine ⟨?_, hname ▸ htaken, hname⟩
        rcases Scanner.referenceTo?_eq_some_iff.mp href with ⟨hns, hitem, -⟩ | ⟨hns, g, hg, -⟩
        · exact .inl ⟨hns, hitem⟩
        · exact .inr ⟨hns, g, hg⟩
  · rintro ⟨⟨hns, hitem⟩ | ⟨hns, g, hg⟩, htaken, rfl⟩
    · exact .duplicateAsset (a := .direct stmt.call.path)
        (Scanner.referenceTo?_eq_some_iff.mpr (.inl ⟨hns, hitem, rfl⟩)) htaken
    · exact .duplicateAsset (a := .inGroup stmt.call.path g)
        (Scanner.referenceTo?_eq_some_iff.mpr (.inr ⟨hns, g, hg, rfl⟩)) htaken

/-- There is no other error than the two. -/
theorem report_error {e : ScanError} (h : s.report sc file stmt = .error e) :
    (∃ ns method path, e = .unknownMethod ns method path)
      ∨ ∃ path literal cause, e = .groupPath path literal cause := by
  cases report_eq_iff.mp h with
  | unknownMethod => exact .inl ⟨_, _, _, rfl⟩
  | groupPath => exact .inr ⟨_, _, _, rfl⟩

end

/-- What a statement does in any state of a scan. What its report tells is all that happens to the
bundle and the table of groups. The report is an unknown method exactly for a method of the namespace
that there is not, and a group path exactly for a group of the namespace whose directory cannot be
found; there is no other error. A group is declared exactly if its directory is found. A call on a
name that is neither the namespace nor a group is ignored, and nothing else is. What remains refers
to an asset, of the namespace if that is the receiver and else of the group of that name: it is added
if its name is new in the bundle, and a duplicate if not. -/
theorem resolve_reports (sc : Scanner) (file : Path) (stmt : Statement) (s : FileState) :
    Tells s.bundle (s.resolve sc file stmt).1.bundle s.groups (s.resolve sc file stmt).1.groups
      (s.report sc file stmt)
    ∧ (∀ ns method path, s.report sc file stmt = .error (.unknownMethod ns method path) ↔
        stmt.call.receiver = sc.ns ∧ stmt.call.method ∉ knownMethods
          ∧ ns = sc.ns ∧ method = stmt.call.method ∧ path = file)
    ∧ (∀ path literal cause, s.report sc file stmt = .error (.groupPath path literal cause) ↔
        stmt.call.receiver = sc.ns ∧ stmt.call.method = "Group"
          ∧ sc.locate s.bundle.baseDir stmt.call.path = .error cause
          ∧ path = file ∧ literal = stmt.call.path)
    ∧ (∀ e, s.report sc file stmt = .error e →
        (∃ ns method path, e = .unknownMethod ns method path)
          ∨ ∃ path literal cause, e = .groupPath path literal cause)
    ∧ (∀ g, s.report sc file stmt = .ok (.groupDeclared g) ↔
        stmt.call.receiver = sc.ns ∧ stmt.call.method = "Group"
          ∧ sc.locate s.bundle.baseDir stmt.call.path = .ok g.fullPath
          ∧ g.name = stmt.target ∧ g.localPath = stmt.call.path)
    ∧ (s.report sc file stmt = .ok .ignored ↔
        stmt.call.receiver ≠ sc.ns ∧ s.groups.get? stmt.call.receiver = none)
    ∧ (∀ a, s.report sc file stmt = .ok (.assetAdded a) ↔
        ((stmt.call.receiver = sc.ns ∧ stmt.call.method ∈ itemMethods ∧ a = .direct stmt.call.path)
          ∨ (stmt.call.receiver ≠ sc.ns
            ∧ ∃ g, s.groups.get? stmt.call.receiver = some g ∧ a = .inGroup stmt.call.path g))
        ∧ stmt.call.path ∉ s.bundle.assets.map (·.name))
    ∧ ∀ name, s.report sc file stmt = .ok (.duplicateAsset name) ↔
        ((stmt.call.receiver = sc.ns ∧ stmt.call.method ∈ itemMethods)
          ∨ (stmt.call.receiver ≠ sc.ns ∧ ∃ g, s.groups.get? stmt.call.receiver = some g))
        ∧ stmt.call.path ∈ s.bundle.assets.map (·.name) ∧ name = stmt.call.path := by
  obtain ⟨report, h⟩ := sc.exists_reports file stmt s.bundle s.groups
  obtain ⟨rfl, htells⟩ := h.tells
  exact ⟨htells, fun _ _ _ => report_unknownMethod_iff, fun _ _ _ => report_groupPath_iff,
    fun _ => report_error, fun _ => report_groupDeclared_iff, report_ignored_iff,
    fun _ => report_assetAdded_iff, fun _ => report_duplicateAsset_iff⟩

end FileState

end GoAssets
