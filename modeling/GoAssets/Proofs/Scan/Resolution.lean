import GoAssets.Proofs.Scan.Reference

/-!
# What becomes of one statement

`resolve` goes through its cases one by one and asks the table of groups on the way. `resolve_failed`
says that no case changes anything before it fails. A statement that offends and a group whose
directory cannot be found are errors, in the terms of `Proofs/Scan/Reference`, and any other
statement has an effect (`Scanner.effect`) that depends only on what it declares and what it refers
to. `FileState.resolve_fails_or_counts` carries this over to the state of a file. Nothing after this
module looks into the cases of `resolve`.
-/

namespace GoAssets

/-! ## Methods and records -/

theorem AssetMethod.ofName?_eq_none {name : String} (h : knownMethods.contains name = false) :
    ofName? name = none := by
  unfold ofName?
  split <;> first | rfl | (revert h; decide)

theorem AssetMethod.ofName?_of_item {name : String} (h : itemMethods.contains name = true) :
    ∃ m, ofName? name = some m ∧ m ≠ .group := by
  simp only [itemMethods, List.contains_cons, List.contains_nil, Bool.or_eq_true, beq_iff_eq,
    Bool.or_false] at h
  rcases h with rfl | rfl | rfl | rfl
  · exact ⟨.string, rfl, by decide⟩
  · exact ⟨.mustString, rfl, by decide⟩
  · exact ⟨.bytes, rfl, by decide⟩
  · exact ⟨.mustBytes, rfl, by decide⟩

theorem recordAsset_bundle (a : Asset) (b : Bundle) (groups : GroupTable) :
    (recordAsset a b groups).bundle = (b.addAsset a).1 := by
  unfold recordAsset
  split <;> rename_i h <;> rw [h]

theorem recordAsset_groups (a : Asset) (b : Bundle) (groups : GroupTable) :
    (recordAsset a b groups).groups = groups := by
  unfold recordAsset
  split <;> rfl

theorem recordAsset_outcome (a : Asset) (b : Bundle) (groups : GroupTable) :
    (recordAsset a b groups).outcome
      = .ok (if b.hasAsset a.name then .duplicateAsset a.name else .assetAdded a) := by
  rw [recordAsset, Bundle.addAsset]
  by_cases h : b.hasAsset a.name = true <;> simp [h]

theorem GroupTable.get?_register (t : GroupTable) (g : Group) (name : String) :
    (t.register g).get? name = if g.name = name then some g else t.get? name := by
  rw [get?, register, Std.HashMap.getElem?_insert]
  simp [get?]

/-! ## The effect of a statement -/

namespace Scanner

/-- The asset that a statement refers to, where `lookup` says which group has a name. -/
def referenceTo? (sc : Scanner) (lookup : String → Option Group) (stmt : Statement) :
    Option Asset :=
  if stmt.call.receiver = sc.ns then
    if itemMethods.contains stmt.call.method then some (.direct stmt.call.path) else none
  else (lookup stmt.call.receiver).map (.inGroup stmt.call.path)

/-- What a statement that is resolved leaves behind: it declares a group, or refers to an asset, or
means nothing. -/
def effect (sc : Scanner) (stmt : Statement) (b : Bundle) (groups : GroupTable) : Resolved :=
  match sc.declared? b.baseDir stmt with
  | some g => declareGroup g b groups
  | none =>
    match sc.referenceTo? groups.get? stmt with
    | some a => recordAsset a b groups
    | none => { outcome := .ok .ignored, bundle := b, groups }

variable {sc : Scanner} {stmt : Statement}

/-- A method that there is not refers to nothing. -/
theorem referenceTo?_of_offends (h : sc.offends stmt = true) (lookup : String → Option Group) :
    sc.referenceTo? lookup stmt = none := by
  rw [offends, Bool.and_eq_true, beq_iff_eq, Bool.not_eq_true', knownMethods, List.contains_cons,
    Bool.or_eq_false_iff] at h
  rw [referenceTo?, if_pos h.1, h.2.2]
  rfl

/-- A declaration calls a method that refers to nothing. -/
theorem referenceTo?_of_declares (h : sc.declares stmt = true) (lookup : String → Option Group) :
    sc.referenceTo? lookup stmt = none := by
  rw [declares, Bool.and_eq_true, beq_iff_eq, beq_iff_eq] at h
  rw [referenceTo?, if_pos h.1, h.2]
  rfl

theorem name_of_referenceTo? {lookup : String → Option Group} {a : Asset}
    (h : sc.referenceTo? lookup stmt = some a) : a.name = a.assetPath := by
  rw [referenceTo?] at h
  split at h
  · split at h
    · obtain rfl := Option.some.inj h
      rfl
    · cases h
  · obtain ⟨group, -, rfl⟩ := Option.map_eq_some_iff.mp h
    rfl

theorem exists_get?_of_referenceTo? {lookup : String → Option Group} {a : Asset}
    (h : sc.referenceTo? lookup stmt = some a) {g : Group}
    (hg : a.group = some g) : ∃ name, lookup name = some g := by
  rw [referenceTo?] at h
  split at h
  · split at h
    · obtain rfl := Option.some.inj h
      cases hg
    · cases h
  · obtain ⟨group, hlookup, rfl⟩ := Option.map_eq_some_iff.mp h
    obtain rfl := Option.some.inj hg
    exact ⟨_, hlookup⟩

theorem declares_of_declared? {dir : Path} {g : Group} (h : sc.declared? dir stmt = some g) :
    sc.declares stmt = true := by
  rw [declared?] at h
  split at h
  · assumption
  · cases h

theorem locate_of_declared? {dir : Path} {g : Group}
    (h : sc.declared? dir stmt = some g) : sc.locate dir g.localPath = .ok g.fullPath := by
  rw [declared?] at h
  split at h
  · cases hlocate : sc.locate dir stmt.call.path with
    | error cause =>
        rw [hlocate] at h
        cases h
    | ok fullPath =>
        rw [hlocate] at h
        obtain rfl := Option.some.inj h
        exact hlocate
  · cases h

theorem declared?_of_offends (h : sc.offends stmt = true) (dir : Path) :
    sc.declared? dir stmt = none := by
  rw [offends, Bool.and_eq_true, Bool.not_eq_true', knownMethods, List.contains_cons,
    Bool.or_eq_false_iff] at h
  rw [declared?, declares, h.2.1, Bool.and_false]
  rfl

/-- A declaration whose directory cannot be found declares no group. -/
theorem declared?_of_failure? {dir : Path} {cause : IoFailure}
    (h : sc.failure? dir stmt = some cause) :
    sc.declares stmt = true ∧ sc.declared? dir stmt = none := by
  rw [failure?] at h
  split at h
  · rename_i hdecl
    refine ⟨hdecl, ?_⟩
    rw [declared?, if_pos hdecl]
    split at h
    · rename_i hlocate
      rw [hlocate]
      rfl
    · cases h
  · cases h

variable {b : Bundle} {groups : GroupTable}

theorem baseDir_recordIn (b : Bundle) (reference : Option Asset) :
    (recordIn b reference).baseDir = b.baseDir := by
  cases reference with
  | none => rfl
  | some a => rw [recordIn, Bundle.addAsset_fst]

theorem baseDir_declareIn (b : Bundle) (group : Option Group) :
    (declareIn b group).baseDir = b.baseDir := by
  cases group <;> rfl

theorem effect_bundle : (sc.effect stmt b groups).bundle
    = declareIn (recordIn b (sc.referenceTo? groups.get? stmt)) (sc.declared? b.baseDir stmt) := by
  rw [effect]
  cases hdecl : sc.declared? b.baseDir stmt with
  | some g =>
      rw [referenceTo?_of_declares (declares_of_declared? hdecl)]
      rfl
  | none =>
      cases sc.referenceTo? groups.get? stmt with
      | some a => exact recordAsset_bundle ..
      | none => rfl

theorem effect_outcome : (sc.effect stmt b groups).outcome =
    match sc.declared? b.baseDir stmt, sc.referenceTo? groups.get? stmt with
    | some g, _ => .ok (.groupDeclared g)
    | none, some a => .ok (if b.hasAsset a.name then .duplicateAsset a.name else .assetAdded a)
    | none, none => .ok .ignored := by
  rw [effect]
  cases sc.declared? b.baseDir stmt with
  | some g => rfl
  | none =>
      cases sc.referenceTo? groups.get? stmt with
      | some a => exact recordAsset_outcome ..
      | none => rfl

theorem exists_effect_outcome (sc : Scanner) (stmt : Statement) (b : Bundle) (groups : GroupTable) :
    ∃ resolution, (sc.effect stmt b groups).outcome = .ok resolution := by
  rw [effect_outcome]
  split <;> exact ⟨_, rfl⟩

theorem effect_groups : (sc.effect stmt b groups).groups =
    match sc.declared? b.baseDir stmt with
    | some g => groups.register g
    | none => groups := by
  rw [effect]
  cases sc.declared? b.baseDir stmt with
  | some g => rfl
  | none =>
      cases sc.referenceTo? groups.get? stmt with
      | some a => exact recordAsset_groups ..
      | none => rfl

/-- If the table has the latest group of every name, it has so after a statement. -/
theorem get?_effect_groups {declared : List Group}
    (h : ∀ name, groups.get? name = latest? name declared) (name : String) :
    (sc.effect stmt b groups).groups.get? name
      = latest? name (declared ++ (sc.declared? b.baseDir stmt).toList) := by
  rw [effect_groups]
  cases sc.declared? b.baseDir stmt with
  | some g => rw [Option.toList_some, latest?_concat, ← h, ← GroupTable.get?_register]
  | none => rw [Option.toList_none, List.append_nil, ← h]

end Scanner

/-! ## Resolving a statement -/

section Resolve

variable {sc : Scanner} (file : Path) {stmt : Statement} {b : Bundle} {groups : GroupTable}

/-- A statement fails before it changes anything. -/
theorem resolve_failed {ns : String} {locate : GroupLocator} {e : ScanError}
    (h : (resolve ns locate file stmt b groups).outcome = .error e) :
    resolve ns locate file stmt b groups = { outcome := .error e, bundle := b, groups } := by
  have hrecord : ∀ a : Asset, (recordAsset a b groups).outcome ≠ .error e := by
    intro a
    rw [recordAsset_outcome]
    nofun
  rw [resolve] at h ⊢
  split at h
  · rename_i hns
    rw [if_pos hns]
    split at h
    · rw [Except.error.inj h]
    · split at h
      · rw [Except.error.inj h]
      · cases h
    · exact absurd h (hrecord _)
  · split at h
    · exact absurd h (hrecord _)
    · cases h

theorem resolve_of_offends (h : sc.offends stmt = true) :
    (resolve sc.ns sc.locate file stmt b groups).outcome
      = .error (.unknownMethod sc.ns stmt.call.method file) := by
  rw [Scanner.offends, Bool.and_eq_true, beq_iff_eq, Bool.not_eq_true'] at h
  rw [resolve, if_pos h.1, AssetMethod.ofName?_eq_none h.2]

theorem resolve_of_failure {cause : IoFailure} (h : sc.failure? b.baseDir stmt = some cause) :
    (resolve sc.ns sc.locate file stmt b groups).outcome
      = .error (.groupPath file stmt.call.path cause) := by
  rw [Scanner.failure?] at h
  split at h
  · rename_i hdecl
    rw [Scanner.declares, Bool.and_eq_true, beq_iff_eq, beq_iff_eq] at hdecl
    split at h
    · rename_i hlocate
      obtain rfl := Option.some.inj h
      rw [resolve, if_pos hdecl.1, hdecl.2]
      simp only [AssetMethod.ofName?, hlocate]
    · cases h
  · cases h

theorem resolve_of_counts (hoff : sc.offends stmt = false)
    (hfail : sc.failure? b.baseDir stmt = none) :
    resolve sc.ns sc.locate file stmt b groups = sc.effect stmt b groups := by
  by_cases hns : stmt.call.receiver = sc.ns
  · by_cases hgroup : stmt.call.method = "Group"
    · -- A group is declared: its directory was found.
      have hdecl : sc.declares stmt = true := by simp [Scanner.declares, hns, hgroup]
      obtain ⟨fullPath, hlocate⟩ : ∃ p, sc.locate b.baseDir stmt.call.path = .ok p := by
        rw [Scanner.failure?, if_pos hdecl] at hfail
        split at hfail
        · cases hfail
        · exact ⟨_, ‹_›⟩
      have hdeclared : sc.declared? b.baseDir stmt
          = some ⟨stmt.target, stmt.call.path, fullPath⟩ := by
        simp [Scanner.declared?, hdecl, hlocate, Except.toOption]
      rw [Scanner.effect, hdeclared, resolve, if_pos hns, hgroup]
      simp only [AssetMethod.ofName?, hlocate]
    · -- An asset is referred to directly.
      have hnone : sc.declared? b.baseDir stmt = none := by
        simp [Scanner.declared?, Scanner.declares, hgroup]
      have hitem : itemMethods.contains stmt.call.method = true := by
        simpa [Scanner.offends, hns, knownMethods, hgroup] using hoff
      obtain ⟨m, hm, hne⟩ := AssetMethod.ofName?_of_item hitem
      rw [Scanner.effect, hnone, Scanner.referenceTo?, if_pos hns, if_pos hitem, resolve,
        if_pos hns, hm]
      cases m <;> first | rfl | exact absurd rfl hne
  · -- The receiver is a group of that name, or nothing happens.
    have hnone : sc.declared? b.baseDir stmt = none := by
      simp [Scanner.declared?, Scanner.declares, hns]
    rw [Scanner.effect, hnone, Scanner.referenceTo?, if_neg hns, resolve, if_neg hns]
    cases groups.get? stmt.call.receiver <;> rfl

/-- A statement that fails declares nothing and refers to nothing; any other has its effect. -/
theorem resolve_fails_or_counts :
    (∃ e, (resolve sc.ns sc.locate file stmt b groups).outcome = .error e
      ∧ sc.declared? b.baseDir stmt = none ∧ ∀ lookup, sc.referenceTo? lookup stmt = none)
    ∨ resolve sc.ns sc.locate file stmt b groups = sc.effect stmt b groups := by
  cases hoff : sc.offends stmt with
  | true =>
      exact .inl ⟨_, resolve_of_offends file hoff, Scanner.declared?_of_offends hoff _,
        Scanner.referenceTo?_of_offends hoff⟩
  | false =>
      cases hfail : sc.failure? b.baseDir stmt with
      | none => exact .inr (resolve_of_counts file hoff hfail)
      | some cause =>
          obtain ⟨hdecl, hnone⟩ := Scanner.declared?_of_failure? hfail
          exact .inl ⟨_, resolve_of_failure file hfail, hnone,
            Scanner.referenceTo?_of_declares hdecl⟩

/-- The bundle takes in what the statement declares and records what it refers to, also if that is
nothing because the statement fails. -/
theorem resolve_bundle : (resolve sc.ns sc.locate file stmt b groups).bundle
    = Scanner.declareIn (Scanner.recordIn b (sc.referenceTo? groups.get? stmt))
        (sc.declared? b.baseDir stmt) := by
  rcases resolve_fails_or_counts file with ⟨e, herr, hdecl, href⟩ | hcounts
  · rw [resolve_failed file herr, hdecl, href]
    rfl
  · rw [hcounts]
    exact Scanner.effect_bundle

theorem get?_resolve_groups {declared : List Group}
    (h : ∀ name, groups.get? name = latest? name declared) (name : String) :
    (resolve sc.ns sc.locate file stmt b groups).groups.get? name
      = latest? name (declared ++ (sc.declared? b.baseDir stmt).toList) := by
  rcases resolve_fails_or_counts file with ⟨e, herr, hdecl, -⟩ | hcounts
  · rw [resolve_failed file herr, hdecl, Option.toList_none, List.append_nil]
    exact h name
  · rw [hcounts]
    exact Scanner.get?_effect_groups h name

theorem resolve_of_reference {a : Asset} (h : sc.referenceTo? groups.get? stmt = some a) :
    resolve sc.ns sc.locate file stmt b groups = recordAsset a b groups := by
  have hdecl : sc.declares stmt = false := by
    cases hdecl : sc.declares stmt with
    | true => rw [Scanner.referenceTo?_of_declares hdecl] at h; cases h
    | false => rfl
  have hoff : sc.offends stmt = false := by
    cases hoff : sc.offends stmt with
    | true => rw [Scanner.referenceTo?_of_offends hoff] at h; cases h
    | false => rfl
  rw [resolve_of_counts file hoff (by simp [Scanner.failure?, hdecl]), Scanner.effect, h,
    Scanner.declared?, hdecl]
  rfl

/-- A statement that refers to nothing fails, declares a group or is ignored. -/
theorem outcome_of_no_reference {resolution : Resolution}
    (h : sc.referenceTo? groups.get? stmt = none)
    (hr : (resolve sc.ns sc.locate file stmt b groups).outcome = .ok resolution) :
    resolution = .ignored ∨ ∃ g, resolution = .groupDeclared g := by
  rcases resolve_fails_or_counts file with ⟨e, herr, -⟩ | hcounts
  · rw [herr] at hr
    cases hr
  · rw [hcounts, Scanner.effect_outcome, h] at hr
    cases hdecl : sc.declared? b.baseDir stmt with
    | some g =>
        rw [hdecl] at hr
        exact .inr ⟨g, (Except.ok.inj hr).symm⟩
    | none =>
        rw [hdecl] at hr
        exact .inl (Except.ok.inj hr).symm

/-- A statement adds an asset exactly if it refers to one whose name is free. -/
theorem resolve_assetAdded_iff {a : Asset} :
    (resolve sc.ns sc.locate file stmt b groups).outcome = .ok (.assetAdded a)
      ↔ sc.referenceTo? groups.get? stmt = some a ∧ b.hasAsset a.name = false := by
  constructor
  · intro hadded
    cases href : sc.referenceTo? groups.get? stmt with
    | none => rcases outcome_of_no_reference file href hadded with h | ⟨g, h⟩ <;> cases h
    | some a' =>
        rw [resolve_of_reference file href, recordAsset_outcome] at hadded
        split at hadded
        · cases hadded
        · rename_i hfree
          cases hadded
          exact ⟨rfl, eq_false_of_ne_true hfree⟩
  · rintro ⟨href, hfree⟩
    rw [resolve_of_reference file href, recordAsset_outcome, hfree]
    rfl

/-- A statement is a duplicate exactly if it refers to an asset whose name is taken. -/
theorem resolve_duplicateAsset_iff {name : String} :
    (resolve sc.ns sc.locate file stmt b groups).outcome = .ok (.duplicateAsset name)
      ↔ ∃ a, sc.referenceTo? groups.get? stmt = some a ∧ a.name = name
        ∧ b.hasAsset name = true := by
  constructor
  · intro hduplicate
    cases href : sc.referenceTo? groups.get? stmt with
    | none => rcases outcome_of_no_reference file href hduplicate with h | ⟨g, h⟩ <;> cases h
    | some a =>
        rw [resolve_of_reference file href, recordAsset_outcome] at hduplicate
        split at hduplicate
        · cases hduplicate
          exact ⟨a, rfl, rfl, ‹_›⟩
        · cases hduplicate
  · rintro ⟨a, href, rfl, htaken⟩
    rw [resolve_of_reference file href, recordAsset_outcome, if_pos htaken]

end Resolve

/-! ## A statement of a file -/

namespace FileState

variable {sc : Scanner} {file : Path} {stmt : Statement} {s : FileState}

/-- A statement that fails leaves the whole state of its file as it was. -/
theorem resolve_of_error {e : ScanError}
    (h : (GoAssets.resolve sc.ns sc.locate file stmt s.bundle s.groups).outcome = .error e) :
    s.resolve sc file stmt = (s, some e) := by
  rw [FileState.resolve, resolve_failed file h]
  simp [Resolved.events]

theorem resolve_of_ok {resolution : Resolution}
    (h : (GoAssets.resolve sc.ns sc.locate file stmt s.bundle s.groups).outcome
      = .ok resolution) :
    ∃ journal, s.resolve sc file stmt
      = ({ bundle := (GoAssets.resolve sc.ns sc.locate file stmt s.bundle s.groups).bundle
           groups := (GoAssets.resolve sc.ns sc.locate file stmt s.bundle s.groups).groups
           journal }, none) := by
  rw [FileState.resolve]
  simp only [h]
  exact ⟨_, rfl⟩

/-- An effect is all that happens to the state of the file, apart from the journal. -/
theorem resolve_of_effect (h : GoAssets.resolve sc.ns sc.locate file stmt s.bundle s.groups
      = sc.effect stmt s.bundle s.groups) :
    ∃ journal, s.resolve sc file stmt
      = ({ bundle := (sc.effect stmt s.bundle s.groups).bundle
           groups := (sc.effect stmt s.bundle s.groups).groups
           journal }, none) := by
  obtain ⟨resolution, hok⟩ := sc.exists_effect_outcome stmt s.bundle s.groups
  rw [← h] at hok ⊢
  exact resolve_of_ok hok

theorem resolve_fails_or_counts (sc : Scanner) (file : Path) (stmt : Statement) (s : FileState) :
    (∃ e, s.resolve sc file stmt = (s, some e))
    ∨ ∃ journal, s.resolve sc file stmt
      = ({ bundle := (sc.effect stmt s.bundle s.groups).bundle
           groups := (sc.effect stmt s.bundle s.groups).groups
           journal }, none) := by
  rcases GoAssets.resolve_fails_or_counts file with ⟨e, herr, -⟩ | hcounts
  · exact .inl ⟨e, resolve_of_error herr⟩
  · exact .inr (resolve_of_effect hcounts)

end FileState

end GoAssets
