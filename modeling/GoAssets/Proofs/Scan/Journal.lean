import GoAssets.Proofs.Scan.Bundles

/-!
# The journal tells the whole scan

A scan reports what it does while it does it, in three places: where a group replaces another,
where a statement was resolved, and where a file is given up. The journal is nevertheless complete.
Whoever has it can rebuild the contents of the inventory, the latest group of every name at every
moment, and the errors.

- `Bundle.replay` enters an event in a bundle, and `Inventory.replay` in all bundles. It looks at
  the directory of the event's file and at the resolution, and at nothing that was there before.
- `Announced` describes the journals in which a declaration that replaces a group comes right after
  an event that names this group, and in which there is no other such event.
- `Enters` says once what a statement can enter in the journal and what it does to its bundle and
  the table of groups. Everything else is derived from it: what the statements of one file keep
  (`FileState.Journaled.resolveAll`), one input (`Session.Journaled.scanSource`) and all inputs
  (`Session.Journaled.scanAll`), whether or not the scan goes on after them.

`ScanReport.Recounts` collects what the journal of a scan that succeeds says.
-/

namespace GoAssets

theorem concat_eq_append_cons_iff {α : Type} {xs before after : List α} {x y : α} :
    xs ++ [x] = before ++ y :: after ↔ (xs = before ∧ x = y ∧ after = [])
      ∨ ∃ rest, after = rest ++ [x] ∧ xs = before ++ y :: rest := by
  constructor
  · intro h
    rcases List.eq_nil_or_concat after with rfl | ⟨rest, z, rfl⟩
    · obtain ⟨hxs, hx⟩ := List.append_inj' h rfl
      exact .inl ⟨hxs, List.head_eq_of_cons_eq hx, rfl⟩
    · rw [List.concat_eq_append, ← List.cons_append, ← List.append_assoc] at h
      obtain ⟨hxs, hx⟩ := List.append_inj' h rfl
      obtain rfl := List.head_eq_of_cons_eq hx
      exact .inr ⟨rest, List.concat_eq_append, hxs⟩
  · rintro (⟨rfl, rfl, rfl⟩ | ⟨rest, rfl, rfl⟩)
    · rfl
    · simp

/-! ## What events say -/

namespace ScanEvent

def declared? : ScanEvent → Option Group
  | resolved _ _ (.groupDeclared g) => some g
  | _ => none

def cause? : ScanEvent → Option ScanError
  | abandoned cause => some cause
  | _ => none

/-- Whether an event can come from a statement of a file. -/
def IsOf (file : Path) : ScanEvent → Prop
  | redeclared _ => True
  | resolved f _ _ => f = file
  | passedOver f _ => f = file
  | _ => False

end ScanEvent

namespace Bundle

def cleared (b : Bundle) : Bundle := .empty b.baseDir b.caller b.packageName

/-- Enter an event in a bundle: a group that was declared in its directory joins the groups, and an
asset that was added there joins the assets. -/
def replay (b : Bundle) : ScanEvent → Bundle
  | .resolved file _ resolution =>
    if b.baseDir.components = file.sourceDir.components then
      match resolution with
      | .groupDeclared g => { b with groups := b.groups ++ [g] }
      | .assetAdded a => { b with assets := b.assets ++ [a] }
      | _ => b
    else b
  | _ => b

theorem foldl_replay_of_other {b : Bundle} {events : List ScanEvent}
    (h : ∀ file stmt resolution, .resolved file stmt resolution ∈ events →
      b.baseDir.components ≠ file.sourceDir.components) : events.foldl replay b = b := by
  induction events with
  | nil => rfl
  | cons e events ih =>
      have hfirst : b.replay e = b := by
        cases e with
        | resolved file stmt resolution =>
            exact if_neg (h file stmt resolution (List.mem_cons_self ..))
        | _ => rfl
      rw [List.foldl_cons, hfirst]
      exact ih fun file stmt resolution hmem => h file stmt resolution (List.mem_cons_of_mem _ hmem)

end Bundle

namespace Inventory

def cleared (inv : Inventory) : Inventory := ⟨inv.bundles.map Bundle.cleared⟩

def replay (inv : Inventory) (e : ScanEvent) : Inventory := ⟨inv.bundles.map (·.replay e)⟩

theorem foldl_replay (inv : Inventory) (events : List ScanEvent) :
    events.foldl replay inv = ⟨inv.bundles.map (events.foldl Bundle.replay ·)⟩ := by
  induction events generalizing inv with
  | nil => simp
  | cons e events ih =>
      rw [List.foldl_cons, ih, replay, List.map_map]
      rfl

end Inventory

/-! ## Groups that are declared again -/

/-- A journal in which a declaration that replaces a group comes right after an event that names
this group, and in which there is no other such event. -/
inductive Announced : List ScanEvent → Prop where
  | nil : Announced []
  | other {J : List ScanEvent} {e : ScanEvent} (h : Announced J) (hdeclared : e.declared? = none)
      (hredeclared : ∀ p, e ≠ .redeclared p) : Announced (J ++ [e])
  | first {J : List ScanEvent} {file : Path} {stmt : Statement} {g : Group} (h : Announced J)
      (hnew : latest? g.name (J.filterMap ScanEvent.declared?) = none) :
      Announced (J ++ [.resolved file stmt (.groupDeclared g)])
  | again {J : List ScanEvent} {file : Path} {stmt : Statement} {g p : Group} (h : Announced J)
      (hprevious : latest? g.name (J.filterMap ScanEvent.declared?) = some p) :
      Announced (J ++ [.redeclared p] ++ [.resolved file stmt (.groupDeclared g)])

namespace Announced

variable {J : List ScanEvent}

/-- No announcement is left open. -/
theorem getLast?_ne (h : Announced J) (p : Group) : J.getLast? ≠ some (.redeclared p) := by
  cases h with
  | nil => simp
  | other _ _ hredeclared => simpa using hredeclared p
  | first _ _ => simp
  | again _ _ => simp

theorem of_redeclared (h : Announced J) {before after : List ScanEvent} {p : Group}
    (hJ : J = before ++ .redeclared p :: after) :
    ∃ file stmt g rest, after = .resolved file stmt (.groupDeclared g) :: rest
      ∧ latest? g.name (before.filterMap ScanEvent.declared?) = some p := by
  induction h generalizing after with
  | nil => simp at hJ
  | other _ _ hredeclared ih =>
      rcases concat_eq_append_cons_iff.mp hJ with ⟨-, he, -⟩ | ⟨after, rfl, hrest⟩
      · exact absurd he (hredeclared p)
      · obtain ⟨file, stmt, g, rest, rfl, hprevious⟩ := ih hrest
        exact ⟨file, stmt, g, _, rfl, hprevious⟩
  | first _ _ ih =>
      rcases concat_eq_append_cons_iff.mp hJ with ⟨-, he, -⟩ | ⟨after, rfl, hrest⟩
      · cases he
      · obtain ⟨file, stmt, g, rest, rfl, hprevious⟩ := ih hrest
        exact ⟨file, stmt, g, _, rfl, hprevious⟩
  | again _ hprevious ih =>
      -- The announcement can be the last but one event, or lie before the pair.
      rcases concat_eq_append_cons_iff.mp hJ with ⟨-, he, -⟩ | ⟨after, rfl, hrest⟩
      · cases he
      · rcases concat_eq_append_cons_iff.mp hrest with ⟨rfl, he, rfl⟩ | ⟨after, rfl, hJ'⟩
        · cases he
          exact ⟨_, _, _, [], rfl, hprevious⟩
        · obtain ⟨file, stmt, g, rest, rfl, hprevious⟩ := ih hJ'
          exact ⟨file, stmt, g, _, rfl, hprevious⟩

theorem of_declared (h : Announced J) {before after : List ScanEvent} {file : Path}
    {stmt : Statement} {g : Group}
    (hJ : J = before ++ .resolved file stmt (.groupDeclared g) :: after) (p : Group) :
    before.getLast? = some (.redeclared p)
      ↔ latest? g.name (before.filterMap ScanEvent.declared?) = some p := by
  induction h generalizing after with
  | nil => simp at hJ
  | other _ hdeclared _ ih =>
      rcases concat_eq_append_cons_iff.mp hJ with ⟨-, rfl, -⟩ | ⟨after, -, hrest⟩
      · cases hdeclared
      · exact ih hrest
  | first h hnew ih =>
      rcases concat_eq_append_cons_iff.mp hJ with ⟨rfl, he, -⟩ | ⟨after, -, hrest⟩
      · cases he
        simp [hnew, h.getLast?_ne]
      · exact ih hrest
  | again _ hprevious ih =>
      rcases concat_eq_append_cons_iff.mp hJ with ⟨rfl, he, -⟩ | ⟨after, -, hrest⟩
      · cases he
        simp [List.filterMap_cons, hprevious, ScanEvent.declared?]
      · rcases concat_eq_append_cons_iff.mp hrest with ⟨-, he, -⟩ | ⟨after, -, hrest⟩
        · cases he
        · exact ih hrest

end Announced

/-- The table has the latest group of every name that the journal tells of, and a group that
replaces another is announced. -/
structure GroupTable.Records (groups : GroupTable) (J : List ScanEvent) : Prop where
  table : ∀ name, groups.get? name = latest? name (J.filterMap ScanEvent.declared?)
  announced : Announced J

namespace GroupTable

variable {groups : GroupTable} {J : List ScanEvent}

theorem Records.other (h : groups.Records J) {e : ScanEvent} (hdeclared : e.declared? = none)
    (hredeclared : ∀ p, e ≠ .redeclared p) : groups.Records (J ++ [e]) where
  table name := by
    rw [h.table, List.filterMap_append, List.filterMap_cons_none hdeclared, List.filterMap_nil,
      List.append_nil]
  announced := h.announced.other hdeclared hredeclared

theorem Records.declare (h : groups.Records J) (file : Path) (stmt : Statement) (g : Group) :
    (groups.register g).Records (J ++ (((groups.get? g.name).map ScanEvent.redeclared).toList
      ++ [.resolved file stmt (.groupDeclared g)])) where
  table name := by
    have hevents : (((groups.get? g.name).map ScanEvent.redeclared).toList
        ++ [ScanEvent.resolved file stmt (.groupDeclared g)]).filterMap ScanEvent.declared?
          = [g] := by
      cases groups.get? g.name <;> rfl
    rw [List.filterMap_append, hevents, latest?_concat, get?_register, h.table]
  announced := by
    cases hget : groups.get? g.name with
    | none => exact h.announced.first (by rw [← h.table, hget])
    | some p =>
        rw [Option.map_some, Option.toList_some, ← List.append_assoc]
        exact h.announced.again (by rw [← h.table, hget])

end GroupTable

/-! ## One statement -/

/-- What a statement of a file enters in the journal, and what becomes of its bundle and of the
table of groups. -/
inductive Enters (file : Path) (stmt : Statement) (b : Bundle) (groups : GroupTable) :
    List ScanEvent → Bundle → GroupTable → Prop where
  | declared (g : Group) :
      Enters file stmt b groups (((groups.get? g.name).map ScanEvent.redeclared).toList
        ++ [.resolved file stmt (.groupDeclared g)]) (b.addGroup g) (groups.register g)
  | added (a : Asset) :
      Enters file stmt b groups [.resolved file stmt (.assetAdded a)]
        { b with assets := b.assets ++ [a] } groups
  | duplicate (name : String) :
      Enters file stmt b groups [.resolved file stmt (.duplicateAsset name)] b groups
  | passedOver : Enters file stmt b groups [.passedOver file stmt] b groups

namespace Enters

variable {file : Path} {stmt : Statement} {b b' : Bundle} {groups groups' : GroupTable}
  {events : List ScanEvent}

theorem isOf (h : Enters file stmt b groups events b' groups') : ∀ e ∈ events, e.IsOf file := by
  cases h with
  | declared g => cases groups.get? g.name <;> simp [ScanEvent.IsOf]
  | _ => simp [ScanEvent.IsOf]

theorem cleared_eq (h : Enters file stmt b groups events b' groups') : b'.cleared = b.cleared := by
  cases h <;> rfl

theorem foldl_replay (h : Enters file stmt b groups events b' groups')
    (hdir : b.baseDir.components = file.sourceDir.components) :
    events.foldl Bundle.replay b = b' := by
  cases h with
  | declared g => cases groups.get? g.name <;> simp [Bundle.replay, Bundle.addGroup, hdir]
  | _ => simp [Bundle.replay, hdir]

theorem records (h : Enters file stmt b groups events b' groups') {J : List ScanEvent}
    (hJ : groups.Records J) : groups'.Records (J ++ events) := by
  cases h with
  | declared g => exact hJ.declare file stmt g
  | _ => exact hJ.other rfl (by simp)

end Enters

namespace FileState

/-- A statement fails and leaves everything as it is, or is entered in the journal. -/
theorem resolve_enters (sc : Scanner) (file : Path) (stmt : Statement) (s : FileState) :
    (∃ e, s.resolve sc file stmt = (s, some e) ∧ e.code ≠ .fileTooLarge)
    ∨ ∃ s' events, s.resolve sc file stmt = (s', none)
      ∧ s'.journal.toList = s.journal.toList ++ events
      ∧ Enters file stmt s.bundle s.groups events s'.bundle s'.groups := by
  cases hoff : sc.offends stmt with
  | true =>
      exact .inl ⟨_, resolve_of_error (resolve_of_offends file hoff), by simp [ScanError.code]⟩
  | false =>
      cases hfail : sc.failure? s.bundle.baseDir stmt with
      | some cause =>
          exact .inl ⟨_, resolve_of_error (resolve_of_failure file hfail),
            by simp [ScanError.code]⟩
      | none =>
          -- From here on something is entered, and the effect of the statement says what.
          right
          rw [FileState.resolve, resolve_of_counts file hoff hfail, Scanner.effect]
          cases sc.declared? s.bundle.baseDir stmt with
          | some g => exact ⟨_, _, rfl, by simp [Resolved.events, declareGroup], .declared g⟩
          | none =>
              cases sc.referenceTo? s.groups.get? stmt with
              | none => exact ⟨_, _, rfl, by simp [Resolved.events], .passedOver⟩
              | some a =>
                  dsimp only
                  rw [recordAsset, Bundle.addAsset]
                  cases s.bundle.hasAsset a.name with
                  | true => exact ⟨_, _, rfl, by simp [Resolved.events], .duplicate a.name⟩
                  | false => exact ⟨_, _, rfl, by simp [Resolved.events], .added a⟩

/-! ## One file -/

/-- The statements of a file have led from one state to another: the journal tells what happened to
the bundle and to the groups, and nothing that is not about this file. -/
structure Journaled (file : Path) (start s : FileState) : Prop where
  cleared_eq : s.bundle.cleared = start.bundle.cleared
  replayed : s.journal.toList.foldl Bundle.replay s.bundle.cleared = s.bundle
  records : s.groups.Records s.journal.toList
  entries : ∃ events, s.journal.toList = start.journal.toList ++ events ∧ ∀ e ∈ events, e.IsOf file

variable {file : Path} {start s : FileState}

namespace Journaled

theorem baseDir_eq (h : Journaled file start s) : s.bundle.baseDir = start.bundle.baseDir := by
  have hbase : s.bundle.cleared.baseDir = start.bundle.cleared.baseDir :=
    congrArg Bundle.baseDir h.cleared_eq
  exact hbase

theorem enters (h : Journaled file start s)
    (hdir : start.bundle.baseDir.components = file.sourceDir.components) {stmt : Statement}
    {s' : FileState} {events : List ScanEvent}
    (hjournal : s'.journal.toList = s.journal.toList ++ events)
    (henters : Enters file stmt s.bundle s.groups events s'.bundle s'.groups) :
    Journaled file start s' where
  cleared_eq := henters.cleared_eq.trans h.cleared_eq
  replayed := by
    rw [← h.baseDir_eq] at hdir
    rw [hjournal, List.foldl_append, henters.cleared_eq, h.replayed, henters.foldl_replay hdir]
  records := by
    rw [hjournal]
    exact henters.records h.records
  entries := by
    obtain ⟨earlier, hearlier, hof⟩ := h.entries
    refine ⟨earlier ++ events, by rw [hjournal, hearlier, List.append_assoc], ?_⟩
    intro e he
    exact (List.mem_append.mp he).elim (hof e) (henters.isOf e)

/-- The statements of a file are entered up to the one that fails, if one does. -/
theorem resolveAll (h : Journaled file start s)
    (hdir : start.bundle.baseDir.components = file.sourceDir.components) (sc : Scanner)
    (stmts : List Statement) :
    Journaled file start (s.resolveAll sc file stmts).1
      ∧ ∀ e, (s.resolveAll sc file stmts).2 = some e → e.code ≠ .fileTooLarge := by
  induction stmts generalizing s with
  | nil => exact ⟨h, by simp [FileState.resolveAll]⟩
  | cons stmt stmts ih =>
      rw [FileState.resolveAll]
      rcases resolve_enters sc file stmt s with
        ⟨e, hres, hcode⟩ | ⟨s', events, hres, hjournal, henters⟩
      · rw [hres]
        refine ⟨h, ?_⟩
        rintro _ ⟨⟩
        exact hcode
      · rw [hres]
        exact ih (h.enters hdir hjournal henters)

theorem mem_journal (h : Journaled file start s) {e : ScanEvent} (he : e ∈ s.journal.toList) :
    e ∈ start.journal.toList ∨ e.IsOf file := by
  obtain ⟨events, hjournal, hof⟩ := h.entries
  rw [hjournal, List.mem_append] at he
  exact he.imp_right (hof e)

theorem replayed_other (h : Journaled file start s) {b : Bundle}
    (hb : start.journal.toList.foldl Bundle.replay b.cleared = b)
    (hdir : b.baseDir.components ≠ file.sourceDir.components) :
    s.journal.toList.foldl Bundle.replay b.cleared = b := by
  obtain ⟨events, hjournal, hof⟩ := h.entries
  rw [hjournal, List.foldl_append, hb]
  refine Bundle.foldl_replay_of_other fun f stmt resolution hmem => ?_
  obtain rfl : f = file := hof _ hmem
  exact hdir

theorem causes_eq (h : Journaled file start s) :
    s.journal.toList.filterMap ScanEvent.cause?
      = start.journal.toList.filterMap ScanEvent.cause? := by
  obtain ⟨events, hjournal, hof⟩ := h.entries
  have hnone : events.filterMap ScanEvent.cause? = [] := by
    rw [List.filterMap_eq_nil_iff]
    intro e he
    cases e with
    | abandoned cause => exact (hof _ he).elim
    | _ => rfl
  rw [hjournal, List.filterMap_append, hnone, List.append_nil]

end Journaled

end FileState

/-! ## One input -/

namespace Session

/-- How many inputs a scan is through with: those that it looked into and those that were too
large. -/
def handled (s : Session) : Nat := s.files + s.errors.countP (·.code = .fileTooLarge)

/-- The journal tells what the scan has collected so far, and does not say that it is complete. -/
structure Journaled (s : Session) : Prop where
  indexed : s.registry.Indexed
  replayed : ∀ b ∈ s.registry.bundles.toList, s.journal.toList.foldl Bundle.replay b.cleared = b
  met : ∀ file stmt resolution, .resolved file stmt resolution ∈ s.journal.toList →
    ∃ b ∈ s.registry.bundles.toList, b.baseDir.components = file.sourceDir.components
  records : s.groups.Records s.journal.toList
  errors_eq : s.errors = (s.journal.toList.filterMap ScanEvent.cause?).map .scan
  not_completed : ∀ summary, .completed summary ∉ s.journal.toList

variable {s : Session}

theorem journaled_start (files : Option Nat) : (start files).Journaled where
  indexed := Registry.indexed_empty
  replayed := by simp [start, Registry.empty]
  met := by simp [start]
  records := GroupTable.Records.other
    ⟨fun name => by simp [start, GroupTable.empty, GroupTable.get?, latest?], .nil⟩ rfl (by simp)
  errors_eq := rfl
  not_completed := by simp [start]

theorem Journaled.skip (h : s.Journaled) (cause : ScanError) : (s.skip cause).Journaled where
  indexed := h.indexed
  replayed b hb := by
    rw [Session.skip, Array.toList_push, List.foldl_append, h.replayed b hb]
    rfl
  met file stmt resolution hmem := by
    rw [Session.skip, Array.toList_push, List.mem_append, List.mem_singleton] at hmem
    exact h.met file stmt resolution (hmem.resolve_right (by simp))
  records := by
    rw [Session.skip, Array.toList_push]
    exact h.records.other rfl (by simp)
  errors_eq := by simp [Session.skip, h.errors_eq, ScanEvent.cause?]
  not_completed := by simpa [Session.skip] using h.not_completed

theorem Journaled.meet (h : s.Journaled) (cause : ScanError) :
    (s.meet cause).1.Journaled
      ∧ ((s.meet cause).2 = none → (s.meet cause).1.handled
          = s.handled + if cause.code = .fileTooLarge then 1 else 0) := by
  rw [Session.meet]
  split
  · refine ⟨h.skip cause, fun _ => ?_⟩
    by_cases hcode : cause.code = .fileTooLarge <;>
      simp [handled, Session.skip, Error.code, hcode, Nat.add_assoc]
  · exact ⟨h, fun hgo => by cases hgo⟩

/-- The bundle of a directory that is entered is told of, also if it was opened only now. -/
theorem Journaled.opened (h : s.Journaled) {dir caller : Path} {package : String} {b : Bundle}
    (hb : b ∈ Registry.opened s.registry.bundles.toList dir caller package) :
    s.journal.toList.foldl Bundle.replay b.cleared = b := by
  rw [Registry.opened] at hb
  split at hb
  · exact h.replayed b hb
  · rename_i hnew
    rcases List.mem_append.mp hb with hb | hb
    · exact h.replayed b hb
    · obtain rfl := List.mem_singleton.mp hb
      -- An event of this directory would have opened its bundle.
      refine Bundle.foldl_replay_of_other fun file stmt resolution hmem hdir => hnew ?_
      obtain ⟨c, hc, hcdir⟩ := h.met file stmt resolution hmem
      exact List.any_eq_true.mpr ⟨c, hc, beq_iff_eq.mpr (hcdir.trans hdir.symm)⟩

/-- The file of a bundle that was entered is done: its bundle takes the place of the one that was
entered, and all others stay. -/
theorem Journaled.put (h : s.Journaled) {r : Registry} {i : Nat} {b : Bundle} (hr : r.Indexed)
    {file : Path} {package : String}
    (hlist : r.bundles.toList
      = Registry.opened s.registry.bundles.toList file.sourceDir file package)
    (hi : r.bundles.toList[i]? = some b)
    (hdir : b.baseDir.components = file.sourceDir.components) {state : FileState}
    (hstate : FileState.Journaled file ⟨b, s.groups, s.journal⟩ state) :
    Journaled { s with
      registry := r.update i state.bundle
      groups := state.groups
      files := s.files + 1
      journal := state.journal } := by
  have hupdate := Registry.toList_update hr hi state.bundle
  -- Every directory that was met has a bundle still.
  have hkeep : ∀ c ∈ r.bundles.toList, ∃ c' ∈ (r.update i state.bundle).bundles.toList,
      c'.baseDir.components = c.baseDir.components := by
    intro c hc
    refine ⟨_, hupdate ▸ List.mem_map_of_mem hc, ?_⟩
    split
    · rename_i hsame
      rw [hstate.baseDir_eq, hsame]
    · rfl
  refine ⟨hr.update hi hstate.baseDir_eq, ?_, ?_, hstate.records, ?_, ?_⟩
  · intro c' hc'
    rw [hupdate] at hc'
    obtain ⟨c, hc, rfl⟩ := List.mem_map.mp hc'
    split
    · exact hstate.replayed
    · rename_i hother
      exact hstate.replayed_other (h.opened (hlist ▸ hc)) (hdir ▸ hother)
  · intro f stmt resolution hmem
    rcases hstate.mem_journal hmem with hmem | hof
    · obtain ⟨c, hc, hcdir⟩ := h.met f stmt resolution hmem
      have hc : c ∈ r.bundles.toList := hlist ▸ Registry.mem_opened_of_mem hc
      obtain ⟨c', hc', hsame⟩ := hkeep c hc
      exact ⟨c', hc', hsame.trans hcdir⟩
    · obtain rfl : f = file := hof
      obtain ⟨c', hc', hsame⟩ := hkeep b (List.mem_of_getElem? hi)
      exact ⟨c', hc', hsame.trans hdir⟩
  · rw [hstate.causes_eq]
    exact h.errors_eq
  · intro summary hmem
    rcases hstate.mem_journal hmem with hmem | hof
    · exact h.not_completed summary hmem
    · exact hof

theorem Journaled.scanTree (h : s.Journaled) (sc : Scanner) (file : Path) (tree : SourceTree) :
    (s.scanTree sc file tree).1.Journaled
      ∧ ((s.scanTree sc file tree).2 = none →
          (s.scanTree sc file tree).1.handled = s.handled + 1) := by
  obtain ⟨r, i, b, henter, hr, hlist, hi, hdir⟩ :=
    Registry.enter_eq h.indexed file.sourceDir file tree.package
  have hstart : FileState.Journaled file ⟨b, s.groups, s.journal⟩ ⟨b, s.groups, s.journal⟩ :=
    ⟨rfl, h.opened (hlist ▸ List.mem_of_getElem? hi), h.records, [], by simp, by simp⟩
  obtain ⟨hstate, hcode⟩ :=
    hstart.resolveAll hdir sc (tree.root.preorder.filterMap Tree.statement?)
  rw [scanTree_of_enter henter hi]
  generalize FileState.resolveAll sc file ⟨b, s.groups, s.journal⟩ _ = result at hstate hcode ⊢
  obtain ⟨state, stop⟩ := result
  have hput := h.put hr hlist hi hdir hstate
  cases stop with
  | none => exact ⟨hput, fun _ => Nat.add_right_comm ..⟩
  | some cause =>
      -- The file counts as looked into, and its error is none of size.
      obtain ⟨hmeet, hhandled⟩ := hput.meet cause
      refine ⟨hmeet, fun hgo => (hhandled hgo).trans ?_⟩
      rw [if_neg (hcode cause rfl)]
      exact Nat.add_right_comm s.files 1 _

theorem code_of_tooLarge? {sc : Scanner} {file : Path} {size : Nat} {cause : ScanError}
    (h : tooLarge? sc file size = some cause) : cause.code = .fileTooLarge := by
  rw [tooLarge?] at h
  split at h
  · split at h
    · obtain rfl := Option.some.inj h
      rfl
    · cases h
  · cases h

/-- Scanning an input keeps the journal right, also if it ends the scan. -/
theorem Journaled.scanSource (h : s.Journaled) (sc : Scanner) (input : Path × String) :
    (Session.scanSource sc input s).1.Journaled
      ∧ ((Session.scanSource sc input s).2 = none →
          (Session.scanSource sc input s).1.handled = s.handled + 1) := by
  obtain ⟨file, source⟩ := input
  rw [Session.scanSource]
  cases hlarge : tooLarge? sc file source.utf8ByteSize with
  | some cause =>
      have hmeet := h.meet cause
      rwa [if_pos (code_of_tooLarge? hlarge)] at hmeet
  | none =>
      simp only [scanText]
      cases parseSource sc.recover file source with
      | error e => exact ⟨h, fun hgo => by cases hgo⟩
      | ok tree => exact h.scanTree sc file tree

/-! ## All inputs -/

theorem Journaled.scanAll (h : s.Journaled) (sc : Scanner) (inputs : List (Path × String)) :
    (Session.scanAll (Session.scanSource sc) s inputs).1.Journaled
      ∧ ((Session.scanAll (Session.scanSource sc) s inputs).2 = none →
          (Session.scanAll (Session.scanSource sc) s inputs).1.handled
            = s.handled + inputs.length) := by
  induction inputs generalizing s with
  | nil => exact ⟨h, fun _ => rfl⟩
  | cons input inputs ih =>
      obtain ⟨hfirst, hhandled⟩ := h.scanSource sc input
      rw [Session.scanAll]
      generalize Session.scanSource sc input s = result at hfirst hhandled ⊢
      obtain ⟨s', stop⟩ := result
      cases stop with
      | some e => exact ⟨hfirst, fun hgo => by cases hgo⟩
      | none =>
          obtain ⟨hrest, hcount⟩ := ih hfirst
          refine ⟨hrest, fun hgo => (hcount hgo).trans ?_⟩
          rw [hhandled rfl, List.length_cons]
          omega

end Session

/-! ## Whole scans -/

/-- An event warns of an error: it gives the error's code and its text, without the words that say
what kind of error it is. -/
def ScanEvent.Warns (e : ScanEvent) (error : Error) : Prop :=
  ∃ text, e.record = .event .warn scanTarget
      [("message", "file abandoned; continuing scan"), ("code", error.code.text), ("error", text)]
    ∧ error.message = "Scan error: " ++ text

theorem ScanEvent.forall₂_warns (J : List ScanEvent) :
    List.Forall₂ Warns (J.filter fun e => e.record.level = .warn)
      ((J.filterMap cause?).map .scan) := by
  induction J with
  | nil => exact .nil
  | cons e J ih =>
      cases e with
      | abandoned cause => exact .cons ⟨cause.message, rfl, rfl⟩ ih
      | _ => exact ih

/-- What the journal of a scan says that went through a number of inputs and came to `outcome`. -/
structure ScanReport.Recounts (report : ScanReport) (inputs : Nat) (outcome : Outcome Inventory) :
    Prop where
  /-- Replayed in order, the journal rebuilds the groups and the assets of every bundle. -/
  replay : report.journal.foldl Inventory.replay outcome.data.cleared = outcome.data
  /-- A statement that is replayed has a bundle. -/
  met : ∀ file stmt resolution, .resolved file stmt resolution ∈ report.journal →
    ∃ b, outcome.data.bundleFor? file.sourceDir = some b
  /-- An event that a group is declared again comes right before a declaration of the name, and
  tells of the latest declaration of this name before it. -/
  redeclared : ∀ before p after, report.journal = before ++ .redeclared p :: after →
    ∃ file stmt g rest, after = .resolved file stmt (.groupDeclared g) :: rest
      ∧ latest? g.name (before.filterMap ScanEvent.declared?) = some p
      ∧ (ScanEvent.redeclared p).record = .event .debug ScanEvent.resolveTarget
          [("message", "group identifier redeclared"), ("group", g.name),
           ("previous", p.fullPath.text)]
  /-- A declaration comes right after such an event exactly if its name was declared before. -/
  announced : ∀ before file stmt g after,
    report.journal = before ++ .resolved file stmt (.groupDeclared g) :: after →
    ∀ p, before.getLast? = some (.redeclared p)
      ↔ latest? g.name (before.filterMap ScanEvent.declared?) = some p
  /-- The warnings are the errors, one by one. -/
  warnings : List.Forall₂ ScanEvent.Warns (report.journal.filter fun e => e.record.level = .warn)
    outcome.errors
  /-- The last event is the only summary. Files that were too large are not among its files. -/
  summary : ∃ body summary, report.journal = body ++ [.completed summary]
    ∧ (∀ other, .completed other ∉ body)
    ∧ summary.files + outcome.errors.countP (·.code = .fileTooLarge) = inputs
    ∧ summary.bundles = outcome.data.size
    ∧ summary.groups = outcome.data.groupCount
    ∧ summary.assets = outcome.data.assetCount
    ∧ summary.skipped = outcome.errorCount

theorem Session.Journaled.recounts {s : Session} (h : s.Journaled) :
    (Session.report (s, none)).Recounts s.handled
      { data := s.registry.inventory, errors := s.errors } := by
  have hjournal : (Session.report (s, none)).journal
      = s.journal.toList ++ [.completed s.summary] := Array.toList_push ..
  have hannounced : Announced (Session.report (s, none)).journal := by
    rw [hjournal]
    exact h.records.announced.other rfl (by simp)
  constructor
  case replay =>
    rw [Inventory.foldl_replay, Inventory.cleared, Registry.inventory, List.map_map, hjournal]
    congr 1
    refine (List.map_congr_left fun b hb => ?_).trans (List.map_id _)
    rw [Function.comp_apply, List.foldl_append, h.replayed b hb]
    rfl
  case met =>
    intro file stmt resolution hmem
    rw [hjournal, List.mem_append, List.mem_singleton] at hmem
    obtain ⟨b, hb, hdir⟩ := h.met file stmt resolution (hmem.resolve_right (by simp))
    exact Option.isSome_iff_exists.mp (List.find?_isSome.mpr ⟨b, hb, beq_iff_eq.mpr hdir⟩)
  case redeclared =>
    intro before p after hsplit
    obtain ⟨file, stmt, g, rest, hafter, hprevious⟩ := hannounced.of_redeclared hsplit
    refine ⟨file, stmt, g, rest, hafter, hprevious, ?_⟩
    rw [ScanEvent.record, name_of_latest? hprevious]
  case announced =>
    intro before file stmt g after hsplit
    exact hannounced.of_declared hsplit
  case warnings =>
    have hcauses : (Session.report (s, none)).journal.filterMap ScanEvent.cause?
        = s.journal.toList.filterMap ScanEvent.cause? := by
      simp [hjournal, ScanEvent.cause?]
    have hwarns := ScanEvent.forall₂_warns (Session.report (s, none)).journal
    rwa [hcauses, ← h.errors_eq] at hwarns
  case summary =>
    exact ⟨_, s.summary, hjournal, h.not_completed, rfl, rfl, rfl, rfl, rfl⟩

namespace Scanner

/-- The journal is a faithful account of the scan. If the scan succeeds, its journal recounts what
it came to; if it fails, the journal has no summary. -/
theorem scanSources_journal (sc : Scanner) (inputs : List (Path × String)) :
    (∀ outcome, (sc.scanSources inputs).result = .ok outcome →
      (sc.scanSources inputs).Recounts inputs.length outcome)
    ∧ ∀ e, (sc.scanSources inputs).result = .error e →
      ∀ summary, .completed summary ∉ (sc.scanSources inputs).journal := by
  obtain ⟨hjournaled, hhandled⟩ := (Session.journaled_start none).scanAll sc inputs
  rw [scanSources]
  generalize Session.scanAll (Session.scanSource sc) (Session.start none) inputs = result
    at hjournaled hhandled ⊢
  obtain ⟨s, stop⟩ := result
  cases stop with
  | some e =>
      constructor
      · rintro outcome ⟨⟩
      · intro e' _
        exact hjournaled.not_completed
  | none =>
      constructor
      · intro outcome hok
        obtain rfl := Except.ok.inj hok
        have hlength : s.handled = inputs.length := (hhandled rfl).trans (Nat.zero_add _)
        rw [← hlength]
        exact hjournaled.recounts
      · rintro e ⟨⟩

/-- A scanner with a size limit, for which one directory cannot be found. -/
def guardedScanner : Scanner where
  ns := "assets"
  limit := some 120
  locate := fun base literal =>
    if literal = "gone" then .error .notFound else .ok (Path.groupDir ⟨"/w"⟩ base literal)
  recover := faultless

/-- A group that is declared in two files, an asset that is referred to twice, a group whose
directory cannot be found and a file that is too large. -/
def eventfulFiles : List (Path × String) :=
  [(⟨"a/x.go"⟩, Layout.tabbed.text "a" [⟨"img", ⟨"assets", "Group", "img"⟩⟩,
      ⟨"logo", ⟨"img", "String", "logo.png"⟩⟩]),
    (⟨"b/y.go"⟩, Layout.tabbed.text "b" [⟨"img", ⟨"assets", "Group", "../img"⟩⟩,
      ⟨"lost", ⟨"assets", "Group", "gone"⟩⟩]),
    (⟨"a/z.go"⟩, Layout.tabbed.text "a" [⟨"again", ⟨"img", "Bytes", "logo.png"⟩⟩]),
    (⟨"c/large.go"⟩, Layout.tabbed.text "c"
      (List.replicate 4 ⟨"icon", ⟨"assets", "Bytes", "icon.png"⟩⟩))]

theorem scanSources_journal_eventfulFiles :
    ∃ outcome, (guardedScanner.scanSources eventfulFiles).result = .ok outcome
      ∧ (guardedScanner.scanSources eventfulFiles).Recounts 4 outcome := by
  have hfatal : eventfulFiles.findSome? guardedScanner.fatal? = none := by
    rw [List.findSome?_eq_none_iff, eventfulFiles]
    simp only [List.forall_mem_cons]
    exact ⟨fatal?_text _ _ (by decide) (by decide) (by decide),
      fatal?_text _ _ (by decide) (by decide) (by decide),
      fatal?_text _ _ (by decide) (by decide) (by decide),
      fatal?_text _ _ (by decide) (by decide) (by decide), List.forall_mem_nil _⟩
  have hok := scanSources_of_not_fatal hfatal
  exact ⟨_, hok, (scanSources_journal guardedScanner eventfulFiles).1 _ hok⟩

end Scanner

end GoAssets
