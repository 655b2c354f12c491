import GoAssets.Proofs.Go.Recovery
import GoAssets.Proofs.Scan.Session
import GoAssets.Proofs.Syntax.Lowering
import Mathlib.Data.List.TakeWhile

/-!
# The errors of a scan

A scan fails exactly if one of its inputs ends it, with the error of the first such input. It ends
at a text that cannot be read and at a call on the namespace of a method that there is not, unless
the file was given up before that call. Otherwise it reports one error for each input that was too
large or given up, in order.

`Scanner.EndsWith` and `Scanner.Notes` say so about the text of an input and its statements, without
reference to the order in which a scan looks at them. `Rejected` says the same about the reason why a
text cannot be read, with the line, the column and the number of faults that are reported.
-/

namespace GoAssets

/-- The first element with a property before the first one with another. -/
theorem find?_takeWhile_eq_some_iff {α : Type} {p q : α → Bool} {xs : List α} {x : α} :
    (xs.takeWhile p).find? q = some x ↔
      ∃ before after, xs = before ++ x :: after ∧ (∀ y ∈ before, p y = true ∧ q y = false)
        ∧ p x = true ∧ q x = true := by
  constructor
  · intro h
    obtain ⟨hq, before, after, htake, hbefore⟩ := List.find?_eq_some_iff_append.mp h
    have hp : ∀ y ∈ before ++ x :: after, p y = true := by
      intro y hy
      rw [← htake] at hy
      exact List.mem_takeWhile_imp hy
    refine ⟨before, after ++ xs.dropWhile p, ?_, ?_, hp x (by simp), hq⟩
    · rw [← List.cons_append, ← List.append_assoc, ← htake, List.takeWhile_append_dropWhile]
    · intro y hy
      exact ⟨hp y (List.mem_append_left _ hy), by simpa using hbefore y hy⟩
  · rintro ⟨before, after, rfl, hbefore, hp, hq⟩
    refine List.find?_eq_some_iff_append.mpr ⟨hq, before, after.takeWhile p, ?_, ?_⟩
    · rw [List.takeWhile_append_of_pos fun y hy => (hbefore y hy).1,
        List.takeWhile_cons_of_pos hp]
    · intro y hy
      simpa using (hbefore y hy).2

/-! ## Texts that cannot be read -/

/-- Why a text cannot be read: the grammar has no reading for it, or one without a package clause. In
the first case the report has the place of the first fault of the tree that is recovered, with lines
and columns counted from one, and the number of faults. -/
inductive Rejected (recover : String → Go.Recovered) : Path × String → SourceError → Prop where
  | malformed {file : Path} {source : String} (hnode : Go.parseNode source.toList = none) :
      Rejected recover (file, source)
        (.malformed file ((recover source).firstFault.start.row + 1)
          ((recover source).firstFault.start.column + 1) (recover source).faults.length)
  | unpackaged {file : Path} {source : String} {node : Go.Node}
      (hnode : Go.parseNode source.toList = some node) (hpackage : packageName? node = none) :
      Rejected recover (file, source) (.missingPackage file)

theorem malformedAs_eq (file : Path) (root : Go.Recovered) :
    malformedAs file root = .malformed file (root.firstFault.start.row + 1)
      (root.firstFault.start.column + 1) root.faults.length := by
  rw [malformedAs, Go.Recovered.first_search_getD, Go.Recovered.search_eq]

/-- What the grammar reads is a file, with the package of its clause. -/
theorem lower_of_parseNode {cs : List Char} {node : Go.Node} (h : Go.parseNode cs = some node) :
    ∃ body, lower node = .file (packageName? node) body := by
  obtain ⟨items, -, h⟩ := Option.bind_eq_some_iff.mp h
  obtain ⟨nodes, -, h⟩ := Option.bind_eq_some_iff.mp h
  obtain rfl := Option.some.inj h
  have hstart : startLowering (Go.Node.inner "source_file" nodes.value) = .branch
      { shape := .file (packageName? (Go.Node.inner "source_file" nodes.value))
        pending := (Go.Node.inner "source_file" nodes.value).parts } := rfl
  rw [lower_eq_lowerTree, lowerTree_of_branch hstart]
  exact ⟨_, rfl⟩

theorem parseSource_eq_error_iff {recover : String → Go.Recovered} {file : Path} {source : String}
    {cause : SourceError} :
    parseSource recover file source = .error cause ↔ Rejected recover (file, source) cause := by
  constructor
  · intro h
    rw [parseSource] at h
    cases hnode : Go.parseNode source.toList with
    | none =>
        rw [hnode, malformedAs_eq] at h
        obtain rfl := Except.error.inj h
        exact .malformed hnode
    | some node =>
        obtain ⟨body, hlower⟩ := lower_of_parseNode hnode
        simp only [hnode, hlower] at h
        cases hpackage : packageName? node with
        | none =>
            rw [hpackage] at h
            obtain rfl := Except.error.inj h
            exact .unpackaged hnode hpackage
        | some package =>
            rw [hpackage] at h
            cases h
  · intro h
    cases h with
    | malformed hnode => rw [parseSource, hnode, malformedAs_eq]
    | unpackaged hnode hpackage =>
        obtain ⟨body, hlower⟩ := lower_of_parseNode hnode
        rw [parseSource, hnode]
        simp only [hlower, hpackage]

namespace Scanner

/-! ## The errors of one input -/

/-- An input ends a scan with an error: its text cannot be read, or a statement offends and none
before it does or is a group whose directory cannot be found. -/
inductive EndsWith (sc : Scanner) : Path × String → Error → Prop where
  | unread {file : Path} {source : String} {cause : SourceError} (hsize : sc.admits source = true)
      (hparse : parseSource sc.recover file source = .error cause) :
      EndsWith sc (file, source) (.source cause)
  | unknown {file : Path} {source : String} {tree : SourceTree} {before after : List Statement}
      {stmt : Statement} (hsize : sc.admits source = true)
      (hparse : parseSource sc.recover file source = .ok tree)
      (hstatements : tree.root.preorder.filterMap Tree.statement? = before ++ stmt :: after)
      (hbefore : ∀ t ∈ before, sc.failure? file.sourceDir t = none ∧ sc.offends t = false)
      (hoffends : sc.offends stmt = true) :
      EndsWith sc (file, source) (.scan (.unknownMethod sc.ns stmt.call.method file))

/-- An input has an error that is only noted: it is too large, or the directory of a group cannot be
found and that is so of no group before it. -/
inductive Notes (sc : Scanner) : Path × String → ScanError → Prop where
  | tooLarge {file : Path} {source : String} {limit : UInt64} (hlimit : sc.limit = some limit)
      (hsize : limit.toNat < source.utf8ByteSize) :
      Notes sc (file, source) (.fileTooLarge file source.utf8ByteSize limit.toNat)
  | lost {file : Path} {source : String} {tree : SourceTree} {before after : List Statement}
      {stmt : Statement} {cause : IoFailure} (hsize : sc.admits source = true)
      (hparse : parseSource sc.recover file source = .ok tree)
      (hstatements : tree.root.preorder.filterMap Tree.statement? = before ++ stmt :: after)
      (hbefore : ∀ t ∈ before, sc.failure? file.sourceDir t = none)
      (hfailure : sc.failure? file.sourceDir stmt = some cause) :
      Notes sc (file, source) (.groupPath file stmt.call.path cause)

variable {sc : Scanner} {input : Path × String}

theorem offends_iff {stmt : Statement} :
    sc.offends stmt = true ↔ stmt.call.receiver = sc.ns ∧ stmt.call.method ∉ knownMethods := by
  simp [offends]

/-- A method that there is not declares no group. -/
theorem failure?_of_offends {stmt : Statement} (h : sc.offends stmt = true) (dir : Path) :
    sc.failure? dir stmt = none := by
  have hmethod : stmt.call.method ≠ "Group" := by
    intro hgroup
    exact (offends_iff.mp h).2 (by simp [hgroup, knownMethods])
  rw [failure?, if_neg]
  simp [declares, hmethod]

theorem fatal?_eq_some_iff {e : Error} : sc.fatal? input = some e ↔ sc.EndsWith input e := by
  obtain ⟨file, source⟩ := input
  by_cases hsize : sc.admits source = true
  · cases hparse : parseSource sc.recover file source with
    | error cause =>
        rw [fatal?, if_pos hsize, hparse]
        constructor
        · rintro ⟨⟩
          exact .unread hsize hparse
        · rintro (⟨-, h⟩ | ⟨-, h, -, -, -⟩)
          · rw [hparse] at h
            rw [Except.error.inj h]
          · rw [hparse] at h
            cases h
    | ok tree =>
        rw [fatal?, if_pos hsize, hparse]
        simp only [Option.map_eq_some_iff, reached, find?_takeWhile_eq_some_iff]
        constructor
        · rintro ⟨stmt, ⟨before, after, hstatements, hbefore, -, hoffends⟩, rfl⟩
          refine .unknown hsize hparse hstatements ?_ hoffends
          intro t ht
          exact ⟨Option.isNone_iff_eq_none.mp (hbefore t ht).1, (hbefore t ht).2⟩
        · intro hends
          cases hends with
          | unread _ h =>
              rw [hparse] at h
              cases h
          | unknown _ h hstatements hbefore hoffends =>
              rw [hparse] at h
              cases h
              refine ⟨_, ⟨_, _, hstatements, ?_, ?_, hoffends⟩, rfl⟩
              · intro t ht
                exact ⟨Option.isNone_iff_eq_none.mpr (hbefore t ht).1, (hbefore t ht).2⟩
              · exact Option.isNone_iff_eq_none.mpr (failure?_of_offends hoffends _)
  · rw [fatal?, if_neg hsize]
    constructor
    · rintro ⟨⟩
    · rintro (⟨h, -⟩ | ⟨h, -, -, -, -⟩) <;> exact absurd h hsize

/-- An input ends a scan if it cannot be read or if any statement offends that stands before every
group whose directory cannot be found. -/
theorem exists_endsWith_iff : (∃ e, sc.EndsWith input e) ↔
    sc.admits input.2 = true ∧ ((∃ cause, parseSource sc.recover input.1 input.2 = .error cause) ∨
      ∃ tree before stmt after, parseSource sc.recover input.1 input.2 = .ok tree
        ∧ tree.root.preorder.filterMap Tree.statement? = before ++ stmt :: after
        ∧ (∀ t ∈ before, sc.failure? input.1.sourceDir t = none)
        ∧ stmt.call.receiver = sc.ns ∧ stmt.call.method ∉ knownMethods) := by
  obtain ⟨file, source⟩ := input
  constructor
  · rintro ⟨e, h⟩
    cases h with
    | unread hsize hparse => exact ⟨hsize, .inl ⟨_, hparse⟩⟩
    | unknown hsize hparse hstatements hbefore hoffends =>
        exact ⟨hsize, .inr ⟨_, _, _, _, hparse, hstatements, fun t ht => (hbefore t ht).1,
          offends_iff.mp hoffends⟩⟩
  · rintro ⟨hsize, ⟨cause, hparse⟩ | ⟨tree, before, stmt, after, hparse, hstatements, hbefore,
      hoffends⟩⟩
    · exact ⟨_, .unread hsize hparse⟩
    -- `stmt` need not be the first statement that offends, so the error may be that of another.
    have hreached : stmt ∈ sc.reached (.ofTree file tree) := by
      rw [reached, SourceFile.ofTree, hstatements, List.takeWhile_append_of_pos,
        List.takeWhile_cons_of_pos]
      · simp
      · exact Option.isNone_iff_eq_none.mpr (failure?_of_offends (offends_iff.mpr hoffends) _)
      · intro t ht
        exact Option.isNone_iff_eq_none.mpr (hbefore t ht)
    obtain ⟨first, hfirst⟩ := Option.isSome_iff_exists.mp
      (List.find?_isSome.mpr ⟨stmt, hreached, offends_iff.mpr hoffends⟩)
    refine ⟨.scan (.unknownMethod sc.ns first.call.method file), fatal?_eq_some_iff.mp ?_⟩
    simp only [fatal?, if_pos hsize, hparse, hfirst, Option.map_some]

theorem noted?_eq_some_iff {e : ScanError} : sc.noted? input = some e ↔ sc.Notes input e := by
  obtain ⟨file, source⟩ := input
  by_cases hsize : sc.admits source = true
  · rw [noted?, if_pos hsize]
    simp only [Option.bind_eq_some_iff, Option.map_eq_some_iff, sourceFile?_eq_some_iff,
      List.findSome?_eq_some_iff]
    constructor
    · rintro ⟨f, ⟨-, tree, hparse, rfl⟩, before, stmt, after, hstatements, ⟨cause, hfailure, rfl⟩,
        hbefore⟩
      refine .lost hsize hparse hstatements ?_ hfailure
      intro t ht
      exact Option.map_eq_none_iff.mp (hbefore t ht)
    · intro h
      cases h with
      | tooLarge hlimit hsize' =>
          rw [admits, hlimit, decide_eq_true_eq] at hsize
          exact absurd hsize' (Nat.not_lt.mpr hsize)
      | @lost _ _ tree before after stmt cause _ hparse hstatements hbefore hfailure =>
          refine ⟨_, ⟨hsize, tree, hparse, rfl⟩, before, stmt, after, hstatements,
            ⟨cause, hfailure, rfl⟩, ?_⟩
          intro t ht
          exact Option.map_eq_none_iff.mpr (hbefore t ht)
  · rw [noted?, if_neg hsize]
    simp only [Option.map_eq_some_iff]
    constructor
    · rintro ⟨limit, hlimit, rfl⟩
      refine .tooLarge hlimit ?_
      rwa [admits, hlimit, decide_eq_true_eq, Nat.not_le] at hsize
    · intro h
      cases h with
      | tooLarge hlimit _ => exact ⟨_, hlimit, rfl⟩
      | lost h => exact absurd h hsize

/-! ## The errors of a scan -/

theorem scanSources_eq_error_iff {inputs : List (Path × String)} {e : Error} :
    (sc.scanSources inputs).result = .error e ↔ inputs.findSome? sc.fatal? = some e := by
  cases h : inputs.findSome? sc.fatal? with
  | some e' =>
      rw [scanSources_of_fatal h]
      constructor
      · rintro ⟨⟩
        rfl
      · rintro ⟨⟩
        rfl
  | none =>
      rw [scanSources_of_not_fatal h]
      constructor <;> rintro ⟨⟩

/-- The errors of a scan. It fails if and only if some input within the size limit cannot be read or
has a statement that calls on the namespace a method that there is not, before any group whose
directory cannot be found; the error is that of the first such input, and of the first such
statement in it. Otherwise it reports an inventory, and the errors are those of the inputs that were
too large or given up, at most one of each, in order. The error of a text that cannot be read is that
of its first fault, or that its package is missing. -/
theorem scanSources_errors (sc : Scanner) (inputs : List (Path × String)) :
    ((∃ e, (sc.scanSources inputs).result = .error e) ↔
      ∃ file source, (file, source) ∈ inputs ∧ sc.admits source = true
        ∧ ((∃ cause, parseSource sc.recover file source = .error cause) ∨
          ∃ tree before stmt after, parseSource sc.recover file source = .ok tree
            ∧ tree.root.preorder.filterMap Tree.statement? = before ++ stmt :: after
            ∧ (∀ t ∈ before, sc.failure? file.sourceDir t = none)
            ∧ stmt.call.receiver = sc.ns ∧ stmt.call.method ∉ knownMethods))
    ∧ (∀ e, (sc.scanSources inputs).result = .error e ↔
      ∃ before input after, inputs = before ++ input :: after ∧ sc.EndsWith input e
        ∧ ∀ i ∈ before, ¬ ∃ e', sc.EndsWith i e')
    ∧ ((¬ ∃ e, (sc.scanSources inputs).result = .error e) →
      ∃ outcome, (sc.scanSources inputs).result = .ok outcome
        ∧ outcome.errors = (inputs.filterMap sc.noted?).map .scan)
    ∧ (∀ input e, sc.noted? input = some e ↔ sc.Notes input e)
    ∧ ∀ file source cause,
      parseSource sc.recover file source = .error cause ↔ Rejected sc.recover (file, source) cause := by
  have hnone : ∀ input, sc.fatal? input = none ↔ ¬ ∃ e, sc.EndsWith input e := by
    intro input
    simp only [← fatal?_eq_some_iff, ← Option.isSome_iff_exists, Option.not_isSome_iff_eq_none]
  refine ⟨?_, ?_, ?_, fun _ _ => noted?_eq_some_iff, fun _ _ _ => parseSource_eq_error_iff⟩
  · simp only [scanSources_eq_error_iff, ← Option.isSome_iff_exists, List.findSome?_isSome_iff]
    constructor
    · rintro ⟨⟨file, source⟩, hmem, hfatal⟩
      obtain ⟨e, he⟩ := Option.isSome_iff_exists.mp hfatal
      exact ⟨file, source, hmem, exists_endsWith_iff.mp ⟨e, fatal?_eq_some_iff.mp he⟩⟩
    · rintro ⟨file, source, hmem, h⟩
      obtain ⟨e, he⟩ : ∃ e, sc.EndsWith (file, source) e := exists_endsWith_iff.mpr h
      exact ⟨(file, source), hmem, Option.isSome_iff_exists.mpr ⟨e, fatal?_eq_some_iff.mpr he⟩⟩
  · intro e
    rw [scanSources_eq_error_iff, List.findSome?_eq_some_iff]
    simp only [fatal?_eq_some_iff, hnone]
  · intro h
    have hfatal : inputs.findSome? sc.fatal? = none := by
      rw [← Option.not_isSome_iff_eq_none, Option.isSome_iff_exists]
      simpa only [scanSources_eq_error_iff] using h
    exact ⟨_, scanSources_of_not_fatal hfatal, rfl⟩

end Scanner

end GoAssets
