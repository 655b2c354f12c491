import GoAssets.Path.Clean

/-!
# The directory of a source file has one spelling

A bundle is looked up by the components of its directory and keeps the first spelling of it. This
file shows that no two spellings meet: `Path.sourceDir` spells a cleaned list of components in the
plainest way, so reading it back gives the list (`components_ofCleaned`), and two source
directories with the same components are the same text (`sourceDir_eq_of_components_eq`).

The work is in `components_push`: appending a segment to a text appends one component.
-/

namespace GoAssets.Path

/-! ## Segments -/

theorem splitSlash_ne_nil (cs : List Char) : splitSlash cs ≠ [] := by
  cases cs with
  | nil => simp [splitSlash]
  | cons c cs =>
      rw [splitSlash]
      split
      · exact List.cons_ne_nil _ _
      · split <;> exact List.cons_ne_nil _ _

/-- A slash separates: the segments before it are followed by the segments after it. -/
theorem splitSlash_append_slash (xs ys : List Char) :
    splitSlash (xs ++ '/' :: ys) = splitSlash xs ++ splitSlash ys := by
  induction xs with
  | nil => simp [splitSlash]
  | cons x xs ih =>
      rw [List.cons_append, splitSlash, splitSlash, ih]
      split
      · rfl
      · obtain ⟨s, ss, h⟩ := List.exists_cons_of_ne_nil (splitSlash_ne_nil xs)
        simp [h]

theorem splitSlash_eq_singleton {cs : List Char} (h : '/' ∉ cs) : splitSlash cs = [cs] := by
  induction cs with
  | nil => rfl
  | cons c cs ih =>
      obtain ⟨hc, hcs⟩ := not_or.mp (mt List.mem_cons.mpr h)
      rw [splitSlash, if_neg (by simpa using Ne.symm hc), ih hcs]

theorem slash_not_mem_of_mem_splitSlash {cs segment : List Char} (h : segment ∈ splitSlash cs) :
    '/' ∉ segment := by
  induction cs generalizing segment with
  | nil =>
      obtain rfl := List.mem_singleton.mp h
      exact List.not_mem_nil
  | cons c cs ih =>
      obtain ⟨s, ss, hs⟩ := List.exists_cons_of_ne_nil (splitSlash_ne_nil cs)
      rw [splitSlash, hs] at h
      rw [hs] at ih
      split at h
      · rcases List.mem_cons.mp h with rfl | h
        · exact List.not_mem_nil
        · exact ih h
      · rename_i hc
        rcases List.mem_cons.mp h with rfl | h
        · rintro hmem
          rcases List.mem_cons.mp hmem with rfl | hmem
          · exact hc rfl
          · exact ih (List.mem_cons_self ..) hmem
        · exact ih (List.mem_cons_of_mem _ h)

/-! ## Steps

A *step* is a component that may stand anywhere in a path: `..`, or a name. The root and a leading
`.` can only come first. -/

/-- A component whose text reads as the component itself wherever it stands. -/
def Component.IsStep (c : Component) : Prop :=
  innerComponent? c.text.toList = some c ∧ '/' ∉ c.text.toList

theorem isStep_up : Component.up.IsStep := by
  refine ⟨rfl, ?_⟩
  decide

theorem isStep_of_innerComponent? {segment : List Char} {c : Component} (hs : '/' ∉ segment)
    (h : innerComponent? segment = some c) : c.IsStep := by
  rw [innerComponent?] at h
  split at h
  · cases h
  · rename_i hne
    split at h
    · obtain rfl := Option.some.inj h
      exact isStep_up
    · rename_i hup
      obtain rfl := Option.some.inj h
      simp [Component.IsStep, Component.text, innerComponent?, hne, hup, hs]

theorem isStep_of_mem_filterMap {cs : List Char} {segments : List (List Char)} {c : Component}
    (hsub : ∀ segment ∈ segments, segment ∈ splitSlash cs)
    (h : c ∈ segments.filterMap innerComponent?) : c.IsStep := by
  obtain ⟨segment, hmem, hc⟩ := List.mem_filterMap.mp h
  exact isStep_of_innerComponent? (slash_not_mem_of_mem_splitSlash (hsub segment hmem)) hc

/-- What a text begins with: nothing, the root or a leading `.`. -/
def IsLead (lead : List Component) : Prop := lead = [] ∨ lead = [.root] ∨ lead = [.here]

/-- The components of any text are a lead and steps after it. -/
theorem componentsOf_shape (cs : List Char) :
    ∃ lead steps, IsLead lead ∧ (∀ c ∈ steps, c.IsStep) ∧ componentsOf cs = lead ++ steps := by
  obtain ⟨first, rest, hsplit⟩ := List.exists_cons_of_ne_nil (splitSlash_ne_nil cs)
  have hrest : ∀ c ∈ rest.filterMap innerComponent?, c.IsStep := fun c hc =>
    isStep_of_mem_filterMap (fun s hs => hsplit ▸ List.mem_cons_of_mem _ hs) hc
  simp only [componentsOf, hsplit]
  split
  · split
    · exact ⟨[], [], .inl rfl, by simp, rfl⟩
    · exact ⟨[.root], _, .inr (.inl rfl), hrest, rfl⟩
  · split
    · exact ⟨[.here], _, .inr (.inr rfl), hrest, rfl⟩
    · refine ⟨[], _, .inl rfl, ?_, rfl⟩
      intro c hc
      rcases List.mem_append.mp hc with hc | hc
      · exact isStep_of_innerComponent?
          (slash_not_mem_of_mem_splitSlash (hsplit ▸ List.mem_cons_self ..)) (by simpa using hc)
      · exact hrest c hc

/-! ## Appending -/

/-- After a text that is not empty, a slash and more segments append the steps that these
contribute. -/
theorem componentsOf_append_slash {xs : List Char} (hne : xs ≠ []) (ys : List Char) :
    componentsOf (xs ++ '/' :: ys)
      = componentsOf xs ++ (splitSlash ys).filterMap innerComponent? := by
  obtain ⟨first, rest, hsplit⟩ := List.exists_cons_of_ne_nil (splitSlash_ne_nil xs)
  -- The only text whose single segment is empty is the empty one.
  have hroot : first = [] → rest ≠ [] := by
    rintro rfl rfl
    cases xs with
    | nil => exact hne rfl
    | cons x xs =>
        obtain ⟨s, ss, hs⟩ := List.exists_cons_of_ne_nil (splitSlash_ne_nil xs)
        rw [splitSlash, hs] at hsplit
        split at hsplit <;> cases hsplit
  simp only [componentsOf, splitSlash_append_slash, hsplit, List.cons_append,
    List.filterMap_append]
  by_cases hfirst : first = []
  · simp [hfirst, hroot hfirst]
  · by_cases hhere : first = ['.'] <;> simp [hfirst, hhere]

theorem componentsOf_text {c : Component} (h : c.IsStep) : componentsOf c.text.toList = [c] := by
  obtain ⟨hinner, hslash⟩ := h
  have hne : c.text.toList ≠ [] := by
    intro h
    simp [h, innerComponent?] at hinner
  have hhere : c.text.toList ≠ ['.'] := by
    intro h
    simp [h, innerComponent?] at hinner
  simp [componentsOf, splitSlash_eq_singleton hslash, hne, hhere, hinner]

/-- Pushing a step onto a path appends it to the components, whether a slash has to be added or
not. -/
theorem components_push (p : Path) {c : Component} (h : c.IsStep) :
    (p.push c.text).components = p.components ++ [c] := by
  have hstep : (splitSlash c.text.toList).filterMap innerComponent? = [c] := by
    simp [splitSlash_eq_singleton h.2, h.1]
  obtain ⟨text⟩ := p
  rw [push]
  split
  · rename_i hlast
    obtain rfl : text = "" := by simpa using hlast
    exact componentsOf_text h
  · rename_i hlast
    obtain ⟨ys, hys⟩ := List.getLast?_eq_some_iff.mp hlast
    simp only [components, String.toList_append, hys, List.append_assoc, List.singleton_append]
    by_cases hempty : ys = []
    · subst hempty
      simp [componentsOf, splitSlash, hstep, splitSlash_ne_nil, innerComponent?]
    · simp [componentsOf_append_slash hempty, hstep, splitSlash, innerComponent?]
  · rename_i last _ hlast
    have hne : text.toList ≠ [] := by
      intro hnil
      rw [hnil] at hlast
      cases hlast
    have htext : (text ++ "/" ++ c.text).toList = text.toList ++ '/' :: c.text.toList := by
      simp
    rw [components, components, htext, componentsOf_append_slash hne, hstep]

theorem components_foldl_push (p : Path) (steps : List Component) (h : ∀ c ∈ steps, c.IsStep) :
    (steps.foldl (fun p c => p.push c.text) p).components = p.components ++ steps := by
  induction steps generalizing p with
  | nil => simp
  | cons c steps ih =>
      rw [List.foldl_cons, ih _ fun d hd => h d (List.mem_cons_of_mem _ hd),
        components_push p (h c (List.mem_cons_self ..)), List.append_assoc,
        List.singleton_append]

/-! ## Cleaned components -/

/-- Components without a leading `.`: an optional root, and steps. -/
def IsPlain (cs : List Component) : Prop :=
  ∃ base steps, (base = [] ∨ base = [.root]) ∧ (∀ c ∈ steps, c.IsStep) ∧ cs = base ++ steps

/-- Spelling plain components and reading the spelling gives them back. -/
theorem components_ofComponents {cs : List Component} (h : IsPlain cs) :
    (ofComponents cs).components = cs := by
  obtain ⟨base, steps, hbase | hbase, hsteps, rfl⟩ := h <;> subst hbase
  · exact components_foldl_push ⟨""⟩ steps hsteps
  · exact components_foldl_push ⟨"/"⟩ steps hsteps

/-- One step on top of cleaned ones leaves an optional root under steps. -/
theorem cleanStep_shape {base steps : List Component} (hbase : base = [] ∨ base = [.root])
    (hsteps : ∀ c ∈ steps, c.IsStep) {c : Component} (hc : c.IsStep) :
    ∃ steps', (∀ c ∈ steps', c.IsStep) ∧ cleanStep (steps ++ base) c = steps' ++ base := by
  have hpush : ∀ d ∈ c :: steps, d.IsStep := fun d hd =>
    (List.mem_cons.mp hd).elim (fun h => h ▸ hc) (hsteps d)
  cases c with
  | root => exact absurd rfl (List.ne_of_not_mem_cons hc.2)
  | here => simp [Component.IsStep, Component.text, innerComponent?] at hc
  | name text => exact ⟨_, hpush, rfl⟩
  | up =>
      cases steps with
      | nil =>
          rcases hbase with rfl | rfl
          · exact ⟨[.up], hpush, rfl⟩
          · exact ⟨[], by simp, rfl⟩
      | cons d steps =>
          cases d with
          | name _ => exact ⟨steps, fun e he => hsteps e (List.mem_cons_of_mem _ he), rfl⟩
          | up => exact ⟨_, hpush, rfl⟩
          | here => exact ⟨_, hpush, rfl⟩
          | root => exact absurd rfl (List.ne_of_not_mem_cons (hsteps _ (List.mem_cons_self ..)).2)

theorem foldl_cleanStep_shape {base steps : List Component} (hbase : base = [] ∨ base = [.root])
    (hsteps : ∀ c ∈ steps, c.IsStep) (cs : List Component) (hcs : ∀ c ∈ cs, c.IsStep) :
    ∃ steps', (∀ c ∈ steps', c.IsStep) ∧ cs.foldl cleanStep (steps ++ base) = steps' ++ base := by
  induction cs generalizing steps with
  | nil => exact ⟨steps, hsteps, rfl⟩
  | cons c cs ih =>
      obtain ⟨steps', hsteps', heq⟩ := cleanStep_shape hbase hsteps (hcs c (List.mem_cons_self ..))
      rw [List.foldl_cons, heq]
      exact ih hsteps' fun d hd => hcs d (List.mem_cons_of_mem _ hd)

/-- Cleaning a lead and steps leaves plain components. -/
theorem isPlain_cleanComponents {lead steps : List Component} (hlead : IsLead lead)
    (hsteps : ∀ c ∈ steps, c.IsStep) : IsPlain (cleanComponents (lead ++ steps)) := by
  obtain ⟨base, hbase, hfold⟩ :
      ∃ base, (base = [] ∨ base = [.root]) ∧ lead.foldl cleanStep [] = [] ++ base := by
    rcases hlead with rfl | rfl | rfl
    · exact ⟨[], .inl rfl, rfl⟩
    · exact ⟨[.root], .inr rfl, rfl⟩
    · exact ⟨[], .inl rfl, rfl⟩
  obtain ⟨steps', hsteps', heq⟩ := foldl_cleanStep_shape hbase (List.forall_mem_nil _) steps hsteps
  refine ⟨base, steps'.reverse, hbase, fun c hc => hsteps' c (List.mem_reverse.mp hc), ?_⟩
  rw [cleanComponents, List.foldl_append, hfold, heq]
  rcases hbase with rfl | rfl <;> simp

/-! ## Source directories -/

/-- The spelling of cleaned components reads as these components; where nothing is left it is the
directory itself. -/
theorem components_ofCleaned {cs : List Component} (h : IsPlain cs) :
    (ofCleaned cs).components = if cs = [] then [.here] else cs := by
  rw [ofCleaned]
  split
  · rfl
  · exact components_ofComponents h

theorem here_not_mem_of_isPlain {cs : List Component} (h : IsPlain cs) : .here ∉ cs := by
  obtain ⟨base, steps, hbase, hsteps, rfl⟩ := h
  intro hmem
  rcases List.mem_append.mp hmem with hmem | hmem
  · rcases hbase with rfl | rfl <;> simp at hmem
  · simpa [Component.IsStep, Component.text, innerComponent?] using hsteps _ hmem

theorem ofCleaned_eq_of_components_eq {cs ds : List Component} (hc : IsPlain cs) (hd : IsPlain ds)
    (h : (ofCleaned cs).components = (ofCleaned ds).components) : ofCleaned cs = ofCleaned ds := by
  rw [components_ofCleaned hc, components_ofCleaned hd] at h
  split at h <;> split at h
  · rename_i hcs hds
    rw [hcs, hds]
  · exact absurd (h ▸ List.mem_cons_self ..) (here_not_mem_of_isPlain hd)
  · exact absurd (h ▸ List.mem_cons_self ..) (here_not_mem_of_isPlain hc)
  · rw [h]

theorem parentComponents?_shape {p : Path} {cs : List Component}
    (h : p.parentComponents? = some cs) :
    ∃ lead steps, IsLead lead ∧ (∀ c ∈ steps, c.IsStep) ∧ cs = lead ++ steps := by
  obtain ⟨lead, steps, hlead, hsteps, heq⟩ := componentsOf_shape p.text.toList
  have hlast : ∃ c, p.components = cs ++ [c] := by
    rw [parentComponents?] at h
    split at h
    · cases h
    · cases h
    · rename_i c rest _ hrev
      obtain rfl := Option.some.inj h
      exact ⟨c, by rw [← List.reverse_reverse p.components, hrev, List.reverse_cons]⟩
  obtain ⟨c, hc⟩ := hlast
  rw [components, heq] at hc
  rcases List.eq_nil_or_concat steps with rfl | ⟨steps', d, rfl⟩
  · obtain rfl : cs = [] := by
      have hlen := congrArg List.length hc
      rcases hlead with rfl | rfl | rfl
      · simp at hlen
      · simpa using hlen
      · simpa using hlen
    exact ⟨[], [], .inl rfl, List.forall_mem_nil _, rfl⟩
  · rw [List.concat_eq_append, ← List.append_assoc] at hc
    obtain ⟨rfl, -⟩ := List.append_inj' hc rfl
    exact ⟨lead, steps', hlead, fun e he => hsteps e (by simp [he]), rfl⟩

/-- The directory of a source file is the spelling of cleaned components, which are plain. -/
theorem sourceDir_eq_ofCleaned (file : Path) :
    ∃ cs, IsPlain (cleanComponents cs) ∧ file.sourceDir = ofCleaned (cleanComponents cs) := by
  rw [sourceDir]
  split
  · exact ⟨[], ⟨[], [], .inl rfl, by simp, rfl⟩, rfl⟩
  · rename_i cs h
    obtain ⟨lead, steps, hlead, hsteps, rfl⟩ := parentComponents?_shape h
    exact ⟨_, isPlain_cleanComponents hlead hsteps, rfl⟩

/-- Source directories that are the same directory are the same text. -/
theorem sourceDir_eq_of_components_eq {file other : Path}
    (h : file.sourceDir.components = other.sourceDir.components) :
    file.sourceDir = other.sourceDir := by
  obtain ⟨cs, hcs, hfile⟩ := sourceDir_eq_ofCleaned file
  obtain ⟨ds, hds, hother⟩ := sourceDir_eq_ofCleaned other
  rw [hfile, hother] at h ⊢
  exact ofCleaned_eq_of_components_eq hcs hds h

end GoAssets.Path
