import GoAssets.Path.Group
import GoAssets.Proofs.Path.CleanText
import Mathlib.Data.List.Basic

/-!
# Group directories are cleaned joins

A group directory is found in three moves: the literal is pushed onto the base component by
component, the result is seen from the working directory, and `.` and `..` are removed on the way
to a list of names. `groupDir_eq_cleanText` says that all this is one textual rule: write the
working directory (before a relative base), the base and the literal with slashes between them,
and clean.

Both sides are compared as runs of `absoluteStep`. A text acts on the names by its steps alone,
after going back to the root if it is rooted (`foldl_absoluteStep_componentsOf`); joining adds the
steps of the literal (`foldl_absoluteStep_joinLiteral`); and on a rooted text cleaning is the same
run (`clean_eq_ofNames`).

Of the three moves the first is described by itself, too: joining appends to the base and takes
nothing away from it (`joinLiteral_appends`).
-/

namespace GoAssets.Path

theorem isStep_of_mem_stepsOf {cs : List Char} {c : Component} (h : c ∈ stepsOf cs) : c.IsStep :=
  isStep_of_mem_filterMap (fun _ hs => hs) h

theorem ne_root_of_isStep {c : Component} (h : c.IsStep) : c ≠ .root := by
  rintro rfl
  exact h.2 (List.mem_singleton.mpr rfl)

/-! ## Joining -/

/-- What follows a slash adds its steps, also where the slash is the root. -/
theorem componentsOf_slash_append (xs ys : List Char) :
    componentsOf (xs ++ '/' :: ys) = componentsOf (xs ++ ['/']) ++ stepsOf ys := by
  by_cases hxs : xs = []
  · subst hxs
    rw [componentsOf_eq, componentsOf_eq]
    simp [leadOf, stepsOf_slash, stepsOf_nil]
  · rw [componentsOf_append_slash hxs, componentsOf_append_slash hxs, List.append_assoc]
    rfl

/-- Onto a text that is not empty any segment can be pushed: it adds its steps. -/
theorem components_push_of_ne {p : Path} (hne : p.text ≠ "") (segment : String) :
    (p.push segment).components = p.components ++ stepsOf segment.toList := by
  have hne' : p.text.toList ≠ [] := by simpa using hne
  rw [push]
  split
  · rename_i hlast
    exact absurd (List.getLast?_eq_none_iff.mp hlast) hne'
  · rename_i hlast
    obtain ⟨ys, hys⟩ := List.getLast?_eq_some_iff.mp hlast
    rw [components, components, String.toList_append, hys, List.append_assoc, List.singleton_append,
      componentsOf_slash_append]
  · have htext : (p.text ++ "/" ++ segment).toList = p.text.toList ++ '/' :: segment.toList := by
      simp
    rw [components, htext, componentsOf_append_slash hne']
    rfl

theorem components_push_here (p : Path) :
    (p.push ".").components = if p.text = "" then [.here] else p.components := by
  split
  · rename_i hempty
    rw [push, hempty]
    rfl
  · rename_i hne
    rw [components_push_of_ne hne]
    exact List.append_nil _

/-- Joining pushes the steps of the literal, after a `.` if the literal begins with one. -/
theorem joinLiteral_eq (base : Path) (literal : String) :
    joinLiteral base literal = (stepsOf literal.toList).foldl (fun p c => p.push c.text)
      (if leadOf literal.toList = [.here] then base.push "." else base) := by
  have hsteps : ∀ p : Path, (stepsOf literal.toList).foldl
      (fun p c => if c = .root then p else p.push c.text) p
        = (stepsOf literal.toList).foldl (fun p c => p.push c.text) p := by
    intro p
    refine List.foldl_ext _ _ p fun q c hc => ?_
    rw [if_neg (ne_root_of_isStep (isStep_of_mem_stepsOf hc))]
  rw [joinLiteral, componentsOf_eq, List.foldl_append, hsteps]
  congr 1
  unfold leadOf
  split
  · rfl
  · split <;> rfl

theorem components_joinLiteral (base : Path) (literal : String) :
    (joinLiteral base literal).components
      = (if leadOf literal.toList = [.here] then base.push "." else base).components
        ++ stepsOf literal.toList := by
  rw [joinLiteral_eq]
  exact components_foldl_push _ _ fun c hc => isStep_of_mem_stepsOf hc

theorem text_prefix_push (p : Path) (segment : String) :
    p.text.toList <+: (p.push segment).text.toList := by
  rw [push]
  split
  · rename_i hlast
    rw [List.getLast?_eq_none_iff.mp hlast]
    exact List.nil_prefix
  · exact String.toList_append ▸ List.prefix_append _ _
  · rw [String.toList_append, String.toList_append, List.append_assoc]
    exact List.prefix_append _ _

theorem text_prefix_joinLiteral (base : Path) (literal : String) :
    base.text.toList <+: (joinLiteral base literal).text.toList := by
  rw [joinLiteral]
  generalize componentsOf literal.toList = cs
  induction cs generalizing base with
  | nil => exact List.prefix_refl _
  | cons c cs ih =>
      rw [List.foldl_cons]
      refine List.IsPrefix.trans ?_ (ih _)
      split
      · exact List.prefix_refl _
      · exact text_prefix_push base c.text

/-- Whether a component of a literal counts where it is joined to a base: the root never does, and a
leading `.` only if there is nothing before it. -/
def Component.joins (base : Path) (c : Component) : Bool :=
  c ≠ .root && (c ≠ .here || base.text = "")

theorem joins_of_isStep {c : Component} (h : c.IsStep) (base : Path) : c.joins base = true := by
  have hhere : c ≠ .here := by
    rintro rfl
    simp [Component.IsStep, Component.text, innerComponent?] at h
  simp [Component.joins, ne_root_of_isStep h, hhere]

/-- Of what a literal begins with, joining keeps a `.` on an empty base and nothing else. -/
theorem components_lead (base : Path) (cs : List Char) :
    (if leadOf cs = [.here] then base.push "." else base).components
      = base.components ++ (leadOf cs).filter (Component.joins base) := by
  have hempty : base.text = "" → base.components = [] := fun h => by rw [components, h]; rfl
  unfold leadOf
  split
  · simp [Component.joins]
  · split
    · rw [if_pos rfl, components_push_here]
      split
      · rename_i htext
        simp [Component.joins, htext, hempty htext]
      · rename_i htext
        simp [Component.joins, htext]
    · simp

/-- A literal is appended, to the text of the base and to its components. All its components count
but the root, and but a leading `.` unless the base is the empty text, so that no literal replaces
or shortens the base. -/
theorem joinLiteral_appends (base : Path) (literal : String) :
    base.text.toList <+: (joinLiteral base literal).text.toList
    ∧ (joinLiteral base literal).components
      = base.components ++ (componentsOf literal.toList).filter (Component.joins base) := by
  refine ⟨text_prefix_joinLiteral base literal, ?_⟩
  have hsteps : (stepsOf literal.toList).filter (Component.joins base) = stepsOf literal.toList :=
    List.filter_eq_self.mpr fun c hc => joins_of_isStep (isStep_of_mem_stepsOf hc) base
  rw [components_joinLiteral, components_lead, componentsOf_eq, List.filter_append, hsteps,
    List.append_assoc]

example : (joinLiteral ⟨"src/./"⟩ "/../a//./b/").components
    = [.name "src", .up, .name "a", .name "b"] := by decide

/-! ## Runs of `absoluteStep` -/

theorem foldl_absoluteStep_componentsOf (cs : List Char) (names : List String) :
    (componentsOf cs).foldl absoluteStep names
      = (stepsOf cs).foldl absoluteStep (if cs.head? = some '/' then [] else names) := by
  rw [componentsOf_eq, List.foldl_append, leadOf]
  split
  · rfl
  · split <;> rfl

theorem foldl_absoluteStep_joinLiteral (base : Path) (literal : String) (names : List String) :
    (joinLiteral base literal).components.foldl absoluteStep names
      = (stepsOf literal.toList).foldl absoluteStep (base.components.foldl absoluteStep names) := by
  rw [components_joinLiteral, List.foldl_append]
  congr 1
  split
  · rw [components_push_here]
    split
    · -- A `.` on an empty base is a component, but a step that does nothing.
      rename_i hempty
      rw [components, hempty]
      rfl
    · rfl
  · rfl

theorem cleanStep_root (names : List String) {c : Component} (hc : c.IsStep) :
    cleanStep (names.map .name ++ [.root]) c = (absoluteStep names c).map .name ++ [.root] := by
  cases c with
  | root => exact absurd rfl (ne_root_of_isStep hc)
  | here => rfl
  | up => cases names <;> rfl
  | name text => rfl

/-- Below the root, cleaning does to the components what making absolute does to the names. -/
theorem foldl_cleanStep_root (steps : List Component) (hsteps : ∀ c ∈ steps, c.IsStep)
    (names : List String) :
    steps.foldl cleanStep (names.map .name ++ [.root])
      = (steps.foldl absoluteStep names).map .name ++ [.root] := by
  induction steps generalizing names with
  | nil => rfl
  | cons c steps ih =>
      rw [List.foldl_cons, cleanStep_root names (hsteps c (List.mem_cons_self ..)), List.foldl_cons]
      exact ih (fun d hd => hsteps d (List.mem_cons_of_mem _ hd)) _

theorem clean_eq_ofNames {p : Path} (h : p.isAbsolute = true) :
    p.clean = ofNames (absoluteNames p.components) := by
  have hroot : p.text.toList.head? = some '/' := beq_iff_eq.mp h
  have hrun := foldl_cleanStep_root (stepsOf p.text.toList)
    (fun _ hc => isStep_of_mem_stepsOf hc) []
  rw [clean, cleanComponents, absoluteNames, components, foldl_cleanStep_componentsOf,
    foldl_absoluteStep_componentsOf, if_pos hroot, beq_iff_eq.mpr hroot]
  rw [List.map_nil, List.nil_append] at hrun
  rw [CleanBuffer.leadStack, if_pos rfl, hrun, List.reverse_append, List.reverse_singleton,
    List.singleton_append, ← List.map_reverse]
  rfl

/-! ## Group directories -/

def absoluteText (cwd base : Path) : String :=
  if base.isAbsolute then base.text else cwd.text ++ "/" ++ base.text

theorem groupDir_eq_ofNames (cwd base : Path) (literal : String) :
    groupDir cwd base literal
      = ofNames (absoluteNames
          (componentsOf (absoluteText cwd base ++ "/" ++ literal).toList)) := by
  have hslash : ∀ xs ys : String, (xs ++ "/" ++ ys).toList = xs.toList ++ '/' :: ys.toList := by
    simp
  rw [groupDir, absolutize, absoluteNames, absoluteNames, List.foldl_append,
    foldl_absoluteStep_joinLiteral, components, components, foldl_absoluteStep_componentsOf,
    foldl_absoluteStep_componentsOf, foldl_absoluteStep_componentsOf, ite_self, ite_self, hslash,
    stepsOf_append_slash, List.foldl_append, absoluteText, isAbsolute]
  by_cases hbase : base.text.toList.head? = some '/'
  · rw [if_pos hbase, if_pos (beq_iff_eq.mpr hbase)]
  · rw [if_neg hbase, if_neg (mt beq_iff_eq.mp hbase), hslash, stepsOf_append_slash,
      List.foldl_append]

/-- A leading slash of the literal does not leave the base. -/
theorem groupDir_slash (cwd base : Path) (literal : String) :
    groupDir cwd base ("/" ++ literal) = groupDir cwd base literal := by
  have hslash : ("/" ++ literal).toList = '/' :: literal.toList := by simp
  rw [groupDir, groupDir, absolutize, absolutize, absoluteNames, absoluteNames, List.foldl_append,
    List.foldl_append, foldl_absoluteStep_joinLiteral, foldl_absoluteStep_joinLiteral, hslash,
    stepsOf_slash]

theorem head?_absoluteText {cwd : Path} (hcwd : cwd.isAbsolute = true) (base : Path) :
    (absoluteText cwd base).toList.head? = some '/' := by
  rw [absoluteText]
  split
  · rename_i hbase
    exact beq_iff_eq.mp hbase
  · simp [beq_iff_eq.mp hcwd]

/-- The directory of a group is the cleaned text of the working directory, the base and the literal.
So it is absolute with nothing left to clean, and a rooted literal is no exception. -/
theorem groupDir_eq_cleanText {cwd : Path} (hcwd : cwd.isAbsolute = true) (base : Path)
    (literal : String) :
    groupDir cwd base literal = ⟨cleanText (absoluteText cwd base ++ "/" ++ literal)⟩
    ∧ groupDir cwd base ("/" ++ literal) = groupDir cwd base literal
    ∧ IsCleanAbsolute (groupDir cwd base literal) := by
  have hroot : (absoluteText cwd base ++ "/" ++ literal).toList.head? = some '/' := by
    simp [head?_absoluteText hcwd base]
  have hclean : groupDir cwd base literal
      = ⟨cleanText (absoluteText cwd base ++ "/" ++ literal)⟩ := by
    rw [groupDir_eq_ofNames, ← clean_eq_cleanText, clean_eq_ofNames (beq_iff_eq.mpr hroot)]
    rfl
  refine ⟨hclean, groupDir_slash cwd base literal, ?_⟩
  rw [hclean]
  exact isCleanAbsolute_cleanText hroot

theorem groupDir_eq_cleanText_climbing :
    (⟨"/tmp/work"⟩ : Path).isAbsolute = true
    ∧ groupDir ⟨"/tmp/work"⟩ ⟨"../app"⟩ "/./static/../../img//"
      = ⟨cleanText "/tmp/work/../app//./static/../../img//"⟩
    ∧ groupDir ⟨"/tmp/work"⟩ ⟨"../app"⟩ "/./static/../../img//" = ⟨"/tmp/img"⟩ := by
  have h : (⟨"/tmp/work"⟩ : Path).isAbsolute = true := by decide
  refine ⟨h, (groupDir_eq_cleanText h ⟨"../app"⟩ "/./static/../../img//").1, ?_⟩
  decide

end GoAssets.Path
