import GoAssets.Proofs.Path.Group
import Mathlib.Data.List.DropRight

/-!
# The directory of a source file

`Path.sourceDir` takes the last component off and cleans the others. `dirText` is the rule of Go's
`filepath.Dir`, which cuts the text after its last slash and cleans what is before the cut.
`sourceDir_eq_dirText` says that they agree on every text in which a name or a `..` follows the last
slash. Where nothing or a `.` follows it, the last component stands before the slash, and the two
rules part.

The second half is about the result: cleaning a source directory once more changes nothing
(`clean_sourceDir`), and the directory of an absolute path is absolute (`isAbsolute_sourceDir`).
-/

namespace GoAssets.Path

/-! ## The rule for directories -/

/-- What follows the last slash of a text; all of it if there is no slash. -/
def lastElement (text : String) : List Char := text.toList.rtakeWhile (· != '/')

/-- A text up to and including its last slash. -/
def throughLastSlash (text : String) : String := String.ofList (text.toList.rdropWhile (· != '/'))

/-- The directory of a text: what stands before its last element, cleaned. -/
def dirText (text : String) : String := cleanText (throughLastSlash text)

theorem toList_eq_append_lastElement (text : String) :
    text.toList = (throughLastSlash text).toList ++ lastElement text := by
  rw [throughLastSlash, String.toList_ofList, lastElement, List.rdropWhile_append_rtakeWhile]

theorem slash_not_mem_lastElement (text : String) : '/' ∉ lastElement text := by
  intro h
  simpa using List.mem_rtakeWhile_imp h

theorem throughLastSlash_eq (text : String) :
    (throughLastSlash text).toList = []
    ∨ ∃ cs, (throughLastSlash text).toList = cs ++ ['/'] := by
  rw [throughLastSlash, String.toList_ofList]
  by_cases hnil : text.toList.rdropWhile (· != '/') = []
  · exact .inl hnil
  · have hlast := List.rdropWhile_last_not (· != '/') text.toList hnil
    have hslash : (text.toList.rdropWhile (· != '/')).getLast hnil = '/' := by simpa using hlast
    have hsplit := List.dropLast_append_getLast hnil
    rw [hslash] at hsplit
    exact .inr ⟨_, hsplit.symm⟩

/-! ## Components and the last slash -/

/-- A last element that is not empty and not `.` is the last component. -/
theorem components_eq_concat {text : String} (hne : lastElement text ≠ [])
    (hhere : lastElement text ≠ ['.']) :
    ∃ c, c.IsStep ∧ components ⟨text⟩ = components ⟨throughLastSlash text⟩ ++ [c] := by
  have hslash := slash_not_mem_lastElement text
  obtain ⟨c, hc⟩ : ∃ c, innerComponent? (lastElement text) = some c := by
    rw [innerComponent?, if_neg (not_or.mpr ⟨hne, hhere⟩)]
    split
    · exact ⟨_, rfl⟩
    · exact ⟨_, rfl⟩
  refine ⟨c, isStep_of_innerComponent? hslash hc, ?_⟩
  rw [components, components, toList_eq_append_lastElement text]
  rcases throughLastSlash_eq text with hdir | ⟨cs, hdir⟩
  · -- There is no slash, and the element is the whole text.
    rw [hdir, List.nil_append]
    simp [componentsOf, splitSlash_eq_singleton hslash, splitSlash, hne, hhere, hc]
  · rw [hdir, List.append_assoc, List.singleton_append, componentsOf_slash_append,
      stepsOf_element hslash, hc, Option.toList_some]

theorem sourceDir_of_components {file : Path} {cs : List Component} {c : Component}
    (h : file.components = cs ++ [c]) (hc : c ≠ .root) :
    file.sourceDir = ofCleaned (cleanComponents cs) := by
  have hparent : file.parentComponents? = some cs := by
    rw [parentComponents?, h, List.reverse_append, List.reverse_singleton, List.singleton_append]
    split
    · rename_i hnil
      cases hnil
    · rename_i hroot
      exact absurd (List.head_eq_of_cons_eq hroot) hc
    · rename_i hcons
      rw [← List.tail_eq_of_cons_eq hcons, List.reverse_reverse]
  rw [sourceDir, hparent]

/-- The directory of a source file is what the rule makes of its text, if the text ends in an element
that is neither empty nor `.`. -/
theorem sourceDir_eq_dirText (file : Path) (hne : lastElement file.text ≠ [])
    (hhere : lastElement file.text ≠ ['.']) : file.sourceDir = ⟨dirText file.text⟩ := by
  obtain ⟨c, hc, hcomponents⟩ := components_eq_concat hne hhere
  have hclean := clean_eq_cleanText ⟨throughLastSlash file.text⟩
  rw [sourceDir_of_components hcomponents (ne_root_of_isStep hc), dirText, ← hclean, clean]

/-- A relative path that climbs, with slashes and dots to spare. -/
theorem sourceDir_eq_dirText_climbing :
    lastElement "..//a/./../../b/x.go" ≠ [] ∧ lastElement "..//a/./../../b/x.go" ≠ ['.']
    ∧ sourceDir ⟨"..//a/./../../b/x.go"⟩ = ⟨dirText "..//a/./../../b/x.go"⟩
    ∧ sourceDir ⟨"..//a/./../../b/x.go"⟩ = ⟨"../../b"⟩ := by
  have hne : lastElement "..//a/./../../b/x.go" ≠ [] := by decide
  have hhere : lastElement "..//a/./../../b/x.go" ≠ ['.'] := by decide
  exact ⟨hne, hhere, sourceDir_eq_dirText ⟨_⟩ hne hhere, by decide⟩

/-! ## Source directories are clean -/

/-- Components, last one first, that cleaning leaves as they are. -/
def IsSettled (stack : List Component) : Prop := stack.reverse.foldl cleanStep [] = stack

theorem isSettled_cons_iff {c : Component} {stack : List Component} :
    IsSettled (c :: stack) ↔ cleanStep (stack.reverse.foldl cleanStep []) c = c :: stack := by
  rw [IsSettled, List.reverse_cons, List.foldl_append, List.foldl_cons, List.foldl_nil]

theorem IsSettled.cleanStep {stack : List Component} (h : IsSettled stack) (c : Component) :
    IsSettled (cleanStep stack c) := by
  have hpush : Path.cleanStep stack c = c :: stack → IsSettled (c :: stack) := by
    intro heq
    rw [isSettled_cons_iff, h, heq]
  cases c with
  | root => exact hpush rfl
  | here => exact h
  | name text => exact hpush rfl
  | up =>
      cases stack with
      | nil => exact hpush rfl
      | cons d stack =>
          cases d with
          | root => exact h
          | here => exact hpush rfl
          | up => exact hpush rfl
          | name text =>
              -- The name goes, and what was below it was settled before it came.
              exact List.tail_eq_of_cons_eq (isSettled_cons_iff.mp h)

theorem cleanComponents_cleanComponents (cs : List Component) :
    cleanComponents (cleanComponents cs) = cleanComponents cs := by
  have hrun : ∀ stack, IsSettled stack → IsSettled (cs.foldl cleanStep stack) := by
    induction cs with
    | nil => exact fun _ h => h
    | cons c cs ih => exact fun _ h => ih _ (h.cleanStep c)
  have hsettled : IsSettled (cs.foldl cleanStep []) := hrun [] rfl
  rw [cleanComponents, cleanComponents, hsettled]

theorem clean_sourceDir (file : Path) : file.sourceDir.clean = file.sourceDir := by
  obtain ⟨cs, hcs, hdir⟩ := sourceDir_eq_ofCleaned file
  rw [hdir, clean, components_ofCleaned hcs]
  split
  · rename_i hnil
    rw [hnil]
    rfl
  · rw [cleanComponents_cleanComponents]

/-! ## Absolute paths -/

theorem components_of_isAbsolute {p : Path} (h : p.isAbsolute = true) :
    p.components = .root :: stepsOf p.text.toList := by
  rw [components, componentsOf_eq, leadOf, if_pos (beq_iff_eq.mp h), List.singleton_append]

theorem isAbsolute_of_components {p : Path} {cs : List Component} (h : p.components = .root :: cs) :
    p.isAbsolute = true := by
  by_contra habs
  have hroot : p.text.toList.head? ≠ some '/' := fun heq => habs (beq_iff_eq.mpr heq)
  rw [components, componentsOf_eq, leadOf, if_neg hroot] at h
  split at h
  · cases h
  · exact ne_root_of_isStep (isStep_of_mem_stepsOf (h ▸ List.mem_cons_self ..)) rfl

/-- Cleaning never removes the root. -/
theorem cleanComponents_root {steps : List Component} (h : ∀ c ∈ steps, c.IsStep) :
    ∃ rest, (∀ c ∈ rest, c.IsStep) ∧ cleanComponents (.root :: steps) = .root :: rest := by
  obtain ⟨stack, hstack, hfold⟩ :=
    foldl_cleanStep_shape (.inr rfl) (List.forall_mem_nil _) steps h
  refine ⟨stack.reverse, fun c hc => hstack c (List.mem_reverse.mp hc), ?_⟩
  show (steps.foldl cleanStep ([] ++ [.root])).reverse = _
  rw [hfold, List.reverse_append, List.reverse_singleton, List.singleton_append]

/-- The directory of an absolute path is absolute, unless the path is the root itself. -/
theorem isAbsolute_sourceDir {file : Path} (h : file.isAbsolute = true)
    (hne : file.components ≠ [.root]) : file.sourceDir.isAbsolute = true := by
  have hcomponents := components_of_isAbsolute h
  have hsteps : ∀ c ∈ stepsOf file.text.toList, c.IsStep := fun _ hc => isStep_of_mem_stepsOf hc
  rcases List.eq_nil_or_concat (stepsOf file.text.toList) with hnil | ⟨steps, c, hconcat⟩
  · rw [hnil] at hcomponents
    exact absurd hcomponents hne
  · rw [hconcat, List.concat_eq_append] at hcomponents hsteps
    rw [← List.cons_append] at hcomponents
    have hlast : c ≠ .root := ne_root_of_isStep (hsteps c (by simp))
    obtain ⟨rest, hrest, hclean⟩ :=
      cleanComponents_root fun d hd => hsteps d (List.mem_append_left _ hd)
    rw [sourceDir_of_components hcomponents hlast, hclean]
    exact isAbsolute_of_components
      (components_ofComponents ⟨[.root], rest, .inr rfl, hrest, rfl⟩)

end GoAssets.Path
