import GoAssets.Proofs.Path.Group
import Mathlib.Data.List.Infix
import Mathlib.Data.List.MinMax
import Mathlib.Order.Nat

/-!
# A group leaves its base only as far as its literal climbs

A literal may lead out of the directory of its file by `..`. How far it can get is read off the
literal alone: `climb` is the largest number by which the `..` outnumber the names in a beginning of
its components. `groupDir_contained` says that this many names at most are lost at the end of the
base directory, and none if the literal never climbs.

Seen from the top of the stack that `absoluteStep` works on, the base lies at the bottom. A run of
steps may take names off the top, but it leaves what is more than `climb` deep
(`drop_suffix_foldl_absoluteStep`). The bound is carried as a condition on all beginnings of the
steps, because then the condition on the later steps follows with the bound raised or lowered by one.
-/

namespace GoAssets.Path

/-! ## Names and climbing -/

def Component.name? : Component → Option String
  | .name text => some text
  | _ => none

def names (p : Path) : List String := p.components.filterMap Component.name?

/-- A path is a directory or lies below it. -/
def LiesIn (p dir : Path) : Prop := dir.components <+: p.components

/-- By how many the `..` outnumber the names. -/
def excess (cs : List Component) : Nat := cs.count .up - (cs.filterMap Component.name?).length

/-- The largest excess in a beginning of the components. -/
def climb (cs : List Component) : Nat := (cs.inits.map excess).foldr max 0

theorem excess_cons_of_neither {c : Component} (hup : c ≠ .up) (hname : c.name? = none)
    (cs : List Component) : excess (c :: cs) = excess cs := by
  rw [excess, excess, List.filterMap_cons_none hname, List.count_cons_of_ne hup]

theorem excess_le_excess_up (cs : List Component) : excess cs ≤ excess (.up :: cs) - 1 := by
  rw [excess, excess, List.filterMap_cons_none rfl, List.count_cons_self]
  omega

theorem excess_name (text : String) (cs : List Component) :
    excess (.name text :: cs) = excess cs - 1 := by
  have hname : (Component.name text).name? = some text := rfl
  rw [excess, excess, List.filterMap_cons_some hname, List.count_cons_of_ne (by simp),
    List.length_cons]
  omega

theorem excess_le_climb {cs pre : List Component} (h : pre <+: cs) : excess pre ≤ climb cs :=
  List.le_max_of_le (List.mem_map_of_mem ((List.mem_inits pre cs).mpr h)) (Nat.le_refl _)

theorem climb_eq_zero {cs : List Component} (h : .up ∉ cs) : climb cs = 0 := by
  refine Nat.le_zero.mp (List.max_le_of_forall_le _ 0 ?_)
  intro n hn
  obtain ⟨pre, hpre, rfl⟩ := List.mem_map.mp hn
  have hup : .up ∉ pre := fun hmem => h (((List.mem_inits pre cs).mp hpre).mem hmem)
  rw [excess, List.count_eq_zero.mpr hup, Nat.zero_sub]

/-! ## Runs of `absoluteStep` -/

/-- What lies more than `k` deep stays, if in no beginning of the steps the `..` outnumber the names
by more than `k`. -/
theorem drop_suffix_foldl_absoluteStep (steps : List Component) (hsteps : .root ∉ steps) (k : Nat)
    (h : ∀ pre, pre <+: steps → excess pre ≤ k) (stack : List String) :
    stack.drop k <:+ steps.foldl absoluteStep stack := by
  induction steps generalizing k stack with
  | nil => exact List.drop_suffix k stack
  | cons c steps ih =>
      obtain ⟨hc, hroot⟩ := not_or.mp (mt List.mem_cons.mpr hsteps)
      have hlater : ∀ pre, pre <+: steps → excess (c :: pre) ≤ k := by
        intro pre hpre
        exact h (c :: pre) (List.cons_prefix_cons.mpr ⟨rfl, hpre⟩)
      rw [List.foldl_cons]
      cases c with
      | root => exact absurd rfl hc
      | here =>
          refine ih hroot k ?_ stack
          intro pre hpre
          rw [← excess_cons_of_neither (c := .here) (by decide) rfl]
          exact hlater pre hpre
      | up =>
          -- The first `..` alone has an excess of one, so the bound is not zero.
          have hk : 1 ≤ k := hlater [] List.nil_prefix
          have hdrop : stack.drop k = stack.tail.drop (k - 1) := by
            rw [List.drop_tail]
            congr 1
            omega
          rw [hdrop]
          refine ih hroot (k - 1) ?_ stack.tail
          intro pre hpre
          have := hlater pre hpre
          have := excess_le_excess_up pre
          omega
      | name text =>
          -- The new name lies on top, so all that was there is one deeper.
          refine ih hroot (k + 1) ?_ (text :: stack)
          intro pre hpre
          have := hlater pre hpre
          rw [excess_name] at this
          omega

/-- Steps that are part of a path leave names that can be part of a path. -/
theorem isStep_foldl_absoluteStep (cs : List Component)
    (hcs : ∀ text, .name text ∈ cs → (Component.name text).IsStep) (stack : List String)
    (hstack : ∀ text ∈ stack, (Component.name text).IsStep) :
    ∀ text ∈ cs.foldl absoluteStep stack, (Component.name text).IsStep := by
  induction cs generalizing stack with
  | nil => exact hstack
  | cons c cs ih =>
      rw [List.foldl_cons]
      refine ih (fun text h => hcs text (List.mem_cons_of_mem _ h)) _ ?_
      intro text htext
      cases c with
      | root => cases htext
      | here => exact hstack text htext
      | up => exact hstack text (List.mem_of_mem_tail htext)
      | name first =>
          rcases List.mem_cons.mp htext with rfl | htext
          · exact hcs text (List.mem_cons_self ..)
          · exact hstack text htext

theorem isStep_of_name_mem_components {p : Path} {text : String}
    (h : .name text ∈ p.components) : (Component.name text).IsStep := by
  obtain ⟨lead, steps, hlead, hsteps, heq⟩ := componentsOf_shape p.text.toList
  rw [components, heq, List.mem_append] at h
  rcases h with h | h
  · rcases hlead with rfl | rfl | rfl <;> simp at h
  · exact hsteps _ h

/-! ## Group directories -/

/-- The names that a base leads to, last one first, before a literal is added. -/
def baseStack (cwd base : Path) : List String :=
  (cwd.components ++ base.components).foldl absoluteStep []

theorem isStep_of_mem_baseStack {cwd base : Path} {text : String} (h : text ∈ baseStack cwd base) :
    (Component.name text).IsStep := by
  refine isStep_foldl_absoluteStep _ ?_ [] (List.forall_mem_nil _) text h
  intro text h
  rcases List.mem_append.mp h with h | h
  · exact isStep_of_name_mem_components h
  · exact isStep_of_name_mem_components h

theorem components_groupDir (cwd base : Path) (literal : String) :
    (groupDir cwd base literal).components
      = .root :: ((stepsOf literal.toList).foldl absoluteStep (baseStack cwd base)).reverse.map
          .name := by
  have hnames : ∀ text ∈ (stepsOf literal.toList).foldl absoluteStep (baseStack cwd base),
      (Component.name text).IsStep :=
    isStep_foldl_absoluteStep _ (fun _ h => isStep_of_mem_stepsOf h) _
      fun _ h => isStep_of_mem_baseStack h
  have hstack : base.components.foldl absoluteStep (cwd.components.foldl absoluteStep [])
      = baseStack cwd base := by
    rw [baseStack, List.foldl_append]
  rw [groupDir, absolutize, absoluteNames, List.foldl_append, foldl_absoluteStep_joinLiteral,
    hstack, ofNames]
  refine components_ofComponents ⟨[.root], _, .inr rfl, ?_, rfl⟩
  intro c hc
  obtain ⟨text, htext, rfl⟩ := List.mem_map.mp hc
  exact hnames text (List.mem_reverse.mp htext)

theorem names_groupDir (cwd base : Path) (literal : String) :
    (groupDir cwd base literal).names
      = ((stepsOf literal.toList).foldl absoluteStep (baseStack cwd base)).reverse := by
  rw [names, components_groupDir, List.filterMap_cons_none rfl, List.filterMap_map]
  exact List.filterMap_some

theorem baseStack_drop_suffix (cwd base : Path) (literal : String) :
    (baseStack cwd base).drop (climb (componentsOf literal.toList))
      <:+ (stepsOf literal.toList).foldl absoluteStep (baseStack cwd base) := by
  refine drop_suffix_foldl_absoluteStep _ ?_ _ ?_ _
  · exact fun h => ne_root_of_isStep (isStep_of_mem_stepsOf h) rfl
  · -- What comes first in the literal besides steps is neither a `..` nor a name.
    intro pre hpre
    have hlead : excess (leadOf literal.toList ++ pre) = excess pre := by
      unfold leadOf
      split
      · exact excess_cons_of_neither (by decide) rfl pre
      · split
        · exact excess_cons_of_neither (by decide) rfl pre
        · rfl
    rw [← hlead, componentsOf_eq]
    exact excess_le_climb ((List.prefix_append_right_inj _).mpr hpre)

/-- However a literal is spelled, the directory of its group keeps the names of the base but for as
many of the last ones as the literal climbs. If the literal does not climb, the directory is the base
or lies below it; and no literal climbs that has no `..`, be it rooted or not. -/
theorem groupDir_contained (cwd base : Path) (literal : String) :
    (groupDir cwd base "").names.take
        ((groupDir cwd base "").names.length - climb (componentsOf literal.toList))
      <+: (groupDir cwd base literal).names
    ∧ (climb (componentsOf literal.toList) = 0 →
        (groupDir cwd base literal).LiesIn (groupDir cwd base ""))
    ∧ (.up ∉ componentsOf literal.toList → climb (componentsOf literal.toList) = 0) := by
  have hsuffix := baseStack_drop_suffix cwd base literal
  have hbase : (groupDir cwd base "").names = (baseStack cwd base).reverse :=
    names_groupDir cwd base ""
  refine ⟨?_, ?_, climb_eq_zero⟩
  · rw [hbase, names_groupDir, List.length_reverse, ← List.reverse_drop]
    exact List.reverse_prefix.mpr hsuffix
  · intro hclimb
    rw [hclimb, List.drop_zero] at hsuffix
    rw [LiesIn, components_groupDir, components_groupDir]
    exact List.cons_prefix_cons.mpr ⟨rfl, (List.reverse_prefix.mpr hsuffix).map _⟩

/-- A literal that goes down, up and up again loses one name of the base, and a rooted one without
`..` loses none. -/
theorem groupDir_contained_climbing :
    climb (componentsOf "./static/../../img//".toList) = 1
    ∧ (groupDir ⟨"/tmp/work"⟩ ⟨"../app"⟩ "").names = ["tmp", "app"]
    ∧ ["tmp", "app"].take (2 - 1)
      <+: (groupDir ⟨"/tmp/work"⟩ ⟨"../app"⟩ "./static/../../img//").names
    ∧ .up ∉ componentsOf "/img//..x".toList
    ∧ (groupDir ⟨"/tmp/work"⟩ ⟨"../app"⟩ "/img//..x").LiesIn
        (groupDir ⟨"/tmp/work"⟩ ⟨"../app"⟩ "") := by
  have hclimb : climb (componentsOf "./static/../../img//".toList) = 1 := by decide
  have hbase : (groupDir ⟨"/tmp/work"⟩ ⟨"../app"⟩ "").names = ["tmp", "app"] := by decide
  have hup : .up ∉ componentsOf "/img//..x".toList := by decide
  have hkept := (groupDir_contained ⟨"/tmp/work"⟩ ⟨"../app"⟩ "./static/../../img//").1
  obtain ⟨-, hbelow, hzero⟩ := groupDir_contained ⟨"/tmp/work"⟩ ⟨"../app"⟩ "/img//..x"
  rw [hbase, hclimb] at hkept
  exact ⟨hclimb, hbase, hkept, hup, hbelow (hzero hup)⟩

end GoAssets.Path
