import GoAssets.Syntax.Tree

/-!
# Taking trees apart

A tree can be taken apart into single nodes without following its depth: the parts of a node are
moved to a list of pending trees, of which the last is taken next. What is left of a node has no
parts; where a part has to stand, an empty name takes its place.
-/

namespace GoAssets.Tree

/-- What stands in the place of a part that was moved out. -/
def hollow : Tree := identifier ""

/-- Move the parts of a tree out of it: what is left, and the parts from left to right. -/
def detach : Tree → Tree × List Tree
  | file package body => (file package [], body)
  | assignment targets values => (assignment [] [], targets ++ values)
  | call function arguments => (call hollow [], function :: arguments)
  | selector operand field => (selector hollow field, [operand])
  | identifier name => (identifier name, [])
  | stringLiteral raw => (stringLiteral raw, [])
  | other kind children => (other kind [], children)

@[simp] theorem detach_snd (t : Tree) : t.detach.2 = t.children := by
  cases t <;> rfl

/-- Take the pending trees apart, the last one first: each tree that is taken, with what is left
of it. -/
def dismantleAll (pending : List Tree) : List (Tree × Tree) :=
  match _h : pending.getLast? with
  | none => []
  | some t => (t, t.detach.1) :: dismantleAll (pending.dropLast ++ t.detach.2)
termination_by sizes pending
decreasing_by
  have hp : pending = pending.dropLast ++ [t] := by
    obtain ⟨init, rfl⟩ := List.getLast?_eq_some_iff.1 _h
    simp
  have hs : sizes pending = sizes pending.dropLast + t.size := by
    rw [hp, sizes_append, ← hp]
    simp
  have := size_eq_succ_children t
  rw [detach_snd, sizes_append]
  omega

@[simp] theorem dismantleAll_nil : dismantleAll [] = [] := by
  rw [dismantleAll]
  rfl

/-- One round: the last pending tree is taken, and its parts are pending in its place. -/
theorem dismantleAll_concat (init : List Tree) (t : Tree) :
    dismantleAll (init ++ [t]) = (t, t.detach.1) :: dismantleAll (init ++ t.detach.2) := by
  have hlast : (init ++ [t]).getLast? = some t := List.getLast?_concat
  rw [dismantleAll]
  split
  · rename_i h
    rw [hlast] at h
    cases h
  · rename_i u h
    rw [hlast] at h
    cases h
    rw [List.dropLast_concat]

/-- Take a tree apart: what is left of it, and what its parts leave. -/
def dismantle (t : Tree) : Tree × List (Tree × Tree) :=
  (t.detach.1, dismantleAll t.detach.2)

end GoAssets.Tree
