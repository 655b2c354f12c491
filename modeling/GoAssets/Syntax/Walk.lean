import GoAssets.Syntax.Tree

/-!
# Walking a tree

`Tree.walk` shows every node of a tree to a visitor, a node before its parts and the parts left
to right. The visitor threads a state and may stop the walk with a value. The nodes still to be
visited are kept on an explicit stack, so that the depth of a tree does not matter. The top of the
stack is at its end, so the parts of a node go there last one first.
-/

namespace GoAssets.Tree

variable {σ β : Type}

/-- What a visitor does at a node: a new state, and a value if the walk is to stop. -/
abbrev Visitor (σ β : Type) := Tree → σ → σ × Option β

/-- Put the parts of a tree on a stack. -/
def pushParts (stack : Array Tree) : Tree → Array Tree
  | file _ body => stack ++ body.reverse
  | assignment targets values => stack ++ values.reverse ++ targets.reverse
  | call function arguments => (stack ++ arguments.reverse).push function
  | selector operand _ => stack.push operand
  | other _ children => stack ++ children.reverse
  | identifier _ | stringLiteral _ => stack

/-- The parts are taken from the stack in the order in which they stand. -/
@[simp] theorem toList_pushParts (stack : Array Tree) (t : Tree) :
    (pushParts stack t).toList = stack.toList ++ t.children.reverse := by
  cases t <;> simp [pushParts, children]

/-- Visit the trees on a stack, each before its own parts. -/
def walkAll (visit : Visitor σ β) (s : σ) (stack : Array Tree) : σ × Option β :=
  match _h : stack.back? with
  | none => (s, none)
  | some t =>
    match visit t s with
    | (s', some b) => (s', some b)
    | (s', none) => walkAll visit s' (pushParts stack.pop t)
termination_by sizes stack.toList
decreasing_by
  obtain ⟨rest, rfl⟩ := Array.back?_eq_some_iff.1 _h
  simp [size_eq_succ_children t]

/-- Visit a tree and everything in it, until the visitor stops the walk. -/
def walk (visit : Visitor σ β) (s : σ) (t : Tree) : σ × Option β :=
  walkAll visit s #[t]

/-- The labels of the nodes that a walk visits, up to and including the first one with the label
`stop`, and whether such a node was met. -/
def labels (stop : Option String) (t : Tree) : Array String × Bool :=
  let visit : Visitor (Array String) Unit := fun node seen =>
    let label := node.label
    (seen.push label, if stop = some label then some () else none)
  let (seen, stopped) := t.walk visit #[]
  (seen, stopped.isSome)

end GoAssets.Tree
