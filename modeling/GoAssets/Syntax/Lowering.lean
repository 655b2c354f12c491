import GoAssets.Go.Node
import GoAssets.Syntax.Tree

/-!
# From concrete syntax to trees

Lowering keeps the constructs that a scan looks at and forgets comments. It works on an explicit
stack of frames, one for each node whose parts are still being lowered, so that the depth of a
file does not matter. `startLowering` says what a node becomes: a leaf at once, or a frame with
the parts to lower first. `Frame.finish` builds the tree of a frame whose parts are done.
-/

namespace GoAssets

open Go (Node Role)

/-- What a frame builds from its lowered parts. -/
inductive Shape where
  | file (package : Option String)
  | assignment (targetCount : Nat)
  | call
  | selector (field : String)
  | other (kind : String)
deriving DecidableEq, Repr

/-- A node in the course of lowering: the parts to come, and those done, last one first. -/
structure Frame where
  shape : Shape
  pending : List Node
  done : List Tree := []

/-- The tree of a frame, given its lowered parts in order. -/
def Shape.build : Shape → List Tree → Tree
  | .file package, parts => .file package parts
  | .assignment targetCount, parts => .assignment (parts.take targetCount) (parts.drop targetCount)
  | .call, function :: arguments => .call function arguments
  | .call, [] => .other "call_expression" []
  | .selector field, parts =>
    match parts.getLast? with
    | some operand => .selector operand field
    | none => .other "selector_expression" []
  | .other kind, parts => .other kind parts

/-- The tree of a frame without pending parts. -/
def Frame.finish (f : Frame) : Tree := f.shape.build f.done.reverse

inductive Lowered where
  | leaf (tree : Tree)
  | branch (frame : Frame)

/-- The package that a file names in its first package clause. -/
def packageName? (file : Node) : Option String := do
  let clause ← file.children.find? (·.kind == "package_clause")
  let name ← clause.children.find? (·.kind == "package_identifier")
  return name.text

/-- The expressions in a place of a node: those of an expression list, or the one that stands
there alone. -/
def expressionsAt (n : Node) (r : Role) : List Node :=
  match n.part? r with
  | some list => if list.kind == "expression_list" then list.parts else [list]
  | none => []

/-- A node that is kept by the name of its rule. -/
def lowerOther (n : Node) : Lowered := .branch { shape := .other n.kind, pending := n.parts }

/-- Look at a node: a leaf is lowered at once, and any other node opens a frame. -/
def startLowering (n : Node) : Lowered :=
  match n.kind with
  | "identifier" => .leaf (.identifier n.text)
  | "interpreted_string_literal" | "raw_string_literal" => .leaf (.stringLiteral n.text)
  | "source_file" => .branch { shape := .file (packageName? n), pending := n.parts }
  | "assignment_statement" | "short_var_declaration" =>
    let targets := expressionsAt n .left
    .branch
      { shape := .assignment targets.length, pending := targets ++ expressionsAt n .right }
  | "call_expression" =>
    match n.part? .function with
    | some function =>
      let arguments := match n.part? .arguments with
        | some list => list.parts
        | none => []
      .branch { shape := .call, pending := function :: arguments }
    | none => lowerOther n
  | "selector_expression" =>
    match n.part? .operand, n.part? .field with
    | some operand, some field =>
      .branch { shape := .selector field.text, pending := [operand] }
    | _, _ => lowerOther n
  | _ => lowerOther n

/-! ## Pending parts get smaller -/

theorem sizes_expressionsAt_le {n c : Node} {r : Role} (h : n.part? r = some c) :
    Node.sizes (expressionsAt n r) ≤ c.size := by
  have := Node.sizes_parts_lt c
  simp only [expressionsAt, h]
  split
  · omega
  · simp

theorem sizes_expressionsAt_none {n : Node} {r : Role} (h : n.part? r = none) :
    expressionsAt n r = [] := by
  simp [expressionsAt, h]

/-- The two sides of an assignment count less than the assignment. -/
theorem sizes_sides_lt (n : Node) :
    Node.sizes (expressionsAt n .left ++ expressionsAt n .right) < n.size := by
  have hn := Node.size_eq_succ_children n
  rw [Node.sizes_append]
  cases hl : n.part? .left <;> cases hr : n.part? .right
  · simp [sizes_expressionsAt_none hl, sizes_expressionsAt_none hr]
    omega
  · have := sizes_expressionsAt_le hr
    have := Node.size_part_lt hr
    simp [sizes_expressionsAt_none hl]
    omega
  · have := sizes_expressionsAt_le hl
    have := Node.size_part_lt hl
    simp [sizes_expressionsAt_none hr]
    omega
  · have := sizes_expressionsAt_le hl
    have := sizes_expressionsAt_le hr
    have := Node.size_parts_add_lt (by decide) hl hr
    omega

/-- The parts that a node leaves to lower count less than the node. -/
theorem sizes_pending_lt {n : Node} {f : Frame} (h : startLowering n = .branch f) :
    Node.sizes f.pending < n.size := by
  have hother : ∀ {f}, lowerOther n = .branch f → Node.sizes f.pending < n.size := by
    intro f h
    simp only [lowerOther, Lowered.branch.injEq] at h
    subst h
    exact Node.sizes_parts_lt n
  unfold startLowering at h
  split at h
  · cases h
  · cases h
  · cases h
  · simp only [Lowered.branch.injEq] at h
    subst h
    exact Node.sizes_parts_lt n
  · simp only [Lowered.branch.injEq] at h
    subst h
    exact sizes_sides_lt n
  · simp only [Lowered.branch.injEq] at h
    subst h
    exact sizes_sides_lt n
  · split at h
    · rename_i function hf
      simp only [Lowered.branch.injEq] at h
      subst h
      cases ha : n.part? .arguments with
      | none => simpa using Node.size_part_lt hf
      | some list =>
        have := Node.size_parts_add_lt (by decide) hf ha
        have := Node.sizes_parts_lt list
        simp
        omega
    · exact hother h
  · split at h
    · rename_i operand field ho _
      simp only [Lowered.branch.injEq] at h
      subst h
      simpa using Node.size_part_lt ho
    · exact hother h
  · exact hother h

/-! ## The loop -/

def pendingSize : List Frame → Nat
  | [] => 0
  | f :: below => 2 * Node.sizes f.pending + 1 + pendingSize below

/-- Lower the pending parts of the top frame and then of the frames below it. -/
def runFrames (top : Frame) (below : List Frame) : Tree :=
  match _hp : top.pending with
  | n :: pending =>
    match _hs : startLowering n with
    | .leaf tree => runFrames { top with pending, done := tree :: top.done } below
    | .branch frame => runFrames frame ({ top with pending } :: below)
  | [] =>
    match below with
    | [] => top.finish
    | parent :: rest => runFrames { parent with done := top.finish :: parent.done } rest
termination_by pendingSize (top :: below)
decreasing_by
  · simp only [pendingSize, _hp, Node.sizes_cons]
    have := Node.size_eq_succ_children n
    omega
  · have := sizes_pending_lt _hs
    simp only [pendingSize, _hp, Node.sizes_cons]
    omega
  · simp only [pendingSize, _hp, Node.sizes_nil]
    omega

def lower (n : Node) : Tree :=
  match startLowering n with
  | .leaf tree => tree
  | .branch frame => runFrames frame []

end GoAssets
