import GoAssets.Syntax.Lowering

/-!
# Lowering is a plain recursion

`lower` keeps a stack of frames. `lowerTree` is the same function as a recursion on the node: the
parts that a node leaves to lower are lowered, and its tree is built from them. A stack of frames
stands for what is still to be done with a tree (`unwind`), and each step of the loop keeps that.

`Node.toTree` says what lowering is for, without frames, counts of targets or lists of pending
parts: it is a structural recursion with one rule for each kind of node. `lower_eq_toTree` says that
the loop computes it for every node. What is left to show for that is that a frame, which puts its
parts into one list, cuts the list again where it was put together (`Node.toTree_of_branch`).
-/

namespace GoAssets

open Go (Node Role)

def lowerTree (n : Node) : Tree :=
  match h : startLowering n with
  | .leaf tree => tree
  | .branch frame =>
    frame.shape.build (frame.done.reverse ++ frame.pending.attach.map fun ⟨c, _⟩ => lowerTree c)
termination_by n.size
decreasing_by
  have := Node.size_le_sizes ‹c ∈ frame.pending›
  have := sizes_pending_lt h
  omega

/-- The tree of a frame whose pending parts are lowered by recursion. -/
def Frame.complete (f : Frame) : Tree :=
  f.shape.build (f.done.reverse ++ f.pending.map lowerTree)

/-- The tree that a stack of frames makes of the tree of the frame above it. -/
def unwind (tree : Tree) : List Frame → Tree
  | [] => tree
  | f :: below => unwind ({ f with done := tree :: f.done } : Frame).complete below

theorem lowerTree_of_leaf {n : Node} {tree : Tree} (h : startLowering n = .leaf tree) :
    lowerTree n = tree := by
  rw [lowerTree]
  split
  · rename_i h'
    rw [h] at h'
    cases h'
    rfl
  · rename_i h'
    rw [h] at h'
    cases h'

theorem lowerTree_of_branch {n : Node} {f : Frame} (h : startLowering n = .branch f) :
    lowerTree n = f.complete := by
  rw [lowerTree]
  split
  · rename_i h'
    rw [h] at h'
    cases h'
  · rename_i f' h'
    rw [h] at h'
    cases h'
    rw [Frame.complete, List.attach_map_val]

theorem complete_cons {f : Frame} {n : Node} {pending : List Node} (h : f.pending = n :: pending) :
    f.complete = ({ f with pending, done := lowerTree n :: f.done } : Frame).complete := by
  simp [Frame.complete, h]

/-- The loop makes of a stack what the recursion makes of each of its frames. -/
theorem runFrames_eq_unwind (top : Frame) (below : List Frame) :
    runFrames top below = unwind top.complete below := by
  fun_induction runFrames top below with
  | case1 top below n pending hpending tree hstart ih =>
      rw [ih, complete_cons hpending, lowerTree_of_leaf hstart]
  | case2 top below n pending hpending frame hstart ih =>
      rw [ih, unwind, complete_cons hpending, lowerTree_of_branch hstart]
  | case3 top hpending =>
      rw [unwind, Frame.complete, hpending, List.map_nil, List.append_nil, Frame.finish]
  | case4 top hpending parent rest ih =>
      rw [ih, unwind, Frame.complete, Frame.complete, Frame.complete, hpending, List.map_nil,
        List.append_nil, Frame.finish]

/-- Lowering with a stack of frames is lowering by recursion. -/
theorem lower_eq_lowerTree (n : Node) : lower n = lowerTree n := by
  rw [lower]
  cases h : startLowering n with
  | leaf tree => rw [lowerTree_of_leaf h]
  | branch frame =>
      rw [lowerTree_of_branch h]
      exact runFrames_eq_unwind frame []

/-! ## One rule for each kind of node -/

namespace Go.Node

def textOfKind? (wanted : String) : List Node → Option String
  | [] => none
  | mk _ kind text _ :: ns => if kind = wanted then some text else textOfKind? wanted ns

/-- The first package identifier of the first package clause. -/
def packageIn? : List Node → Option String
  | [] => none
  | mk _ kind _ children :: ns =>
    if kind = "package_clause" then textOfKind? "package_identifier" children else packageIn? ns

def textAt? (r : Role) : List Node → Option String
  | [] => none
  | mk role _ text _ :: ns => if role = some r then some text else textAt? r ns

mutual

/-- The tree of a node, by recursion on the node. -/
def toTree : Node → Tree
  | mk _ kind text children =>
    match kind with
    | "identifier" => .identifier text
    | "interpreted_string_literal" | "raw_string_literal" => .stringLiteral text
    | "source_file" => .file (packageIn? children) (toTrees children)
    | "assignment_statement" | "short_var_declaration" =>
      .assignment (sideTrees .left children) (sideTrees .right children)
    | "call_expression" =>
      match treeAt? .function children with
      | some function => .call function (argumentTrees children)
      | none => .other kind (toTrees children)
    | "selector_expression" =>
      match treeAt? .operand children, textAt? .field children with
      | some operand, some field => .selector operand field
      | _, _ => .other kind (toTrees children)
    | kind => .other kind (toTrees children)

def toTrees : List Node → List Tree
  | [] => []
  | n :: ns => if n.kind = "comment" then toTrees ns else n.toTree :: toTrees ns

def treeAt? (r : Role) : List Node → Option Tree
  | [] => none
  | n :: ns => if n.role = some r then some n.toTree else treeAt? r ns

/-- The trees of one side of an assignment: those of an expression list, or of the one expression
that stands there alone. -/
def sideTrees (r : Role) : List Node → List Tree
  | [] => []
  | mk role kind text children :: ns =>
    if role = some r then
      if kind = "expression_list" then toTrees children else [toTree (mk role kind text children)]
    else sideTrees r ns

def argumentTrees : List Node → List Tree
  | [] => []
  | mk role _ _ children :: ns =>
    if role = some .arguments then toTrees children else argumentTrees ns

end

/-! ### What the recursion finds -/

/-- A recursion that stops at the first node with some property is a search for that node. -/
theorem eq_elim_find? {α : Type} {p : Node → Bool} {f : List Node → α} {g : Node → α} {z : α}
    (hnil : f [] = z) (hcons : ∀ n ns, f (n :: ns) = if p n then g n else f ns)
    (ns : List Node) : f ns = (ns.find? p).elim z g := by
  induction ns with
  | nil => exact hnil
  | cons n ns ih =>
      rw [hcons, List.find?_cons]
      cases p n with
      | true => rfl
      | false => exact ih

theorem toTrees_eq_map (ns : List Node) :
    toTrees ns = (ns.filter fun c => !c.isComment).map toTree := by
  induction ns with
  | nil => rfl
  | cons n ns ih =>
      rw [toTrees, ih]
      by_cases h : n.kind = "comment" <;> simp [isComment, h]

theorem treeAt?_children (n : Node) (r : Role) :
    treeAt? r n.children = (n.part? r).map toTree := by
  have h := eq_elim_find? (f := treeAt? r) (p := fun c => c.role == some r)
    (g := fun c => some c.toTree) rfl (fun c cs => by simp [treeAt?]) n.children
  rw [h, part?]
  cases n.children.find? _ <;> rfl

theorem textAt?_children (n : Node) (r : Role) : textAt? r n.children = (n.part? r).map text := by
  have h := eq_elim_find? (f := textAt? r) (p := fun c => c.role == some r)
    (g := fun c => some c.text) rfl
    (fun ⟨role, _, _, _⟩ cs => by simp [textAt?, Node.role, Node.text]) n.children
  rw [h, part?]
  cases n.children.find? _ <;> rfl

theorem argumentTrees_children (n : Node) :
    argumentTrees n.children = ((n.part? .arguments).elim [] parts).map toTree := by
  have h := eq_elim_find? (f := argumentTrees) (p := fun c => c.role == some .arguments)
    (g := fun c => c.parts.map toTree) rfl
    (fun ⟨role, _, _, _⟩ cs => by
      simp [argumentTrees, Node.role, parts, Node.children, toTrees_eq_map]) n.children
  rw [h, part?]
  cases n.children.find? _ <;> rfl

theorem sideTrees_children (n : Node) (r : Role) :
    sideTrees r n.children = (expressionsAt n r).map toTree := by
  have h := eq_elim_find? (f := sideTrees r) (p := fun c => c.role == some r)
    (g := fun c => (if c.kind = "expression_list" then c.parts else [c]).map toTree) rfl
    (fun ⟨role, kind, _, _⟩ cs => by
      by_cases hlist : kind = "expression_list" <;>
        simp [sideTrees, hlist, Node.role, Node.kind, parts, Node.children, toTrees_eq_map])
    n.children
  rw [h, expressionsAt, part?]
  cases n.children.find? _ <;> simp [sideTrees]

theorem packageIn?_children (n : Node) : packageIn? n.children = packageName? n := by
  have htext (ns : List Node) := eq_elim_find? (f := textOfKind? "package_identifier")
    (p := fun c => c.kind == "package_identifier") (g := fun c => some c.text) rfl
    (fun ⟨_, kind, _, _⟩ cs => by simp [textOfKind?, Node.kind, Node.text]) ns
  have hclause := eq_elim_find? (f := packageIn?) (p := fun c => c.kind == "package_clause")
    (g := fun c => textOfKind? "package_identifier" c.children) rfl
    (fun ⟨_, kind, _, _⟩ cs => by simp [packageIn?, Node.kind, Node.children]) n.children
  rw [hclause, packageName?]
  cases n.children.find? _ with
  | none => rfl
  | some clause =>
      refine (htext clause.children).trans ?_
      cases hname : clause.children.find? _ <;> simp [hname, textOfKind?]

/-! ### What a frame builds -/

theorem toTree_of_leaf {n : Node} {tree : Tree} (h : startLowering n = .leaf tree) :
    n.toTree = tree := by
  obtain ⟨role, kind, text, children⟩ := n
  unfold startLowering at h
  simp only [Node.kind] at h
  split at h
  · exact Lowered.leaf.inj h
  · exact Lowered.leaf.inj h
  · exact Lowered.leaf.inj h
  · cases h
  · cases h
  · cases h
  · split at h <;> cases h
  · split at h <;> cases h
  · cases h

/-- The frame of a node builds the tree of the node from the trees of its pending parts. -/
theorem toTree_of_branch {n : Node} {f : Frame} (h : startLowering n = .branch f) :
    n.toTree = f.shape.build (f.done.reverse ++ f.pending.map toTree) := by
  have hparts : toTrees n.children = n.parts.map toTree := toTrees_eq_map n.children
  have hside := n.sideTrees_children
  have harguments := n.argumentTrees_children
  have htree := n.treeAt?_children
  have htext := n.textAt?_children
  have hpackage := n.packageIn?_children
  obtain ⟨role, kind, text, children⟩ := n
  simp only [Node.children] at *
  unfold startLowering at h
  simp only [Node.kind] at h
  split at h
  · cases h
  · cases h
  · cases h
  · obtain rfl := Lowered.branch.inj h
    rw [toTree, hparts, hpackage]
    rfl
  · -- An assignment: the number of targets is the place of the cut.
    obtain rfl := Lowered.branch.inj h
    rw [toTree, hside, hside]
    simp [Shape.build]
  · obtain rfl := Lowered.branch.inj h
    rw [toTree, hside, hside]
    simp [Shape.build]
  · rw [toTree, htree]
    split at h
    · rename_i function hfunction
      obtain rfl := Lowered.branch.inj h
      rw [hfunction, harguments]
      cases (mk role "call_expression" text children).part? .arguments <;> rfl
    · rename_i hfunction
      obtain rfl := Lowered.branch.inj h
      rw [hfunction, hparts]
      rfl
  · rw [toTree, htree, htext]
    split at h
    · rename_i operand field hoperand hfield
      obtain rfl := Lowered.branch.inj h
      rw [hoperand, hfield]
      rfl
    · rename_i hmissing
      obtain rfl := Lowered.branch.inj h
      rw [hparts]
      split
      · rename_i hoperand hfield
        obtain ⟨operand, hoperand, -⟩ := Option.map_eq_some_iff.mp hoperand
        obtain ⟨field, hfield, -⟩ := Option.map_eq_some_iff.mp hfield
        exact absurd hfield (hmissing operand field hoperand)
      · rfl
  · obtain rfl := Lowered.branch.inj h
    rw [toTree, hparts] <;> first | rfl | assumption

end Go.Node

/-- The parts that a node leaves to lower are smaller, so both recursions agree on them. -/
theorem lowerTree_eq_toTree (n : Node) : lowerTree n = n.toTree := by
  induction hsize : n.size using Nat.strongRecOn generalizing n with
  | ind size ih =>
      subst hsize
      cases h : startLowering n with
      | leaf tree => rw [lowerTree_of_leaf h, Node.toTree_of_leaf h]
      | branch f =>
          have hpending : ∀ c ∈ f.pending, lowerTree c = c.toTree := fun c hc =>
            ih c.size (Nat.lt_of_le_of_lt (Node.size_le_sizes hc) (sizes_pending_lt h)) c rfl
          rw [lowerTree_of_branch h, Node.toTree_of_branch h, Frame.complete,
            List.map_congr_left hpending]

/-- Lowering ends on every node, and gives the tree of the rules. -/
theorem lower_eq_toTree (n : Node) : lower n = n.toTree := by
  rw [lower_eq_lowerTree, lowerTree_eq_toTree]

end GoAssets
