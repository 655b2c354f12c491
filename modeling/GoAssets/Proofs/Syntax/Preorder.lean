import GoAssets.Statement

/-!
# A walk is the recursive pre-order

`Tree.walkAll` keeps the nodes still to be visited on an explicit stack. Here a walk is tied to the
plain recursion: `Tree.preorder` lists a node before its parts and the parts left to right, and
`walk_eq_visitAll` says that a walk shows the visitor exactly this list, one node after another,
up to the first one at which it stops. What is collected during a walk, such as the asset
statements of a tree, is then a list operation on `preorder`.

What a visitor was shown is said by the visitor itself: `Visitor.recording` writes down every node
that it is called with. `walk_recording` reads off these notes that a walk stops with the first node
at which the visitor asks for it, and goes through the whole tree if there is none.
-/

namespace GoAssets.Tree

variable {σ β : Type}

mutual

/-- A tree and everything in it: a node before its parts, and the parts left to right. -/
def preorder : Tree → List Tree
  | file package body => file package body :: preorders body
  | assignment targets values =>
    assignment targets values :: (preorders targets ++ preorders values)
  | call function arguments =>
    call function arguments :: (preorder function ++ preorders arguments)
  | selector operand field => selector operand field :: preorder operand
  | identifier name => [identifier name]
  | stringLiteral raw => [stringLiteral raw]
  | other kind children => other kind children :: preorders children

def preorders : List Tree → List Tree
  | [] => []
  | t :: ts => preorder t ++ preorders ts

end

theorem preorders_eq_flatMap (ts : List Tree) : preorders ts = ts.flatMap preorder := by
  induction ts with
  | nil => rfl
  | cons t ts ih => rw [preorders, ih, List.flatMap_cons]

/-- One equation for all shapes of trees. -/
theorem preorder_eq_cons (t : Tree) : t.preorder = t :: t.children.flatMap preorder := by
  cases t <;> simp [preorder, children, preorders_eq_flatMap]

/-- Show nodes to a visitor, one after another, until it stops. -/
def visitAll (visit : Visitor σ β) (s : σ) : List Tree → σ × Option β
  | [] => (s, none)
  | t :: rest =>
    match visit t s with
    | (s', some b) => (s', some b)
    | (s', none) => visitAll visit s' rest

/-- The stack, read from its top, stands for the pre-order of its trees: visiting a node puts its
parts above the rest, which is where their pre-order stands. -/
theorem walkAll_eq_visitAll (visit : Visitor σ β) (s : σ) (stack : Array Tree) :
    walkAll visit s stack = visitAll visit s (stack.toList.reverse.flatMap preorder) := by
  fun_induction walkAll visit s stack with
  | case1 s stack hempty =>
      rw [Array.back?_eq_none_iff.1 hempty]
      rfl
  | case2 s stack t htop s' b hvisit =>
      obtain ⟨rest, rfl⟩ := Array.back?_eq_some_iff.1 htop
      rw [Array.toList_push, List.reverse_concat, List.flatMap_cons, preorder_eq_cons,
        List.cons_append, visitAll, hvisit]
  | case3 s stack t htop s' hvisit ih =>
      obtain ⟨rest, rfl⟩ := Array.back?_eq_some_iff.1 htop
      rw [ih, Array.toList_push, List.reverse_concat, List.flatMap_cons, preorder_eq_cons,
        List.cons_append, visitAll, hvisit, toList_pushParts, Array.pop_push, List.reverse_append,
        List.reverse_reverse, List.flatMap_append]

theorem walk_eq_visitAll (visit : Visitor σ β) (s : σ) (t : Tree) :
    t.walk visit s = visitAll visit s t.preorder := by
  rw [walk, walkAll_eq_visitAll, List.reverse_singleton, List.flatMap_singleton]

/-- A visitor that never stops folds over the pre-order. -/
theorem visitAll_of_continues {visit : Visitor σ β} {next : Tree → σ → σ}
    (h : ∀ t s, visit t s = (next t s, none)) (s : σ) (ts : List Tree) :
    visitAll visit s ts = (ts.foldl (fun s t => next t s) s, none) := by
  induction ts generalizing s with
  | nil => rfl
  | cons t ts ih => rw [visitAll, h, List.foldl_cons]; exact ih _

/-! ## What a visitor is shown -/

/-- The visitor that writes down the nodes it is called with, and is the given one otherwise. -/
def Visitor.recording (visit : Visitor σ β) : Visitor (σ × List Tree) β :=
  fun t s => (((visit t s.1).1, s.2 ++ [t]), (visit t s.1).2)

/-- The visitor goes through some nodes in order, from one state to another, and asks to stop at
none of them. -/
inductive Visitor.Passes (visit : Visitor σ β) : σ → List Tree → σ → Prop where
  | nil (s : σ) : Passes visit s [] s
  | cons {s s' s'' : σ} {t : Tree} {ts : List Tree} (here : visit t s = (s', none))
      (rest : Passes visit s' ts s'') : Passes visit s (t :: ts) s''

theorem Visitor.Passes.visitAll_append {visit : Visitor σ β} {s s' : σ} {ts : List Tree}
    (h : Passes visit s ts s') (rest : List Tree) :
    visitAll visit s (ts ++ rest) = visitAll visit s' rest := by
  induction h with
  | nil s => rfl
  | cons here _ ih => rw [List.cons_append, visitAll, here]; exact ih

/-- Writing nodes down does not change where a visitor asks to stop. -/
theorem Visitor.Passes.recording {visit : Visitor σ β} {s s' : σ} {ts : List Tree}
    (h : Passes visit s ts s') (seen : List Tree) :
    Passes (Visitor.recording visit) (s, seen) ts (s', seen ++ ts) := by
  induction h generalizing seen with
  | nil s => rw [List.append_nil]; exact .nil _
  | @cons s s' s'' t ts here _ ih =>
      rw [List.append_cons]
      exact .cons (by rw [Visitor.recording, here]) (ih (seen ++ [t]))

/-- A visitor goes through all nodes of a list, or there is a first one at which it asks to stop. -/
theorem Visitor.passes_or_stops (visit : Visitor σ β) (s : σ) (ts : List Tree) :
    (∃ s', Passes visit s ts s')
    ∨ ∃ before node after s' s'' b, ts = before ++ node :: after ∧ Passes visit s before s'
      ∧ visit node s' = (s'', some b) := by
  induction ts generalizing s with
  | nil => exact .inl ⟨s, .nil s⟩
  | cons t ts ih =>
      rcases hvisit : visit t s with ⟨s₁, _ | b⟩
      · rcases ih s₁ with ⟨s', h⟩ | ⟨before, node, after, s', s'', b, rfl, h, hstop⟩
        · exact .inl ⟨s', .cons hvisit h⟩
        · exact .inr ⟨t :: before, node, after, s', s'', b, rfl, .cons hvisit h, hstop⟩
      · exact .inr ⟨[], t, ts, s, s₁, b, rfl, .nil s, hvisit⟩

mutual

theorem length_preorder : ∀ t : Tree, t.preorder.length = t.size
  | file _ body => by simp [preorder, size, length_preorders body, Nat.add_comm]
  | assignment targets values => by
      simp only [preorder, size, List.length_cons, List.length_append, length_preorders]
      omega
  | call function arguments => by
      simp only [preorder, size, List.length_cons, List.length_append, length_preorder function,
        length_preorders]
      omega
  | selector operand _ => by simp [preorder, size, length_preorder operand, Nat.add_comm]
  | identifier _ => rfl
  | stringLiteral _ => rfl
  | other _ children => by simp [preorder, size, length_preorders children, Nat.add_comm]

theorem length_preorders : ∀ ts : List Tree, (preorders ts).length = sizes ts
  | [] => rfl
  | t :: ts => by
      rw [preorders, List.length_append, length_preorder t, length_preorders ts, sizes_cons]

end

/-- A walk calls the visitor with the nodes of the pre-order, which are as many as the tree has
nodes, in this order and with the state that the call before left. If the visitor asks to stop at
none of them, it is called with all of them, and the walk ends without a value. Otherwise it is
called with the nodes up to and including the first at which it asks to stop, and its value is the
value of the walk. -/
theorem walk_recording (visit : Visitor σ β) (s : σ) (t : Tree) :
    t.preorder.length = t.size
    ∧ ((∃ s', Visitor.Passes visit s t.preorder s'
        ∧ t.walk visit s = (s', none)
        ∧ t.walk (Visitor.recording visit) (s, []) = ((s', t.preorder), none))
      ∨ ∃ before node after s' s'' b, t.preorder = before ++ node :: after
        ∧ Visitor.Passes visit s before s' ∧ visit node s' = (s'', some b)
        ∧ t.walk visit s = (s'', some b)
        ∧ t.walk (Visitor.recording visit) (s, []) = ((s'', before ++ [node]), some b)) := by
  refine ⟨t.length_preorder, ?_⟩
  rw [walk_eq_visitAll, walk_eq_visitAll]
  rcases Visitor.passes_or_stops visit s t.preorder with
    ⟨s', h⟩ | ⟨before, node, after, s', s'', b, heq, h, hstop⟩
  · refine .inl ⟨s', h, ?_, ?_⟩
    · simpa [visitAll] using h.visitAll_append []
    · simpa [visitAll] using (h.recording []).visitAll_append []
  · refine .inr ⟨before, node, after, s', s'', b, heq, h, hstop, ?_, ?_⟩
    · rw [heq, h.visitAll_append, visitAll, hstop]
    · rw [heq, (h.recording []).visitAll_append, visitAll, Visitor.recording, hstop]
      rfl

/-! ## Asset statements -/

theorem toList_foldl_statement? {add : Tree → Array Statement → Array Statement}
    (hadd : ∀ t found, (add t found).toList = found.toList ++ t.statement?.toList)
    (ts : List Tree) (found : Array Statement) :
    (ts.foldl (fun found t => add t found) found).toList
      = found.toList ++ ts.filterMap statement? := by
  induction ts generalizing found with
  | nil => simp
  | cons t ts ih =>
      rw [List.foldl_cons, ih, hadd]
      cases h : t.statement? <;> simp [h]

/-- The asset statements of a tree are those of its nodes in pre-order. -/
theorem statements_eq_filterMap (t : Tree) :
    t.statements = t.preorder.filterMap statement? := by
  rw [statements, walk_eq_visitAll, visitAll_of_continues (fun _ _ => rfl)]
  refine (toList_foldl_statement? ?_ t.preorder #[]).trans (List.nil_append _)
  intro node found
  cases node.statement? <;> simp

end GoAssets.Tree
