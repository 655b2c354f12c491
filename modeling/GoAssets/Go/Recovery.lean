/-!
# Texts that are no Go file

A text that the grammar has no reading for still has a tree: the one of a parser that recovers. It
wraps what it could not read in error nodes, puts missing nodes where a token should have been, and
flags every node that has either in it. How it recovers is its own affair; here such a tree is
searched for what is wrong with the text.
-/

namespace GoAssets.Go

/-- A place in a text. Rows and columns count from zero. -/
structure Position where
  row : Nat
  column : Nat
deriving DecidableEq, Repr

/-- A node of a recovered tree. -/
structure Recovered where
  isError : Bool
  isMissing : Bool
  /-- The flag of a node that is an error or missing, or has such a node in it. -/
  hasError : Bool
  start : Position
  children : List Recovered

/-- What a search for faults has found: their number, and where the first one stands. -/
structure Faults where
  count : Nat := 0
  first : Option Position := none
deriving DecidableEq, Repr

namespace Recovered

mutual

def size : Recovered → Nat
  | ⟨_, _, _, _, children⟩ => 1 + sizes children

def sizes : List Recovered → Nat
  | [] => 0
  | n :: ns => n.size + sizes ns

end

@[simp] theorem sizes_append (ns ms : List Recovered) : sizes (ns ++ ms) = sizes ns + sizes ms := by
  induction ns with
  | nil => simp [sizes]
  | cons n ns ih => simp [sizes, ih, Nat.add_assoc]

@[simp] theorem sizes_reverse (ns : List Recovered) : sizes ns.reverse = sizes ns := by
  induction ns with
  | nil => rfl
  | cons n ns ih => simp [sizes, ih, Nat.add_comm]

theorem size_eq_succ_children (n : Recovered) : n.size = 1 + sizes n.children := by
  cases n
  rfl

def isFault (n : Recovered) : Bool := n.isError || n.isMissing

/-- Count a node if it is a fault. The place of the first one stays. -/
def note (found : Faults) (n : Recovered) : Faults :=
  if n.isFault then { count := found.count + 1, first := some (found.first.getD n.start) }
  else found

/-- Search the nodes on a stack, whose top is at its end. Only a node that is flagged is looked
into. -/
def searchAll (found : Faults) (stack : Array Recovered) : Faults :=
  match _h : stack.back? with
  | none => found
  | some n =>
    if n.hasError then searchAll (note found n) (stack.pop ++ n.children.reverse)
    else searchAll (note found n) stack.pop
termination_by sizes stack.toList
decreasing_by
  all_goals
    obtain ⟨rest, rfl⟩ := Array.back?_eq_some_iff.1 _h
    simp only [Array.pop_push, Array.toList_push, Array.toList_appendList, sizes_append, sizes_reverse,
      sizes, size_eq_succ_children n]
    omega

def search (root : Recovered) : Faults := searchAll {} #[root]

end Recovered

end GoAssets.Go
