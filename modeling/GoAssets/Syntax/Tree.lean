/-!
# Syntax trees

The shape of a source file that a scan looks at: files, assignments, calls, selectors,
identifiers and string literals have constructors of their own, and everything else is kept by
the name of its grammar rule.
-/

namespace GoAssets

/-- A source file, or a part of one. -/
inductive Tree where
  | file (package : Option String) (body : List Tree)
  | assignment (targets values : List Tree)
  | call (function : Tree) (arguments : List Tree)
  | selector (operand : Tree) (field : String)
  | identifier (name : String)
  | stringLiteral (raw : String)
  | other (kind : String) (children : List Tree)

namespace Tree

/-- The name of a tree's shape; of any other construct, the name of its grammar rule. -/
def kind : Tree → String
  | file .. => "File"
  | assignment .. => "Assignment"
  | call .. => "Call"
  | selector .. => "Selector"
  | identifier _ => "Identifier"
  | stringLiteral _ => "StringLiteral"
  | other kind _ => kind

def children : Tree → List Tree
  | file _ body => body
  | assignment targets values => targets ++ values
  | call function arguments => function :: arguments
  | selector operand _ => [operand]
  | identifier _ => []
  | stringLiteral _ => []
  | other _ children => children

/-- A short description of a node: its shape, and its text where it has one. -/
def label : Tree → String
  | identifier name => "Identifier:" ++ name
  | stringLiteral raw => "StringLiteral:" ++ raw
  | selector _ field => "Selector:" ++ field
  | t => t.kind

mutual

def size : Tree → Nat
  | file _ body => 1 + sizes body
  | assignment targets values => 1 + sizes targets + sizes values
  | call function arguments => 1 + function.size + sizes arguments
  | selector operand _ => 1 + operand.size
  | identifier _ => 1
  | stringLiteral _ => 1
  | other _ children => 1 + sizes children

def sizes : List Tree → Nat
  | [] => 0
  | t :: ts => t.size + sizes ts

end

@[simp] theorem sizes_nil : sizes [] = 0 := rfl

@[simp] theorem sizes_cons (t : Tree) (ts : List Tree) : sizes (t :: ts) = t.size + sizes ts := rfl

@[simp] theorem sizes_append (ts us : List Tree) : sizes (ts ++ us) = sizes ts + sizes us := by
  induction ts with
  | nil => simp
  | cons t ts ih => simp [ih, Nat.add_assoc]

@[simp] theorem sizes_reverse (ts : List Tree) : sizes ts.reverse = sizes ts := by
  induction ts with
  | nil => rfl
  | cons t ts ih => simp [ih, Nat.add_comm]

theorem size_eq_succ_children (t : Tree) : t.size = 1 + sizes t.children := by
  cases t <;> simp [size, children] <;> omega

end Tree

end GoAssets
