/-!
# Concrete syntax

A node of the concrete syntax of a Go file carries the name of its grammar rule, its text if it
is a single token, and its parts. Keywords and punctuation leave no node. A part that lowering
asks for by name carries its role in the node above it.
-/

namespace GoAssets.Go

/-- The named places of a node that a part can take. -/
inductive Role where
  | left
  | right
  | function
  | arguments
  | operand
  | field
deriving DecidableEq, Repr

inductive Node where
  | mk (role : Option Role) (kind text : String) (children : List Node)

namespace Node

def role : Node → Option Role
  | mk role .. => role

def kind : Node → String
  | mk _ kind .. => kind

def text : Node → String
  | mk _ _ text _ => text

def children : Node → List Node
  | mk _ _ _ children => children

def token (kind : String) (text : List Char) : Node :=
  mk none kind (String.ofList text) []

def inner (kind : String) (children : List Node) : Node :=
  mk none kind "" children

def withRole (r : Role) : Node → Node
  | mk _ kind text children => mk (some r) kind text children

/-- The part in a given place. -/
def part? (n : Node) (r : Role) : Option Node :=
  n.children.find? (fun c => c.role == some r)

def isComment (n : Node) : Bool := n.kind == "comment"

/-- The parts of the node that are not comments. -/
def parts (n : Node) : List Node := n.children.filter (fun c => !c.isComment)

mutual

def size : Node → Nat
  | mk _ _ _ children => 1 + sizes children

def sizes : List Node → Nat
  | [] => 0
  | n :: ns => n.size + sizes ns

end

@[simp] theorem sizes_nil : sizes [] = 0 := rfl

@[simp] theorem sizes_cons (n : Node) (ns : List Node) : sizes (n :: ns) = n.size + sizes ns := rfl

@[simp] theorem sizes_append (ns ms : List Node) : sizes (ns ++ ms) = sizes ns + sizes ms := by
  induction ns with
  | nil => simp
  | cons n ns ih => simp [ih, Nat.add_assoc]

theorem size_eq_succ_children (n : Node) : n.size = 1 + sizes n.children := by
  cases n
  rfl

theorem sizes_filter_le (p : Node → Bool) (ns : List Node) : sizes (ns.filter p) ≤ sizes ns := by
  induction ns with
  | nil => simp
  | cons n ns ih =>
    by_cases h : p n <;> simp [h] <;> omega

theorem size_le_sizes {n : Node} {ns : List Node} (h : n ∈ ns) : n.size ≤ sizes ns := by
  induction ns with
  | nil => simp at h
  | cons m ns ih =>
    rcases List.mem_cons.mp h with rfl | h
    · simp
    · have := ih h
      simp
      omega

theorem sizes_parts_lt (n : Node) : sizes n.parts < n.size := by
  have := sizes_filter_le (fun c => !c.isComment) n.children
  rw [size_eq_succ_children, parts]
  omega

theorem size_part_lt {n c : Node} {r : Role} (h : n.part? r = some c) : c.size < n.size := by
  have := size_le_sizes (List.mem_of_find?_eq_some h)
  rw [size_eq_succ_children n]
  omega

/-- Two parts in different places count less than their node together. -/
theorem size_parts_add_lt {n c d : Node} {r q : Role} (hne : r ≠ q) (hc : n.part? r = some c)
    (hd : n.part? q = some d) : c.size + d.size < n.size := by
  have key : ∀ ns : List Node, ns.find? (fun c => c.role == some r) = some c →
      ns.find? (fun c => c.role == some q) = some d → c.size + d.size ≤ sizes ns := by
    intro ns
    induction ns with
    | nil => simp
    | cons m ns ih =>
      intro h₁ h₂
      rw [List.find?_cons] at h₁ h₂
      by_cases hr : m.role = some r <;> by_cases hq : m.role = some q
      · exact absurd (Option.some.inj (hr.symm.trans hq)) hne
      · simp only [hr, beq_self_eq_true, Option.some.injEq] at h₁
        have hq' : (m.role == some q) = false := by simpa using hq
        simp only [hq'] at h₂
        have := size_le_sizes (List.mem_of_find?_eq_some h₂)
        subst h₁
        simp
        omega
      · simp only [hq, beq_self_eq_true, Option.some.injEq] at h₂
        have hr' : (m.role == some r) = false := by simpa using hr
        simp only [hr'] at h₁
        have := size_le_sizes (List.mem_of_find?_eq_some h₁)
        subst h₂
        simp
        omega
      · have hr' : (m.role == some r) = false := by simpa using hr
        have hq' : (m.role == some q) = false := by simpa using hq
        simp only [hr'] at h₁
        simp only [hq'] at h₂
        have := ih h₁ h₂
        simp
        omega
  have := key n.children hc hd
  rw [size_eq_succ_children n]
  omega

end Node

end GoAssets.Go
