import GoAssets.Proofs.Scan.Session
import GoAssets.Proofs.Syntax.Lowering
import Mathlib.Data.List.Forall2

/-!
# Comments leave no trace

A comment can stand among the parts of any node, and each kind of node gets at its parts in its own
way: through the list of all of them, through the part in some place, through the expressions in a
list or alone in its place, through a search for the package clause. None of these ways sees a
comment, unless it takes a place itself.

`Node.Sheds` relates a node to what is left of it when any of its comments are removed, at any depth.
`alike_startLowering` goes through the kinds of nodes once: what is looked at first is the same for
both nodes, and the parts that are left to lower are related again, one by one. So the trees are the
same (`lowerTree_of_sheds`), and with them everything that a scan makes of them.
-/

namespace GoAssets

open Go (Node Role)

namespace Go.Node

/-- Lists of nodes that are related one by one, but for comments that the second list lacks. A comment
that takes a place in the node above it is never lacking. -/
inductive Thinned (R : Node → Node → Prop) : List Node → List Node → Prop where
  | nil : Thinned R [] []
  | keep {n n' : Node} {ns ns' : List Node} (first : R n n') (rest : Thinned R ns ns') :
      Thinned R (n :: ns) (n' :: ns')
  | drop {n : Node} {ns ns' : List Node} (hcomment : n.isComment = true) (hrole : n.role = none)
      (rest : Thinned R ns ns') : Thinned R (n :: ns) ns'

/-- The second node is the first one without some of the comments in it. -/
inductive Sheds : Node → Node → Prop where
  | mk {role : Option Role} {kind text : String} {children children' : List Node}
      (parts : Thinned Sheds children children') :
      Sheds (.mk role kind text children) (.mk role kind text children')

variable {n n' : Node}

theorem Sheds.role_eq (h : n.Sheds n') : n'.role = n.role := by
  cases h
  rfl

theorem Sheds.kind_eq (h : n.Sheds n') : n'.kind = n.kind := by
  cases h
  rfl

theorem Sheds.text_eq (h : n.Sheds n') : n'.text = n.text := by
  cases h
  rfl

theorem Sheds.thinned (h : n.Sheds n') : Thinned Sheds n.children n'.children := by
  cases h with
  | mk parts => exact parts

/-! ## What a node finds among its parts -/

/-- A search that passes over comments finds related nodes. -/
theorem Thinned.find? {ns ns' : List Node} (h : Thinned Sheds ns ns') {p : Node → Bool}
    (hp : ∀ c c', c.Sheds c' → p c' = p c)
    (hcomment : ∀ c, c.isComment = true → c.role = none → p c = false) :
    Option.Rel Sheds (ns.find? p) (ns'.find? p) := by
  induction h with
  | nil => exact .none
  | @keep c c' ns ns' first _ ih =>
      rw [List.find?_cons, List.find?_cons, hp c c' first]
      cases p c with
      | true => exact .some first
      | false => exact ih
  | drop hc hrole _ ih =>
      rw [List.find?_cons, hcomment _ hc hrole]
      exact ih

theorem Sheds.part? (h : n.Sheds n') (r : Role) : Option.Rel Sheds (n.part? r) (n'.part? r) := by
  refine h.thinned.find? ?_ ?_
  · intro c c' hc
    rw [hc.role_eq]
  · intro c _ hrole
    rw [hrole]
    rfl

theorem Sheds.find?_kind (h : n.Sheds n') (wanted : String) (hwanted : wanted ≠ "comment") :
    Option.Rel Sheds (n.children.find? (·.kind == wanted))
      (n'.children.find? (·.kind == wanted)) := by
  refine h.thinned.find? ?_ ?_
  · intro c c' hc
    rw [hc.kind_eq]
  · intro c hc _
    rw [eq_of_beq hc]
    exact beq_false_of_ne hwanted.symm

theorem Sheds.parts (h : n.Sheds n') : List.Forall₂ Sheds n.parts n'.parts := by
  have hfilter : ∀ {ns ns' : List Node}, Thinned Sheds ns ns' →
      List.Forall₂ Sheds (ns.filter fun c => !c.isComment) (ns'.filter fun c => !c.isComment) := by
    intro ns ns' h
    induction h with
    | nil => exact .nil
    | @keep c c' ns ns' first _ ih =>
        have hcomment : c'.isComment = c.isComment := by rw [isComment, first.kind_eq, isComment]
        rw [List.filter_cons, List.filter_cons, hcomment]
        cases c.isComment with
        | true => exact ih
        | false => exact .cons first ih
    | drop hc _ _ ih =>
        rw [List.filter_cons, hc]
        exact ih
  exact hfilter h.thinned

theorem Sheds.expressionsAt (h : n.Sheds n') (r : Role) :
    List.Forall₂ Sheds (expressionsAt n r) (expressionsAt n' r) := by
  have hpart := h.part? r
  unfold GoAssets.expressionsAt
  generalize n.part? r = found at hpart ⊢
  generalize n'.part? r = found' at hpart ⊢
  cases hpart with
  | none => exact .nil
  | some hlist =>
      dsimp only
      rw [hlist.kind_eq]
      split
      · exact hlist.parts
      · exact .cons hlist .nil

/-- The package clause is found by its kind, and so is the name in it. -/
theorem Sheds.packageName? (h : n.Sheds n') : packageName? n' = packageName? n := by
  have hclause := h.find?_kind "package_clause" (by decide)
  unfold GoAssets.packageName?
  generalize n.children.find? (·.kind == "package_clause") = found at hclause ⊢
  generalize n'.children.find? (·.kind == "package_clause") = found' at hclause ⊢
  cases hclause with
  | none => rfl
  | @some clause clause' hclause =>
      have hname := hclause.find?_kind "package_identifier" (by decide)
      simp only [Option.bind_eq_bind, Option.bind_some]
      generalize clause.children.find? (·.kind == "package_identifier") = found at hname ⊢
      generalize clause'.children.find? (·.kind == "package_identifier") = found' at hname ⊢
      cases hname with
      | none => rfl
      | some hname => exact congrArg some hname.text_eq

end Go.Node

/-! ## Lowering -/

/-- Two nodes start to be lowered in the same way: they become the same leaf, or they open frames of
the same shape with related parts to come. -/
inductive Lowered.Alike : Lowered → Lowered → Prop where
  | leaf (tree : Tree) : Alike (.leaf tree) (.leaf tree)
  | branch {shape : Shape} {pending pending' : List Node}
      (h : List.Forall₂ Node.Sheds pending pending') :
      Alike (.branch { shape, pending }) (.branch { shape, pending := pending' })

theorem alike_lowerOther {n n' : Node} (h : n.Sheds n') :
    (lowerOther n).Alike (lowerOther n') := by
  unfold lowerOther
  rw [h.kind_eq]
  exact .branch h.parts

theorem alike_sides {n n' : Node} (h : n.Sheds n') :
    Lowered.Alike
      (.branch { shape := .assignment (expressionsAt n .left).length
                 pending := expressionsAt n .left ++ expressionsAt n .right })
      (.branch { shape := .assignment (expressionsAt n' .left).length
                 pending := expressionsAt n' .left ++ expressionsAt n' .right }) := by
  rw [(h.expressionsAt .left).length_eq]
  exact .branch (List.rel_append (h.expressionsAt .left) (h.expressionsAt .right))

theorem alike_startLowering {n n' : Node} (h : n.Sheds n') :
    (startLowering n).Alike (startLowering n') := by
  have hfunction := h.part? .function
  have harguments := h.part? .arguments
  have hoperand := h.part? .operand
  have hfield := h.part? .field
  unfold startLowering
  rw [h.kind_eq, h.text_eq, h.packageName?]
  split
  · exact .leaf _
  · exact .leaf _
  · exact .leaf _
  · exact .branch h.parts
  · exact alike_sides h
  · exact alike_sides h
  · generalize n.part? .function = function at hfunction ⊢
    generalize n'.part? .function = function' at hfunction ⊢
    cases hfunction with
    | none => exact alike_lowerOther h
    | some hfunction =>
        refine .branch (.cons hfunction ?_)
        generalize n.part? .arguments = list at harguments ⊢
        generalize n'.part? .arguments = list' at harguments ⊢
        cases harguments with
        | none => exact .nil
        | some harguments => exact harguments.parts
  · generalize n.part? .operand = operand at hoperand ⊢
    generalize n'.part? .operand = operand' at hoperand ⊢
    generalize n.part? .field = field at hfield ⊢
    generalize n'.part? .field = field' at hfield ⊢
    cases hoperand with
    | none => exact alike_lowerOther h
    | some hoperand =>
        cases hfield with
        | none => exact alike_lowerOther h
        | some hfield =>
            dsimp only
            rw [hfield.text_eq]
            exact .branch (.cons hoperand .nil)
  · exact alike_lowerOther h

theorem map_lowerTree_of_forall₂ {ns ns' : List Node} (h : List.Forall₂ Node.Sheds ns ns')
    (hns : ∀ c ∈ ns, ∀ c', c.Sheds c' → lowerTree c' = lowerTree c) :
    ns'.map lowerTree = ns.map lowerTree := by
  induction h with
  | nil => rfl
  | @cons c c' ns ns' first _ ih =>
      rw [List.map_cons, List.map_cons, hns c (List.mem_cons_self ..) c' first,
        ih fun d hd => hns d (List.mem_cons_of_mem _ hd)]

theorem lowerTree_of_sheds {n n' : Node} (h : n.Sheds n') : lowerTree n' = lowerTree n := by
  induction hsize : n.size using Nat.strongRecOn generalizing n n' with
  | ind size ih =>
      subst hsize
      have halike := alike_startLowering h
      generalize hstart : startLowering n = start at halike
      generalize hstart' : startLowering n' = start' at halike
      cases halike with
      | leaf tree => rw [lowerTree_of_leaf hstart, lowerTree_of_leaf hstart']
      | branch hpending =>
          rw [lowerTree_of_branch hstart, lowerTree_of_branch hstart', Frame.complete,
            Frame.complete, map_lowerTree_of_forall₂ hpending]
          -- The parts that are left to lower are smaller than the node.
          intro c hc c' hsheds
          exact ih c.size (Nat.lt_of_le_of_lt (Node.size_le_sizes hc) (sizes_pending_lt hstart))
            hsheds rfl

/-! ## Scanning -/

/-- What a file is read as, given its concrete syntax. -/
def SourceTree.ofNode (file : Path) (n : Node) : Except SourceError SourceTree :=
  match lower n with
  | .file (some package) body => .ok ⟨package, .file (some package) body⟩
  | _ => .error (.missingPackage file)

def Session.scanNode (s : Session) (sc : Scanner) (file : Path) (n : Node) :
    Session × Option Error :=
  match SourceTree.ofNode file n with
  | .error e => (s, some (.source e))
  | .ok tree => s.scanTree sc file tree

def Scanner.scanNodes (sc : Scanner) (inputs : List (Path × Node)) : ScanReport :=
  Session.report (Session.scanAll (fun input s => s.scanNode sc input.1 input.2)
    (Session.start none) inputs)

/-- A text within the size limit has a given concrete syntax. -/
def Scanner.ReadsNode (sc : Scanner) (input : Path × String) (node : Path × Node) : Prop :=
  sc.admits input.2 = true ∧ input.1 = node.1 ∧ Go.parseNode input.2.toList = some node.2

/-- The scan of texts is the scan of their concrete syntax. -/
theorem Scanner.scanSources_eq_scanNodes {sc : Scanner} {inputs : List (Path × String)}
    {nodes : List (Path × Node)} (h : List.Forall₂ sc.ReadsNode inputs nodes) :
    sc.scanSources inputs = sc.scanNodes nodes := by
  have hstep : ∀ {input node}, sc.ReadsNode input node → ∀ s : Session,
      Session.scanSource sc input s = s.scanNode sc node.1 node.2 := by
    rintro ⟨file, source⟩ ⟨_, n⟩ ⟨hsize, rfl, hnode⟩ s
    have hparse : parseSource sc.recover file source = SourceTree.ofNode file n := by
      rw [parseSource, hnode]
      rfl
    rw [Session.scanSource, Session.tooLarge?_eq, if_pos hsize, Session.scanNode, ← hparse]
    rfl
  rw [scanSources, scanNodes]
  generalize Session.start none = s
  induction h generalizing s with
  | nil => rfl
  | @cons input node inputs nodes first _ ih =>
      rw [Session.scanAll, Session.scanAll, hstep first]
      cases s.scanNode sc node.1 node.2 with
      | mk s' stop =>
          cases stop with
          | some e => rfl
          | none => exact ih s'

/-- Comments make no difference. A node that lacks some of the comments of another one, at any depth,
has the same tree, hence the same package and the same asset statements; and a scan reports the same,
whichever of the two is the concrete syntax of a file. -/
theorem lower_of_sheds {n n' : Node} (h : n.Sheds n') :
    lower n' = lower n
    ∧ packageName? n' = packageName? n
    ∧ (lower n').statements = (lower n).statements
    ∧ ∀ (sc : Scanner) (file : Path) (before after : List (Path × Node)),
        sc.scanNodes (before ++ (file, n') :: after)
          = sc.scanNodes (before ++ (file, n) :: after) := by
  have hlower : lower n' = lower n := by
    rw [lower_eq_lowerTree, lower_eq_lowerTree, lowerTree_of_sheds h]
  refine ⟨hlower, h.packageName?, by rw [hlower], ?_⟩
  intro sc file before after
  have hstep : ∀ s : Session, s.scanNode sc file n' = s.scanNode sc file n := by
    intro s
    rw [Session.scanNode, SourceTree.ofNode, hlower]
    rfl
  rw [Scanner.scanNodes, Session.scanAll_append, Scanner.scanNodes, Session.scanAll_append]
  simp only [Session.scanAll, hstep]

/-- The concrete syntax of `package a; x = assets.String("logo.png")` with given nodes in the package
clause, before the declarations, among the targets, beside the operand and among the arguments. -/
def annotatedFile (notes : List Node) : Node :=
  .inner "source_file"
    (.inner "package_clause" (notes ++ [.token "package_identifier" ['a']]) :: notes
      ++ [.inner "assignment_statement"
        [.withRole .left (.inner "expression_list" (.token "identifier" ['x'] :: notes)),
          .withRole .right (.inner "expression_list"
            [.inner "call_expression"
              [.withRole .function (.inner "selector_expression"
                (.withRole .operand (.token "identifier" "assets".toList) :: notes
                  ++ [.withRole .field (.token "field_identifier" "String".toList)])),
                .withRole .arguments (.inner "argument_list"
                  (notes ++ [.token "interpreted_string_literal" "\"logo.png\"".toList]))]])]])

theorem lower_of_sheds_annotatedFile :
    (annotatedFile [.token "comment" "// note".toList]).Sheds (annotatedFile [])
      ∧ packageName? (annotatedFile [.token "comment" "// note".toList]) = some "a"
      ∧ (lower (annotatedFile [.token "comment" "// note".toList])).statements
          = [⟨"x", ⟨"assets", "String", "logo.png"⟩⟩] := by
  have hsheds : (annotatedFile [.token "comment" "// note".toList]).Sheds (annotatedFile []) :=
    have htoken : ∀ {role kind text}, Node.Sheds (.mk role kind text []) (.mk role kind text []) :=
      .mk .nil
    have hclause := .mk (.drop rfl rfl (.keep htoken .nil))
    have htargets := .mk (.keep htoken (.drop rfl rfl .nil))
    have hselector := .mk (.keep htoken (.drop rfl rfl (.keep htoken .nil)))
    have harguments := .mk (.drop rfl rfl (.keep htoken .nil))
    have hcall := .mk (.keep hselector (.keep harguments .nil))
    have hvalues := .mk (.keep hcall .nil)
    .mk (.keep hclause (.drop rfl rfl (.keep (.mk (.keep htargets (.keep hvalues .nil))) .nil)))
  obtain ⟨-, hpackage, hstatements, -⟩ := lower_of_sheds hsheds
  refine ⟨hsheds, hpackage.symm, ?_⟩
  rw [← hstatements, lower_eq_lowerTree, lowerTree_eq_toTree, Tree.statements_eq_filterMap]
  decide +kernel

end GoAssets
