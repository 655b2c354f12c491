import GoAssets.Proofs.Go.File
import GoAssets.Proofs.Go.Lexeme
import GoAssets.Proofs.Go.Statement
import GoAssets.Proofs.Syntax.Lowering
import GoAssets.Proofs.Syntax.Preorder
import GoAssets.Source

/-!
# Asset statements are recognised in a text

A file whose function `init` holds asset statements, one on each line, is read as its package and
exactly these statements. The text passes through four stages: it is cut into lexemes
(`lexemes_text`), brackets are closed (`itemsOf_text`), the items are read (`parseNode_text`) and
the node is lowered (`parseSource_text`). At each stage a list of statements becomes the list of
what one statement becomes, so nothing that stands in one of them reaches another.
-/

namespace GoAssets

open Go

/-! ## Texts -/

def keywords : List String :=
  ["break", "case", "chan", "const", "continue", "default", "defer", "else", "fallthrough", "for",
    "func", "go", "goto", "if", "import", "interface", "map", "package", "range", "return",
    "select", "struct", "switch", "type", "var"]

/-- The predeclared names that the grammar reads in a way of their own. -/
def reservedNames : List String := ["nil", "true", "false", "iota", "new", "make"]

/-- Whether a text is a letter of ASCII with letters, digits and underscores after it. -/
def isPlainSpelling (cs : List Char) : Bool :=
  match cs with
  | [] => false
  | c :: cs => c.isAlpha && cs.all fun d => d.isAlphanum || d == '_'

/-- A name in letters, digits and underscores of ASCII that is not reserved. -/
structure IsPlainName (w : String) : Prop where
  spelled : isPlainSpelling w.toList = true
  not_keyword : w ∉ keywords
  not_reserved : w ∉ reservedNames

instance (w : String) : Decidable (IsPlainName w) :=
  decidable_of_iff (isPlainSpelling w.toList = true ∧ w ∉ keywords ∧ w ∉ reservedNames)
    ⟨fun h => ⟨h.1, h.2.1, h.2.2⟩, fun h => ⟨h.1, h.2, h.3⟩⟩

/-- An asset statement in plain names, whose path can stand between quotes as it is. -/
structure Statement.IsPlain (s : Statement) : Prop where
  target : IsPlainName s.target
  receiver : IsPlainName s.call.receiver
  method : IsPlainName s.call.method
  path : s.call.path.toList.all isPlainText = true

instance (s : Statement) : Decidable s.IsPlain :=
  decidable_of_iff (IsPlainName s.target ∧ IsPlainName s.call.receiver ∧ IsPlainName s.call.method
      ∧ s.call.path.toList.all isPlainText = true)
    ⟨fun h => ⟨h.1, h.2.1, h.2.2.1, h.2.2.2⟩, fun h => ⟨h.1, h.2, h.3, h.4⟩⟩

/-- How a file is laid out: what stands before each statement, and whether the last line is
ended. -/
structure Layout where
  indent : String
  ended : Bool
  indent_blank : indent.toList.all (fun c => c == ' ' || c == '\t') = true

namespace Layout

theorem tab_blank : "\t".toList.all (fun c => c == ' ' || c == '\t') = true := by decide

/-- Every statement after a tab, and the last line ended. -/
def tabbed : Layout := ⟨"\t", true, tab_blank⟩

def line (layout : Layout) (s : Statement) : String :=
  layout.indent ++ s.target ++ " := " ++ s.call.receiver ++ "." ++ s.call.method ++ "(\""
    ++ s.call.path ++ "\")\n"

/-- The text of a file whose function `init` holds asset statements. -/
def text (layout : Layout) (package : String) (stmts : List Statement) : String :=
  "package " ++ package ++ "\n\nfunc init() \x7b\n" ++ String.join (stmts.map layout.line)
    ++ "\x7d" ++ if layout.ended then "\n" else ""

end Layout

/-! ## Names -/

theorem contains_eq_false {w : String} {ws vs : List String} (h : w ∉ vs) (hsub : ws ⊆ vs) :
    ws.contains w = false := by
  rw [List.contains_eq_mem, decide_eq_false_iff_not]
  exact fun hw => h (hsub hw)

theorem IsPlainName.isPlainWord {w : String} (h : IsPlainName w) : IsPlainWord w where
  type := contains_eq_false h.not_keyword (by decide)
  predeclared := contains_eq_false h.not_reserved (by decide)
  statement := contains_eq_false h.not_keyword (by decide)
  clause := by
    have hclause : ["case", "default"].contains w = false :=
      contains_eq_false h.not_keyword (by decide)
    simpa [isClauseKeyword] using hclause

theorem IsPlainName.toList_eq_cons {w : String} (h : IsPlainName w) :
    ∃ c cs, w.toList = c :: cs ∧ c.isAlpha = true
      ∧ ∀ d ∈ cs, d.isAlphanum = true ∨ d = '_' := by
  have hspelled := h.spelled
  cases hw : w.toList with
  | nil => simp [isPlainSpelling, hw] at hspelled
  | cons c cs =>
      simp only [isPlainSpelling, hw, Bool.and_eq_true, List.all_eq_true, Bool.or_eq_true,
        beq_iff_eq] at hspelled
      exact ⟨c, cs, rfl, hspelled⟩

/-- A plain name is one lexeme, up to a character that cannot continue it. -/
theorem lexFrom_name {w : String} (h : IsPlainName w) {before : Neighbor} {found : List Lexeme}
    {c : Char} (rest : List Char) (hc : Text.continuesIdentifier c = false) :
    lexFrom 0 before found (w.toList ++ c :: rest)
      = lexFrom 0 .other (.word w :: found) (c :: rest) := by
  obtain ⟨d, ds, hw, hd, hds⟩ := h.toList_eq_cons
  rw [hw, lexFrom_word, ← hw, String.ofList_toList]
  · simp [Text.startsIdentifier, hd]
  · intro e he
    rcases hds e he with halpha | rfl
    · simp only [Char.isAlphanum, Bool.or_eq_true] at halpha
      rcases halpha with halpha | hdigit
      · simp [Text.continuesIdentifier, Text.startsIdentifier, halpha]
      · simp [Text.continuesIdentifier, hdigit]
    · rfl
  · rintro e ⟨⟩
    exact hc

theorem not_isDigit_of_isAlpha {c : Char} (hc : c.isAlpha = true) : c.isDigit = false := by
  change (decide (c.val ≥ 'A'.val ∧ c.val ≤ 'Z'.val)
    || decide (c.val ≥ 'a'.val) && decide (c.val ≤ 'z'.val)) = true at hc
  simp only [Bool.or_eq_true, Bool.and_eq_true, decide_eq_true_eq, ge_iff_le,
    UInt32.le_iff_toNat_le] at hc
  simp only [Char.isDigit, Bool.and_eq_false_iff, decide_eq_false_iff_not, ge_iff_le,
    UInt32.le_iff_toNat_le]
  change (65 ≤ c.toNat ∧ c.toNat ≤ 90) ∨ 97 ≤ c.toNat ∧ c.toNat ≤ 122 at hc
  change ¬ 48 ≤ c.toNat ∨ ¬ c.toNat ≤ 57
  omega

theorem lexFrom_dot_name {w : String} (h : IsPlainName w) {before : Neighbor}
    {found : List Lexeme} (rest : List Char) :
    lexFrom 0 before found ('.' :: (w.toList ++ rest))
      = lexFrom 0 .mark (.mark '.' (before == .mark) :: found) (w.toList ++ rest) := by
  obtain ⟨c, cs, hw, hc, -⟩ := h.toList_eq_cons
  rw [hw]
  exact lexFrom_dot (not_isDigit_of_isAlpha hc)

/-! ## Lexemes -/

def assetLexemes (s : Statement) : List Lexeme :=
  [.word s.target, .mark ':' false, .mark '=' true, .word s.call.receiver, .mark '.' false,
    .word s.call.method, .opening .round, .literal (pathLiteral s.call.path), .closing .round,
    .line]

variable {s : Statement} {stmts : List Statement} {found : List Lexeme} {rest : List Char}

theorem Layout.toList_line (layout : Layout) (s : Statement) :
    (layout.line s).toList = layout.indent.toList ++ (s.target.toList ++ ' ' :: ':' :: '=' :: ' '
      :: (s.call.receiver.toList ++ '.' :: (s.call.method.toList ++ '('
        :: ('"' :: s.call.path.toList ++ '"' :: [')', '\n'])))) := by
  have hassign : " := ".toList = [' ', ':', '=', ' '] := by decide
  have hdot : ".".toList = ['.'] := by decide
  have hopen : "(\"".toList = ['(', '"'] := by decide
  have hclose : "\")\n".toList = ['"', ')', '\n'] := by decide
  simp only [Layout.line, String.toList_append, hassign, hdot, hopen, hclose, List.append_assoc,
    List.cons_append, List.nil_append]

/-- The line of an asset statement is cut at the same places whatever its names and its path are. -/
theorem lexFrom_line (layout : Layout) (h : s.IsPlain) :
    lexFrom 0 .blank found ((layout.line s).toList ++ rest)
      = lexFrom 0 .blank ((assetLexemes s).reverse ++ found) rest := by
  have hindent : ∀ c ∈ layout.indent.toList, c = ' ' ∨ c = '\t' := by
    simpa [List.all_eq_true] using layout.indent_blank
  rw [Layout.toList_line]
  simp only [List.append_assoc, List.cons_append]
  rw [lexFrom_blanks hindent, lexFrom_name h.target _ (by decide), lexFrom_space,
    lexFrom_mark rfl, lexFrom_mark rfl, lexFrom_space, lexFrom_name h.receiver _ (by decide),
    lexFrom_dot_name h.method, lexFrom_name h.method _ (by decide), lexFrom_bracket rfl,
    ← List.cons_append, lexFrom_string (List.all_eq_true.mp h.path), lexFrom_bracket rfl]
  rfl

theorem lexFrom_lines (layout : Layout) (h : ∀ s ∈ stmts, s.IsPlain) :
    lexFrom 0 .blank found ((stmts.flatMap fun s => (layout.line s).toList) ++ rest)
      = lexFrom 0 .blank ((stmts.flatMap assetLexemes).reverse ++ found) rest := by
  induction stmts generalizing found with
  | nil => rfl
  | cons s stmts ih =>
      rw [List.flatMap_cons, List.append_assoc, lexFrom_line layout (h s (List.mem_cons_self ..)),
        ih fun t ht => h t (List.mem_cons_of_mem _ ht), List.flatMap_cons]
      simp only [List.reverse_append, List.append_assoc]

/-- The end of a file: the end of its last line, or of the file itself. -/
def Layout.last (layout : Layout) : Lexeme := if layout.ended then .line else .fileEnd

def headLexemes (package : String) : List Lexeme :=
  [.word "package", .word package, .line, .word "func", .word "init", .opening .round,
    .closing .round, .opening .curly, .line]

theorem Layout.toList_text (layout : Layout) (package : String) (stmts : List Statement) :
    (layout.text package stmts).toList
      = ['p', 'a', 'c', 'k', 'a', 'g', 'e', ' '] ++ (package.toList ++ (['\n', '\n', 'f', 'u', 'n',
          'c', ' ', 'i', 'n', 'i', 't', '(', ')', ' ', '\x7b', '\n']
        ++ ((stmts.flatMap fun s => (layout.line s).toList)
          ++ '\x7d' :: (if layout.ended then ['\n'] else [])))) := by
  have hpackage : "package ".toList = ['p', 'a', 'c', 'k', 'a', 'g', 'e', ' '] := by decide
  have hfunction : "\n\nfunc init() \x7b\n".toList = ['\n', '\n', 'f', 'u', 'n', 'c', ' ', 'i', 'n',
      'i', 't', '(', ')', ' ', '\x7b', '\n'] := by decide
  have hclose : "\x7d".toList = ['\x7d'] := by decide
  have hended : (if layout.ended then "\n" else "").toList
      = if layout.ended then ['\n'] else [] := by
    cases layout.ended <;> decide
  simp only [Layout.text, String.toList_append, String.toList_join, List.flatMap_map, hpackage,
    hfunction, hclose, hended, List.append_assoc, List.singleton_append]

theorem lexFrom_head {package : String} (h : IsPlainName package) :
    lexFrom 0 .blank [] (['p', 'a', 'c', 'k', 'a', 'g', 'e', ' '] ++ (package.toList ++ (['\n',
        '\n', 'f', 'u', 'n', 'c', ' ', 'i', 'n', 'i', 't', '(', ')', ' ', '\x7b', '\n'] ++ rest)))
      = lexFrom 0 .blank (headLexemes package).reverse rest := by
  have hpackage : ∀ rest, lexFrom 0 .blank [] (['p', 'a', 'c', 'k', 'a', 'g', 'e', ' '] ++ rest)
      = lexFrom 0 .blank [.word "package"] rest := fun _ => rfl
  rw [hpackage, List.cons_append, lexFrom_name h _ (by decide)]
  rfl

theorem lexemes_text (layout : Layout) {package : String} (hpackage : IsPlainName package)
    (h : ∀ s ∈ stmts, s.IsPlain) :
    lexemes (layout.text package stmts).toList
      = headLexemes package ++ stmts.flatMap assetLexemes ++ [.closing .curly, layout.last] := by
  have hmark : ∀ cs, withoutMark ('p' :: cs) = 'p' :: cs := fun _ => rfl
  have hlast : ∀ found, lexFrom 0 .other found (if layout.ended then ['\n'] else [])
      = addLexeme found layout.last := by
    intro found
    rw [Layout.last]
    cases layout.ended with
    | false => rw [addLexeme_of_ne_line (by simp)]; rfl
    | true => rfl
  rw [lexemes, Layout.toList_text, List.cons_append, hmark, ← List.cons_append,
    lexFrom_head hpackage, lexFrom_lines layout h, lexFrom_bracket rfl, hlast]
  simp [addLexeme]

/-! ## Items -/

theorem gather_asset (s : Statement) (items : List Item) (waiting : List OpenBracket)
    (ls : List Lexeme) :
    gather items waiting (assetLexemes s ++ ls)
      = gather ((assetItems s ++ [Item.line]).reverse ++ items) waiting ls := rfl

theorem gather_assets (stmts : List Statement) (items : List Item) (waiting : List OpenBracket)
    (ls : List Lexeme) :
    gather items waiting (stmts.flatMap assetLexemes ++ ls)
      = gather ((stmts.flatMap fun s => assetItems s ++ [.line]).reverse ++ items) waiting ls := by
  induction stmts generalizing items with
  | nil => rfl
  | cons s stmts ih =>
      rw [List.flatMap_cons, List.append_assoc, gather_asset, ih, List.flatMap_cons]
      simp only [List.reverse_append, List.append_assoc]

/-- The items between the braces of the function. -/
def bodyItems (stmts : List Statement) : List Item :=
  .line :: stmts.flatMap fun s => assetItems s ++ [.line]

/-- The items of a file: the statements stand between the braces of its function. -/
theorem itemsOf_text (layout : Layout) {package : String} (hpackage : IsPlainName package)
    (h : ∀ s ∈ stmts, s.IsPlain) :
    ∃ last, (last = .fileEnd ∨ last = .line) ∧ itemsOf (layout.text package stmts).toList
      = some (functionFile package "init" (readCurly (bodyItems stmts)) last) := by
  have hbody : (bodyItems stmts).reverse
      = (stmts.flatMap fun s => assetItems s ++ [Item.line]).reverse ++ [.line] := by
    rw [bodyItems, List.reverse_cons]
  have hhead : ∀ ls, gather [] [] (headLexemes package ++ ls)
      = gather [.line] [⟨.curly, [.round (readRound []), .word "init", .word "func", .line,
          .word package, .word "package"]⟩] ls := fun _ => rfl
  rw [itemsOf, lexemes_text layout hpackage h, List.append_assoc, hhead, gather_assets, ← hbody,
    gather, if_pos rfl, List.reverse_reverse, Layout.last]
  cases layout.ended with
  | false => exact ⟨.fileEnd, .inl rfl, rfl⟩
  | true => exact ⟨.line, .inr rfl, rfl⟩

/-! ## Nodes -/

theorem Statement.IsPlain.isPlainStatement (h : s.IsPlain) : IsPlainStatement s :=
  ⟨h.target.isPlainWord, h.receiver.isPlainWord⟩

def fileNode (package : String) (stmts : List Statement) : Node :=
  Node.inner "source_file"
    [packageNode package, functionNode "init" (Node.inner "block" (stmts.map assetNode))]

/-- A file is read as its package clause and a function that holds the statements. -/
theorem parseNode_text (layout : Layout) {package : String} (hpackage : IsPlainName package)
    (h : ∀ s ∈ stmts, s.IsPlain) :
    parseNode (layout.text package stmts).toList = some (fileNode package stmts) := by
  obtain ⟨last, hlast, hitems⟩ := itemsOf_text layout hpackage h
  have hblock : (readCurly (bodyItems stmts)).block
      = some ⟨Node.inner "block" (stmts.map assetNode), 0⟩ := by
    have hfield : ∀ items, (readCurly items).block = blockNode items := fun _ => rfl
    rw [hfield]
    exact blockNode_assets fun s hs => (h s hs).isPlainStatement
  simp only [parseNode, hitems, Option.bind_eq_bind, Option.bind_some,
    fileItems_function hblock hlast]
  rfl

/-! ## Trees -/

def assetTree (s : Statement) : Tree :=
  .assignment [.identifier s.target]
    [.call (.selector (.identifier s.call.receiver) s.call.method)
      [.stringLiteral (String.ofList ('"' :: s.call.path.toList ++ ['"']))]]

def fileTree (package : String) (stmts : List Statement) : Tree :=
  .file (some package)
    [.other "package_clause" [.other "package_identifier" []],
      .other "function_declaration" [.identifier "init", .other "parameter_list" [],
        .other "block" (stmts.map assetTree)]]

theorem lowerTree_withRole (r : Role) (n : Node) : lowerTree (n.withRole r) = lowerTree n := by
  have hstart : startLowering (n.withRole r) = startLowering n := by
    cases n
    rfl
  cases h : startLowering n with
  | leaf tree => rw [lowerTree_of_leaf h, lowerTree_of_leaf (hstart.trans h)]
  | branch frame => rw [lowerTree_of_branch h, lowerTree_of_branch (hstart.trans h)]

theorem lowerTree_identifier (w : String) :
    lowerTree (wordNode "identifier" w) = .identifier w := by
  have hstart : startLowering (wordNode "identifier" w)
      = .leaf (.identifier (String.ofList w.toList)) := rfl
  rw [lowerTree_of_leaf hstart, String.ofList_toList]

theorem lowerTree_selector (r m : String) :
    lowerTree (selectorNode r m) = .selector (.identifier r) m := by
  have hstart : startLowering (selectorNode r m) = .branch
      { shape := .selector (String.ofList m.toList)
        pending := [(wordNode "identifier" r).withRole .operand] } := rfl
  rw [lowerTree_of_branch hstart, String.ofList_toList, Frame.complete, List.map_singleton,
    lowerTree_withRole, lowerTree_identifier]
  rfl

theorem lowerTree_methodCall (c : MethodCall) :
    lowerTree (methodCallNode c) = .call (.selector (.identifier c.receiver) c.method)
      [.stringLiteral (String.ofList ('"' :: c.path.toList ++ ['"']))] := by
  have hstart : startLowering (methodCallNode c) = .branch
      { shape := .call
        pending := [(selectorNode c.receiver c.method).withRole .function,
          pathLiteral c.path] } := rfl
  have hpath : lowerTree (pathLiteral c.path)
      = .stringLiteral (String.ofList ('"' :: c.path.toList ++ ['"'])) := lowerTree_of_leaf rfl
  rw [lowerTree_of_branch hstart, Frame.complete, List.map_cons, List.map_singleton,
    lowerTree_withRole, lowerTree_selector, hpath]
  rfl

theorem lowerTree_asset (s : Statement) : lowerTree (assetNode s) = assetTree s := by
  have hstart : startLowering (assetNode s) = .branch
      { shape := .assignment 1
        pending := [wordNode "identifier" s.target, methodCallNode s.call] } := rfl
  rw [lowerTree_of_branch hstart, Frame.complete, List.map_cons, List.map_singleton,
    lowerTree_identifier, lowerTree_methodCall]
  rfl

theorem lowerTree_block (stmts : List Statement) :
    lowerTree (Node.inner "block" (stmts.map assetNode))
      = .other "block" (stmts.map assetTree) := by
  have hparts : (Node.inner "block" (stmts.map assetNode)).parts = stmts.map assetNode := by
    refine List.filter_eq_self.mpr ?_
    intro n hn
    obtain ⟨s, -, rfl⟩ := List.mem_map.mp hn
    rfl
  have hstart : startLowering (Node.inner "block" (stmts.map assetNode)) = .branch
      { shape := .other "block", pending := stmts.map assetNode } :=
    congrArg (fun parts => Lowered.branch { shape := .other "block", pending := parts }) hparts
  rw [lowerTree_of_branch hstart, Frame.complete, List.map_map]
  exact congrArg (Tree.other "block") (List.map_congr_left fun s _ => lowerTree_asset s)

theorem lowerTree_file (package : String) (stmts : List Statement) :
    lowerTree (fileNode package stmts) = fileTree package stmts := by
  have hpackage : lowerTree (packageNode package)
      = .other "package_clause" [.other "package_identifier" []] := by
    have hstart : startLowering (packageNode package) = .branch
        { shape := .other "package_clause"
          pending := [wordNode "package_identifier" package] } := rfl
    have hname : startLowering (wordNode "package_identifier" package) = .branch
        { shape := .other "package_identifier", pending := [] } := rfl
    rw [lowerTree_of_branch hstart, Frame.complete, List.map_singleton, lowerTree_of_branch hname]
    rfl
  have hparameters : lowerTree (Node.inner "parameter_list" []) = .other "parameter_list" [] :=
    lowerTree_of_branch (f := { shape := .other "parameter_list", pending := [] }) rfl
  have hfunction : lowerTree (functionNode "init" (Node.inner "block" (stmts.map assetNode)))
      = .other "function_declaration" [.identifier "init", .other "parameter_list" [],
          .other "block" (stmts.map assetTree)] := by
    have hstart : startLowering (functionNode "init" (Node.inner "block" (stmts.map assetNode)))
        = .branch { shape := .other "function_declaration"
                    pending := [wordNode "identifier" "init", Node.inner "parameter_list" [],
                      Node.inner "block" (stmts.map assetNode)] } := rfl
    rw [lowerTree_of_branch hstart, Frame.complete]
    simp only [List.map_cons, List.map_nil, lowerTree_identifier, hparameters, lowerTree_block]
    rfl
  have hstart : startLowering (fileNode package stmts) = .branch
      { shape := .file (some (String.ofList package.toList))
        pending := [packageNode package,
          functionNode "init" (Node.inner "block" (stmts.map assetNode))] } := rfl
  rw [lowerTree_of_branch hstart, String.ofList_toList, Frame.complete]
  simp only [List.map_cons, List.map_nil, hpackage, hfunction]
  rfl

theorem parseSource_text (recover : String → Recovered) (layout : Layout) (path : Path)
    {package : String} (hpackage : IsPlainName package) (h : ∀ s ∈ stmts, s.IsPlain) :
    parseSource recover path (layout.text package stmts)
      = .ok ⟨package, fileTree package stmts⟩ := by
  rw [parseSource, parseNode_text layout hpackage h]
  simp only [lower_eq_lowerTree, lowerTree_file]
  rfl

/-! ## Statements -/

theorem unquote_quoted (cs : List Char) :
    unquote (String.ofList ('"' :: cs ++ ['"'])) = String.ofList cs := by
  have hstrip : stripQuotes? '"' ('"' :: (cs ++ ['"'])) = some cs := by
    rw [stripQuotes?, if_pos ⟨rfl, List.getLast?_concat⟩, List.dropLast_concat]
  rw [unquote, String.toList_ofList, List.cons_append]
  simp only [hstrip, Option.some_or, Option.getD_some]

theorem statement?_assetTree (s : Statement) : (assetTree s).statement? = some s := by
  rw [assetTree, Tree.statement?, Tree.methodCall?, unquote_quoted, String.ofList_toList,
    Option.map_some]

theorem filterMap_preorder_assetTree (s : Statement) :
    (assetTree s).preorder.filterMap Tree.statement? = [s] := by
  have hrest : (assetTree s).children.flatMap Tree.preorder
      = [.identifier s.target, .call (.selector (.identifier s.call.receiver) s.call.method)
          [.stringLiteral (String.ofList ('"' :: s.call.path.toList ++ ['"']))],
        .selector (.identifier s.call.receiver) s.call.method, .identifier s.call.receiver,
        .stringLiteral (String.ofList ('"' :: s.call.path.toList ++ ['"']))] := rfl
  rw [Tree.preorder_eq_cons, hrest, List.filterMap_cons_some (statement?_assetTree s)]
  rfl

/-- The statements of a file are those that were written, in order. -/
theorem filterMap_preorder_fileTree (package : String) (stmts : List Statement) :
    (fileTree package stmts).preorder.filterMap Tree.statement? = stmts := by
  have hall : (fileTree package stmts).preorder.filterMap Tree.statement?
      = ((stmts.map assetTree).flatMap Tree.preorder).filterMap Tree.statement? := by
    -- None of the nodes above the statements is one.
    simp only [fileTree, Tree.preorder, Tree.preorders_eq_flatMap, List.flatMap_cons,
      List.flatMap_nil, List.append_nil, List.cons_append, List.nil_append]
    rfl
  rw [hall, List.flatMap_map, List.filterMap_flatMap]
  simp only [filterMap_preorder_assetTree]
  exact List.flatMap_singleton' stmts

/-- Asset statements are recognised from the text of a file. Whatever the plain names and the paths
are, and however many statements there are, the file is read, its package is the one that it names,
and its asset statements are those that were written, in order. -/
theorem parseSource_recognizes (recover : String → Recovered) (layout : Layout) (path : Path)
    {package : String} {stmts : List Statement} (hpackage : IsPlainName package)
    (h : ∀ s ∈ stmts, s.IsPlain) :
    ∃ tree, parseSource recover path (layout.text package stmts) = .ok tree
      ∧ tree.package = package ∧ tree.root.statements = stmts := by
  refine ⟨_, parseSource_text recover layout path hpackage h, rfl, ?_⟩
  rw [Tree.statements_eq_filterMap, filterMap_preorder_fileTree]

/-- What is recovered from a text that is a Go file: a tree without faults. -/
def faultless : String → Recovered := fun _ =>
  { isError := false, isMissing := false, hasError := false, start := ⟨0, 0⟩, children := [] }

/-- Names that start like keywords, and paths that hold comments, brackets and statements. -/
theorem parseSource_recognizes_brackets :
    (IsPlainName "main" ∧ ∀ s ∈ [⟨"iff", ⟨"assets", "Group", "// img\x7d"⟩⟩,
        (⟨"x_1", ⟨"iff", "MustString", "([ a := b.c(`d`)"⟩⟩ : Statement)], s.IsPlain)
      ∧ ∃ tree, parseSource faultless ⟨"main.go"⟩ (Layout.text ⟨"\t", true, by decide⟩ "main"
          [⟨"iff", ⟨"assets", "Group", "// img\x7d"⟩⟩,
            ⟨"x_1", ⟨"iff", "MustString", "([ a := b.c(`d`)"⟩⟩]) = .ok tree
        ∧ tree.package = "main"
        ∧ tree.root.statements = [⟨"iff", ⟨"assets", "Group", "// img\x7d"⟩⟩,
            ⟨"x_1", ⟨"iff", "MustString", "([ a := b.c(`d`)"⟩⟩] :=
  ⟨⟨by decide, by decide⟩, parseSource_recognizes _ _ _ (by decide) (by decide)⟩

end GoAssets
