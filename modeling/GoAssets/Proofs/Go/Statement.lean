import GoAssets.Go.Group
import GoAssets.Proofs.Go.Rule
import GoAssets.Statement

/-!
# How asset statements are read

The items of an asset statement have two readings up to the end of its line: `r.m("p")` is a call,
or a conversion to the type `m` of the package `r`. The conversion weighs against its reading, so
the call is meant. On the left side only a value can stand before `:=`. So the grammar reads exactly
one node, `assetNode`, from the items of a statement, whatever follows on the next lines
(`listStatement_asset`), and statements between braces are read as a block of their nodes
(`blockNode_assets`).
-/

namespace GoAssets.Go

open Rule

/-- A word that only a name can be. -/
structure IsPlainWord (w : String) : Prop where
  type : isTypeKeyword w = false
  predeclared : isPredeclared w = false
  statement : isStatementKeyword w = false
  clause : isClauseKeyword w = false

def pathLiteral (path : String) : Node :=
  Node.token "interpreted_string_literal" ('"' :: path.toList ++ ['"'])

def selectorNode (receiver method : String) : Node :=
  Node.inner "selector_expression"
    [(wordNode "identifier" receiver).withRole .operand,
      (wordNode "field_identifier" method).withRole .field]

/-- The type in a package that has the spelling of the method of a name. -/
def qualifiedNode (receiver method : String) : Node :=
  Node.inner "qualified_type"
    [Node.token "package_identifier" (wordNode "type_identifier" receiver).text.toList,
      wordNode "type_identifier" method]

def assetItems (s : Statement) : List Item :=
  [.word s.target, .mark ':' false, .mark '=' true, .word s.call.receiver, .mark '.' false,
    .word s.call.method, .round (readRound [.literal (pathLiteral s.call.path)])]

def methodCallNode (c : MethodCall) : Node :=
  callNode (selectorNode c.receiver c.method) [] (Node.inner "argument_list" [pathLiteral c.path])

def assetNode (s : Statement) : Node :=
  assignmentNode true [wordNode "identifier" s.target] [methodCallNode s.call]

variable {i : Nat} {items : List Item} {w r m : String} {n : Node} {place : Place} {c c' : Cursor}

/-! ## Operands -/

/-- A name is read as a type and as a value. -/
theorem primary_word (h : IsPlainWord w) :
    primary 0 ⟨i, .word w :: items⟩ =
      [⟨.type 0 (wordNode "type_identifier" w), 0, i + 1, items⟩,
        ⟨.value 0 (wordNode "identifier" w), 0, i + 1, items⟩] := by
  have hfunc : (w == "func") = false := by
    have htype := h.type
    simp only [isTypeKeyword, List.contains_cons, Bool.or_eq_false_iff] at htype
    exact htype.2.2.2.2.1
  have hbuiltin : (w == "new" || w == "make") = false := by
    have hpredeclared := h.predeclared
    simp only [isPredeclared, List.contains_cons, Bool.or_eq_false_iff] at hpredeclared
    simp [hpredeclared.2.2.2.2.1, hpredeclared.2.2.2.2.2.1]
  rw [primary, peekOn_bind rfl]
  simp only [hfunc, h.type, hbuiltin, h.predeclared, Bool.false_eq_true, if_false]
  exact drop_bind 1 _

/-- Before a colon a name is a value, since nothing follows a type there. -/
theorem operand_target (h : IsPlainWord w) (glued : Bool) :
    operand .statement 0 ⟨i, .word w :: .mark ':' glued :: items⟩
      = [⟨wordNode "identifier" w, 0, i + 1, .mark ':' glued :: items⟩] := by
  refine settle_of_reads _ ?_
  rw [bind_apply, primary_word h]
  rfl

theorem step_selector :
    Operand.step .value (.value 0 (wordNode "identifier" r))
        ⟨i, .mark '.' false :: .word m :: items⟩
      = [⟨.inl (.value 0 (selectorNode r m)), 0, i + 2, items⟩] := rfl

theorem step_call {g : Round} {arguments : Node} (h : g.arguments = some ⟨arguments, 0⟩) :
    Operand.step .value (.value 0 (selectorNode r m)) ⟨i, .round g :: items⟩
      = [⟨.inl (.value 0 (callNode (selectorNode r m) [] arguments)), 0, i + 1, items⟩] := by
  have hbuiltin : isBuiltin (selectorNode r m) = false := rfl
  simp only [Operand.step, Operand.value, Operand.afterValue, Place.value, Place.peek, if_true,
    peek_bind, drop_bind, hbuiltin, Bool.false_eq_true, if_false, given_bind h]
  rfl

theorem step_line :
    Operand.step .value (.value 0 n) ⟨i, .line :: items⟩ = [⟨.inr n, 0, i, .line :: items⟩] := rfl

theorem step_qualified :
    Operand.step .value (.type 0 (wordNode "type_identifier" r))
        ⟨i, .mark '.' false :: .word m :: items⟩
      = [⟨.inl (.type 0 (qualifiedNode r m)), 0, i + 2, items⟩] := rfl

theorem step_conversion {g : Round} {o : Node} (h : g.operand = some ⟨o, 0⟩) :
    Operand.step .value (.type 0 (qualifiedNode r m)) ⟨i, .round g :: items⟩
      = [⟨.inl (.value 0 (Node.inner "type_conversion_expression" [qualifiedNode r m, o])), -1,
          i + 1, items⟩] := by
  have hpeek : Operand.typePeek .value (qualifiedNode r m) = peekOn := rfl
  simp only [Operand.step, Operand.type, Operand.afterType, hpeek]
  rw [peekOn_bind rfl]
  simp only [drop_bind, given_bind h]
  rfl

/-- A method call at the end of a line. The conversion with the same spelling is lighter. -/
theorem operand_call (h : IsPlainWord r) {g : Round} {arguments o : Node}
    (harguments : g.arguments = some ⟨arguments, 0⟩) (hoperand : g.operand = some ⟨o, 0⟩) :
    operand .value 0 ⟨i, .word r :: .mark '.' false :: .word m :: .round g :: .line :: items⟩
      = [⟨callNode (selectorNode r m) [] arguments, 0, i + 4, .line :: items⟩] := by
  have hvalue : loop (Operand.step .value) (.value 0 (wordNode "identifier" r))
        ⟨i + 1, .mark '.' false :: .word m :: .round g :: .line :: items⟩
      = [⟨callNode (selectorNode r m) [] arguments, 0, i + 4, .line :: items⟩] := by
    rw [loop, loopFrom_more step_selector, loopFrom_more (step_call harguments),
      loopFrom_done step_line]
    rfl
  have htype : loop (Operand.step .value) (.type 0 (wordNode "type_identifier" r))
        ⟨i + 1, .mark '.' false :: .word m :: .round g :: .line :: items⟩
      = [⟨Node.inner "type_conversion_expression" [qualifiedNode r m, o], -1, i + 4,
          .line :: items⟩] := by
    rw [loop, loopFrom_more step_qualified, loopFrom_more (step_conversion hoperand),
      loopFrom_done step_line]
    rfl
  have hboth : (primary 0 >>= fun o => loop (Operand.step .value) o)
        ⟨i, .word r :: .mark '.' false :: .word m :: .round g :: .line :: items⟩
      = [⟨Node.inner "type_conversion_expression" [qualifiedNode r m, o], -1, i + 4,
            .line :: items⟩,
          ⟨callNode (selectorNode r m) [] arguments, 0, i + 4, .line :: items⟩] := by
    rw [bind_apply, primary_word h]
    simp only [List.flatMap_cons, List.flatMap_nil, hvalue, htype]
    rfl
  exact settle_of_lighter _ hboth rfl (show (-1 : Int) < 0 by decide)

/-! ## Expressions -/

theorem unary_of_operand (hsigns : signs c = [⟨{}, 0, c⟩]) (h : operand place 0 c = [⟨n, 0, c'⟩]) :
    unary place c = [⟨n, 0, c'⟩] := by
  have hplace : { place with asksType := place.asksType && (0 == 0) } = place := by
    cases place
    simp
  rw [unary, bind_of_reads hsigns]
  simp only [hplace]
  exact bind_of_reads h

/-- Without operators around it an expression is an operand. -/
theorem expression_of_operand (hsigns : signs c = [⟨{}, 0, c⟩])
    (h : operand place 0 c = [⟨n, 0, c'⟩]) (hpeek : place.peek c' = [⟨items, 0, c'⟩])
    (hop : binaryOperator? place (touchingMarks items) = none) :
    expression place c = [⟨n, 0, c'⟩] := by
  rw [expression, bind_of_reads (unary_of_operand hsigns h)]
  refine loop_done ?_
  simp only
  rw [bind_of_reads hpeek, hop]
  rfl

theorem expression_literal : expression .enclosed ⟨0, [.literal n]⟩ = [⟨n, 0, 1, []⟩] :=
  expression_of_operand rfl rfl rfl rfl

theorem enclosedExpression_literal : enclosedExpression.whole [.literal n] = some ⟨n, 0⟩ :=
  whole_of_reads expression_literal

theorem commaParts_literal : commaParts [.literal n] = [[.literal n]] := rfl

theorem argumentList_literal :
    argumentList [.literal n] = some ⟨Node.inner "argument_list" [n], 0⟩ := by
  have hargument : argument.whole [.literal n] = some ⟨n, 0⟩ := by
    have hreads : argument ⟨0, [.literal n]⟩ = [⟨n, 0, 1, []⟩] := by
      rw [argument, enclosedExpression, bind_of_reads expression_literal]
      rfl
    exact whole_of_reads hreads
  rw [argumentList, optionalList, if_neg (by simp), commaList, commaParts_literal, List.mapM_cons,
    hargument]
  rfl

theorem conversionOperand_literal : conversionOperand [.literal n] = some ⟨n, 0⟩ := by
  rw [conversionOperand, commaParts_literal]
  exact enclosedExpression_literal

theorem readRound_arguments :
    (readRound [.literal n]).arguments = some ⟨Node.inner "argument_list" [n], 0⟩ := by
  have hfield : ∀ items, (readRound items).arguments
      = argumentList (items.filter (!·.isLine)) := fun _ => rfl
  rw [hfield]
  exact argumentList_literal

theorem readRound_operand : (readRound [.literal n]).operand = some ⟨n, 0⟩ := by
  have hfield : ∀ items, (readRound items).operand
      = conversionOperand (items.filter (!·.isLine)) := fun _ => rfl
  rw [hfield]
  exact conversionOperand_literal

/-! ## Statements -/

/-- A statement whose target and receiver only names can be. -/
structure IsPlainStatement (s : Statement) : Prop where
  target : IsPlainWord s.target
  receiver : IsPlainWord s.call.receiver

variable {s : Statement}

theorem leftSide_target (h : IsPlainWord w) :
    leftSide .statement ⟨i, .word w :: .mark ':' false :: .mark '=' true :: .word r :: items⟩
      = [⟨[wordNode "identifier" w], 0, i + 1,
          .mark ':' false :: .mark '=' true :: .word r :: items⟩] := by
  have hoperand : operand .statement 0
        ⟨i, .word w :: .mark ':' false :: .mark '=' true :: .word r :: items⟩
      = [⟨wordNode "identifier" w, 0, i + 1,
          .mark ':' false :: .mark '=' true :: .word r :: items⟩] := operand_target h false
  rw [leftSide, bind_of_reads (expression_of_operand rfl hoperand rfl rfl)]
  rfl

theorem expressions_call {call : MethodCall} (h : IsPlainWord call.receiver) :
    expressions .value ⟨i, .word call.receiver :: .mark '.' false :: .word call.method
        :: .round (readRound [.literal (pathLiteral call.path)]) :: .line :: items⟩
      = [⟨[methodCallNode call], 0, i + 4, .line :: items⟩] := by
  have hoperand : operand .value 0 ⟨i, .word call.receiver :: .mark '.' false :: .word call.method
        :: .round (readRound [.literal (pathLiteral call.path)]) :: .line :: items⟩
      = [⟨methodCallNode call, 0, i + 4, .line :: items⟩] :=
    operand_call h readRound_arguments readRound_operand
  rw [expressions, bind_of_reads (expression_of_operand rfl hoperand rfl rfl)]
  exact loop_done rfl

theorem simpleStatement_asset (h : IsPlainStatement s) :
    simpleStatement .statement .value ⟨i, assetItems s ++ .line :: items⟩
      = [⟨⟨assetNode s, true⟩, 0, i + 7, .line :: items⟩] := by
  have hleft : leftSide .statement ⟨i, assetItems s ++ .line :: items⟩ = _ :=
    leftSide_target h.target
  rw [simpleStatement, bind_of_reads hleft, simpleTail, Place.peek, Place.statement, if_pos rfl,
    peek_bind]
  simp only [touchingMarks, assignmentOperator?, drop_bind]
  exact bind_of_reads (expressions_call h.receiver)

theorem plainStatement_asset (h : IsPlainStatement s) (inClauses : Bool) :
    plainStatement inClauses ⟨i, assetItems s ++ .line :: items⟩
      = [⟨⟨assetNode s, true⟩, 0, i + 7, .line :: items⟩] := by
  rw [plainStatement, assetItems, List.cons_append, peekOn_bind rfl]
  simp only [h.target.clause, h.target.statement, Bool.and_false, Bool.false_eq_true, if_false]
  exact simpleStatement_asset h

theorem statement_asset (h : IsPlainStatement s) (inClauses afterLabel : Bool) :
    statement inClauses afterLabel ⟨i, assetItems s ++ .line :: items⟩
      = [⟨⟨assetNode s, true⟩, 0, i + 7, .line :: items⟩] := by
  -- The two marks after the target touch each other, so it is no label.
  refine loop_done ((peekOn_bind rfl _).trans ?_)
  exact bind_of_reads (plainStatement_asset h inClauses)

/-- An asset statement in a list has one reading, which ends with its line. -/
theorem listStatement_asset (h : IsPlainStatement s) (ends : List Item → Bool) (inClauses : Bool) :
    listStatement ends inClauses ⟨i, assetItems s ++ .line :: items⟩
      = [⟨assetNode s, 0, i + 7, .line :: items⟩] := by
  have hstatement : (statement inClauses true >>= fun s => pure s.node)
        ⟨i, assetItems s ++ .line :: items⟩
      = [⟨assetNode s, 0, i + 7, .line :: items⟩] :=
    bind_of_reads (statement_asset h inClauses true)
  rw [listStatement]
  refine (orElse_of_fails ?_).trans hstatement
  exact peekOn_bind rfl _

/-! ## Blocks -/

/-- An item of a list is read from a line, wherever the line stands. -/
structure ReadsLine {α : Type} (item : Bool → Rule α) (line : List Item) (a : α) : Prop where
  head : ∃ x xs, line = x :: xs ∧ x.isLine = false
  reads : ∀ first i items, item first ⟨i, line ++ .line :: items⟩
    = [⟨a, 0, i + line.length, .line :: items⟩]

section Lines

variable {α : Type} {item : Bool → Rule α} {line : List Item} {a : α}

theorem lineStep_of_line (h : ReadsLine item line a) (found : List α) (i : Nat)
    (items : List Item) :
    lineStep List.isEmpty item found ⟨i, line ++ .line :: items⟩
      = (peekOn >>= fun rest => if rest.isEmpty then pure (.inr (a :: found).reverse)
          else pure (.inl (a :: found))) ⟨i + line.length + 1, items⟩ := by
  obtain ⟨⟨x, xs, rfl, hx⟩, hreads⟩ := h
  rw [lineStep, List.cons_append, peekOn_bind hx, ← List.cons_append]
  simp only [List.isEmpty_cons, List.cons_append, Bool.false_eq_true, if_false]
  rw [← List.cons_append, bind_of_reads (hreads _ _ _), peek_bind]
  exact drop_bind 1 _

theorem lineStep_last (h : ReadsLine item line a) (found : List α) (i : Nat) :
    lineStep List.isEmpty item found ⟨i, line ++ [.line]⟩
      = [⟨.inr (a :: found).reverse, 0, i + line.length + 1, []⟩] := by
  rw [lineStep_of_line h, peekOn_bind_nil]
  rfl

theorem lineStep_more (h : ReadsLine item line a) {line' : List Item} {a' : α}
    (h' : ReadsLine item line' a') (found : List α) (i : Nat) (items : List Item) :
    lineStep List.isEmpty item found ⟨i, line ++ .line :: (line' ++ items)⟩
      = [⟨.inl (a :: found), 0, i + line.length + 1, line' ++ items⟩] := by
  obtain ⟨x, xs, rfl, hx⟩ := h'.head
  rw [lineStep_of_line h, List.cons_append, peekOn_bind hx]
  rfl

def joinLines (lines : List (List Item × α)) : List Item :=
  lines.flatMap fun l => l.1 ++ [.line]

theorem joinLines_cons (l : List Item × α) (lines : List (List Item × α)) :
    joinLines (l :: lines) = l.1 ++ .line :: joinLines lines := by
  rw [joinLines, List.flatMap_cons, List.append_assoc, List.singleton_append, joinLines]

theorem length_le_joinLines (lines : List (List Item × α)) :
    lines.length ≤ (joinLines lines).length := by
  induction lines with
  | nil => exact Nat.zero_le _
  | cons l lines ih =>
      rw [joinLines_cons, List.length_append, List.length_cons, List.length_cons]
      omega

/-- The rounds of a list read its lines in turn. The induction is on the lines that are left; each
round takes one of them, and there are more rounds than lines. -/
theorem exploreFrom_lines (yields : Reading (List α) → Bool) (lines : List (List Item × α))
    (h : ReadsLine item line a) (hlines : ∀ l ∈ lines, ReadsLine item l.1 l.2) (found : List α)
    (i : Nat) (bound : List Item) (hbound : lines.length < bound.length) :
    ∃ j, exploreFrom yields (lineStep List.isEmpty item) bound
        [⟨found, 0, i, line ++ .line :: joinLines lines⟩] []
      = [⟨found.reverse ++ a :: lines.map (·.2), 0, j, []⟩] := by
  induction lines generalizing line a found i bound with
  | nil =>
      obtain ⟨x, bound, rfl⟩ := List.exists_cons_of_length_pos hbound
      refine ⟨i + line.length + 1, ?_⟩
      rw [joinLines, List.flatMap_nil, exploreFrom_done (lineStep_last h found i)]
      simp
  | cons l lines ih =>
      obtain ⟨x, bound, rfl⟩ := List.exists_cons_of_length_pos (Nat.zero_lt_of_lt hbound)
      have hl := hlines l (List.mem_cons_self ..)
      obtain ⟨j, hj⟩ := ih hl (fun k hk => hlines k (List.mem_cons_of_mem _ hk)) (a :: found)
        (i + line.length + 1) bound (Nat.lt_of_succ_lt_succ hbound)
      refine ⟨j, ?_⟩
      rw [joinLines_cons, exploreFrom_more (lineStep_more h hl found i _), Int.add_zero, hj]
      simp

theorem lineStep_skipLine (h : ReadsLine item line a) (found : List α) (i : Nat)
    (items : List Item) :
    lineStep List.isEmpty item found ⟨i, .line :: (line ++ items)⟩
      = lineStep List.isEmpty item found ⟨i + 1, line ++ items⟩ := by
  obtain ⟨x, xs, rfl, hx⟩ := h.head
  rw [lineStep, peekOn_bind_line, List.cons_append, peekOn_bind hx]

/-- A list whose lines are read is read as a whole, after the end of a line. -/
theorem lineList_whole (lines : List (List Item × α)) (h : ∀ l ∈ lines, ReadsLine item l.1 l.2) :
    (lineList List.isEmpty item).whole (.line :: joinLines lines)
      = some ⟨lines.map (·.2), 0⟩ := by
  cases lines with
  | nil => rfl
  | cons l lines =>
      have hl := h l (List.mem_cons_self ..)
      have hbound : lines.length < (Item.line :: Item.line :: joinLines (l :: lines)).length := by
        have := length_le_joinLines (l :: lines)
        simp only [List.length_cons] at this ⊢
        omega
      obtain ⟨j, hj⟩ := exploreFrom_lines (fun r => r.value.length == 1) lines hl
        (fun k hk => h k (List.mem_cons_of_mem _ hk)) [] 1 _ hbound
      refine whole_of_reads (j := j) ?_
      rw [joinLines_cons] at hj ⊢
      rw [lineList, explore, exploreFrom_congr (lineStep_skipLine hl _ _ _)]
      exact hj

end Lines

/-- Asset statements between braces are read as a block of their nodes. -/
theorem blockNode_assets {stmts : List Statement} (h : ∀ s ∈ stmts, IsPlainStatement s) :
    blockNode (.line :: stmts.flatMap fun s => assetItems s ++ [.line])
      = some ⟨Node.inner "block" (stmts.map assetNode), 0⟩ := by
  have hlines : stmts.flatMap (fun s => assetItems s ++ [.line])
      = joinLines (stmts.map fun s => (assetItems s, assetNode s)) := by
    rw [joinLines, List.flatMap_map]
  rw [blockNode, hlines, lineList_whole, List.map_map]
  · rfl
  · intro l hl
    obtain ⟨s, hs, rfl⟩ := List.mem_map.mp hl
    exact ⟨⟨_, _, rfl, rfl⟩, fun first i items => listStatement_asset (h s hs) _ _⟩

end GoAssets.Go
