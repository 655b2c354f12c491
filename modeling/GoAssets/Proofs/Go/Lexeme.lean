import GoAssets.Go.Lexeme

/-!
# Lexemes one after another

`lexFrom` reads a text from its front. The lemmas here say how it takes one piece: a word up to the
first character that cannot continue it, a string up to its closing quote, a mark, a bracket or
blanks. What follows is read as if it stood there alone, except that a mark has to know whether it
touches the one before it.
-/

namespace GoAssets.Go

open Text

variable {before : Neighbor} {found : List Lexeme} {c : Char} {rest : List Char}

/-! ## Steps -/

/-- The characters of a lexeme that is read already are skipped. -/
theorem lexFrom_skip (cs rest : List Char) :
    lexFrom cs.length before found (cs ++ rest) = lexFrom 0 before found rest := by
  induction cs with
  | nil => rfl
  | cons c cs ih => exact ih

theorem lexFrom_of_lexemeAt {l : Lexeme} {n : Nat}
    (h : lexemeAt (before == .mark) c rest = (some l, n)) :
    lexFrom 0 before found (c :: rest)
      = lexFrom n (neighborAfter c (some l)) (addLexeme found l) rest := by
  rw [lexFrom, h]

theorem addLexeme_of_ne_line {l : Lexeme} (h : l ≠ .line) : addLexeme found l = l :: found := by
  rw [addLexeme]
  intro _ _ hline
  exact h hline

theorem lexFrom_blanks {cs : List Char} (h : ∀ c ∈ cs, c = ' ' ∨ c = '\t') :
    lexFrom 0 .blank found (cs ++ rest) = lexFrom 0 .blank found rest := by
  induction cs with
  | nil => rfl
  | cons c cs ih =>
      have hrest := ih fun d hd => h d (List.mem_cons_of_mem _ hd)
      rcases h c (List.mem_cons_self ..) with rfl | rfl <;> exact hrest

theorem lexFrom_space : lexFrom 0 before found (' ' :: rest) = lexFrom 0 .blank found rest := rfl

/-! ## Words -/

theorem not_isBlank_of_startsIdentifier (h : startsIdentifier c = true) : isBlank c = false := by
  cases hblank : isBlank c with
  | false => rfl
  | true =>
      simp only [isBlank, Bool.or_eq_true, beq_iff_eq] at hblank
      rcases hblank with ((((rfl | rfl) | rfl) | rfl) | rfl) | rfl <;> exact absurd h (by decide)

/-- A word goes up to the first character that cannot continue it. -/
theorem lexFrom_word {cs : List Char} (hc : startsIdentifier c = true)
    (hcs : ∀ d ∈ cs, continuesIdentifier d = true)
    (hrest : ∀ d ∈ rest.head?, continuesIdentifier d = false) :
    lexFrom 0 before found (c :: cs ++ rest)
      = lexFrom 0 .other (.word (String.ofList (c :: cs)) :: found) rest := by
  have htail : (cs ++ rest).takeWhile continuesIdentifier = cs := by
    rw [List.takeWhile_append_of_pos hcs]
    cases rest with
    | nil => simp
    | cons d rest => simp [hrest d rfl]
  have hblank := not_isBlank_of_startsIdentifier hc
  have hline : c ≠ '\n' := by
    rintro rfl
    exact absurd hblank (by decide)
  have hword : lexemeAt (before == .mark) c (cs ++ rest)
      = (some (.word (String.ofList (c :: cs))), cs.length) := by
    simp only [lexemeAt, if_neg hline, hblank, Bool.false_eq_true, if_false, hc, if_true, htail]
  rw [List.cons_append, lexFrom_of_lexemeAt hword, lexFrom_skip,
    addLexeme_of_ne_line (by simp)]
  rfl

/-! ## Strings -/

/-- A character that stands for itself in a string and ends none. -/
def isPlainText (c : Char) : Bool := decide (0x20 ≤ c.toNat) && c != '"' && c != '\\'

theorem stringEnd_plain {cs : List Char} (h : ∀ c ∈ cs, isPlainText c = true) (n : Nat) :
    stringEnd 0 n (cs ++ '"' :: rest) = some (n + cs.length + 1) := by
  induction cs generalizing n with
  | nil => rfl
  | cons c cs ih =>
      have hc := h c (List.mem_cons_self ..)
      simp only [isPlainText, Bool.and_eq_true, decide_eq_true_eq, bne_iff_ne] at hc
      obtain ⟨⟨hlow, hquote⟩, hslash⟩ := hc
      have hline : c ≠ '\n' := by
        rintro rfl
        exact absurd hlow (by decide)
      have htext : isText c = true := by
        simp only [isText, bne_iff_ne]
        rintro rfl
        exact absurd hlow (by decide)
      rw [List.cons_append, stringEnd, if_neg hquote, if_neg hline, if_neg hslash, if_pos htext,
        ih fun d hd => h d (List.mem_cons_of_mem _ hd), List.length_cons]
      congr 1
      omega

/-- A character that starts no line, blank, word or comment starts a literal if there is one. -/
theorem lexemeAt_of_literal? {touching : Bool} (hline : c ≠ '\n') (hblank : isBlank c = false)
    (hword : startsIdentifier c = false) (hcomment : comment? (c :: rest) = none) {kind : String}
    {n : Nat} (hliteral : literal? (c :: rest) = some (kind, n)) :
    lexemeAt touching c rest
      = (some (.literal (Node.token kind ((c :: rest).take n))), n - 1) := by
  simp only [lexemeAt, if_neg hline, hblank, hword, hcomment, hliteral, Bool.false_eq_true, if_false]

theorem lexFrom_string {cs : List Char} (h : ∀ c ∈ cs, isPlainText c = true) :
    lexFrom 0 before found ('"' :: cs ++ '"' :: rest)
      = lexFrom 0 .other
          (.literal (Node.token "interpreted_string_literal" ('"' :: cs ++ ['"'])) :: found)
          rest := by
  have hlength : (cs ++ ['"']).length = cs.length + 1 := by simp
  have hliteral : literal? ('"' :: (cs ++ '"' :: rest))
      = some ("interpreted_string_literal", 1 + cs.length + 1) := by
    show (stringEnd 0 1 (cs ++ '"' :: rest)).map _ = _
    rw [stringEnd_plain h]
    rfl
  have htext : '"' :: (cs ++ '"' :: rest) = ('"' :: cs ++ ['"']) ++ rest := by simp
  have htake : ('"' :: (cs ++ '"' :: rest)).take (1 + cs.length + 1) = '"' :: cs ++ ['"'] := by
    rw [htext, List.take_left' (by simp; omega)]
  have hlexeme : lexemeAt (before == .mark) '"' (cs ++ '"' :: rest)
      = (some (.literal (Node.token "interpreted_string_literal" ('"' :: cs ++ ['"']))),
          (cs ++ ['"']).length) := by
    rw [lexemeAt_of_literal? (by decide) rfl rfl rfl hliteral, htake, hlength]
    congr 1
    omega
  have hrest : cs ++ '"' :: rest = (cs ++ ['"']) ++ rest := by simp
  rw [List.cons_append, lexFrom_of_lexemeAt hlexeme, hrest, lexFrom_skip,
    addLexeme_of_ne_line (by simp)]
  rfl

/-! ## Marks and brackets -/

theorem lexFrom_mark
    (h : lexemeAt (before == .mark) c rest = (some (.mark c (before == .mark)), 0)) :
    lexFrom 0 before found (c :: rest)
      = lexFrom 0 .mark (.mark c (before == .mark) :: found) rest := by
  rw [lexFrom_of_lexemeAt h, addLexeme_of_ne_line (by simp)]
  rfl

theorem number?_dot {d : Char} (hd : d.isDigit = false) : number? ('.' :: d :: rest) = none := by
  simp [number?, integer, floating, imaginary, Recognizer.longest, Recognizer.andThen,
    Recognizer.one, exponent, oneOf, decimalDigits, underscore, Recognizer.digits, hd]

/-- A dot that no digit follows is a mark. -/
theorem lexFrom_dot {d : Char} (hd : d.isDigit = false) :
    lexFrom 0 before found ('.' :: d :: rest)
      = lexFrom 0 .mark (.mark '.' (before == .mark) :: found) (d :: rest) := by
  refine lexFrom_mark ?_
  have hliteral : literal? ('.' :: d :: rest) = none := number?_dot hd
  have hcomment : comment? ('.' :: d :: rest) = none := rfl
  rw [lexemeAt]
  simp only [hliteral, hcomment]
  rfl

theorem lexFrom_bracket {b : Lexeme} (h : bracket? c = some b) :
    lexFrom 0 before found (c :: rest) = lexFrom 0 .other (b :: found) rest := by
  have hlexeme : lexemeAt (before == .mark) c rest = (some b, 0) := by
    unfold bracket? at h
    split at h <;> cases h <;> rfl
  have hb : b ≠ .line ∧ neighborAfter c (some b) = .other := by
    unfold bracket? at h
    split at h <;> cases h <;> exact ⟨by simp, rfl⟩
  rw [lexFrom_of_lexemeAt hlexeme, addLexeme_of_ne_line hb.1, hb.2]

end GoAssets.Go
