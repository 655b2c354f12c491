import GoAssets.Proofs.Toml.Number
import GoAssets.Toml.Quoted
import GoAssets.Toml.Write

/-!
# Written TOML strings read back

A string is written in one of four forms, as its characters allow, and each form has a reader of its
own. `string_writeString` says that every string is read back, whatever form was chosen.

The readers agree in two things, which are stated once. Between double quotes, on one line or over
several, a character is written as itself or escaped (`Escapes`). And over several lines, in double
or in single quotes, up to two quotes may stand in a row before any other character and before the
closing ones (`Closes`); the inductions carry the number of quotes that were just written.
-/

namespace GoAssets.Toml

/-! ## Characters -/

theorem isTextChar_of_not_isControl {c : Char} (h : isControl c = false) (hfeed : c ≠ '\n') :
    isTextChar c = true := by
  simp only [isControl, Bool.or_eq_false_iff, Bool.and_eq_false_iff, decide_eq_false_iff_not,
    bne_eq_false_iff_eq, beq_eq_false_iff_ne] at h
  obtain ⟨(hlow | rfl) | rfl, hdelete⟩ := h
  · have : c.toNat ≠ 0x7f := fun heq => hdelete (Char.toNat_inj.mp heq)
    simp only [isTextChar, Bool.or_eq_true, Bool.and_eq_true, decide_eq_true_eq, bne_iff_ne]
    exact .inr ⟨by omega, this⟩
  · rfl
  · exact absurd rfl hfeed

theorem hexChar?_fourDigits {c : Char} (h : isControl c = true) :
    hexChar? (fourDigits c.toNat) = some c := by
  have hsmall : ∀ n < 128, hexChar? (fourDigits n) = some (Char.ofNat n) := by decide
  have hlt : c.toNat < 128 := by
    simp only [isControl, Bool.or_eq_true, Bool.and_eq_true, decide_eq_true_eq, beq_iff_eq] at h
    rcases h with ⟨⟨hlow, -⟩, -⟩ | rfl
    · omega
    · decide
  rw [hsmall _ hlt, Char.ofNat_toNat]

/-! ## Escapes -/

/-- A reader between double quotes takes an escaped character, and a character that needs no escape,
off the front. -/
structure Escapes (read : Parser (List Char)) : Prop where
  letter {l c : Char} {rest cs rest' : List Char} (h : read rest = some (cs, rest'))
    (hl : escapeLetter? l = some c) : read ('\\' :: l :: rest) = some (c :: cs, rest')
  number {a b c d e : Char} {rest cs rest' : List Char} (h : read rest = some (cs, rest'))
    (he : hexChar? [a, b, c, d] = some e) :
    read ('\\' :: 'u' :: a :: b :: c :: d :: rest) = some (e :: cs, rest')
  plain {c : Char} {rest cs rest' : List Char} (h : read rest = some (cs, rest'))
    (htext : isTextChar c = true) (hquote : c ≠ '"') (hslash : c ≠ '\\') :
    read (c :: rest) = some (c :: cs, rest')

theorem Escapes.escapeChar {read : Parser (List Char)} (hread : Escapes read) {c : Char}
    {rest cs rest' : List Char} (h : read rest = some (cs, rest')) (hquote : c ≠ '"')
    (hfeed : c ≠ '\n') : read (escapeChar c ++ rest) = some (c :: cs, rest') := by
  unfold Toml.escapeChar
  split
  · subst c; exact hread.letter h rfl
  split
  · subst c; exact hread.letter h rfl
  split
  · subst c; exact hread.letter h rfl
  split
  · subst c; exact hread.letter h rfl
  split
  · subst c; exact hread.letter h rfl
  split
  · rename_i hcontrol
    exact hread.number h (hexChar?_fourDigits hcontrol)
  · rename_i hslash hcontrol
    exact hread.plain h
      (isTextChar_of_not_isControl (Bool.not_eq_true _ |>.mp hcontrol) hfeed) hquote hslash

/-- What is written for a character begins with a backslash or is the character. -/
theorem exists_escapeChar_eq_cons {c : Char} (hquote : c ≠ '"') (hfeed : c ≠ '\n') :
    ∃ d ds, escapeChar c = d :: ds ∧ d ∉ ['"', '\n', '\r'] := by
  unfold Toml.escapeChar
  split
  · exact ⟨_, _, rfl, by decide⟩
  split
  · exact ⟨_, _, rfl, by decide⟩
  split
  · exact ⟨_, _, rfl, by decide⟩
  split
  · exact ⟨_, _, rfl, by decide⟩
  split
  · exact ⟨_, _, rfl, by decide⟩
  split
  · exact ⟨_, _, rfl, by decide⟩
  · rename_i hreturn _ _
    exact ⟨c, [], rfl, by simp [hquote, hfeed, hreturn]⟩

/-- A letter that names a character is neither the mark of a number nor a blank or a line end. -/
theorem ne_of_escapeLetter? {l c : Char} (h : escapeLetter? l = some c) :
    l ∉ ['u', 'U', ' ', '\t', '\n', '\r'] := by
  have hnames : (escapeLetter? l).isSome = true := by rw [h]; rfl
  exact not_mem_of_class (p := fun l => (escapeLetter? l).isSome) hnames rfl

theorem endsLine_cons {l : Char} (h : l ∉ [' ', '\t', '\n', '\r']) (rest : List Char) :
    endsLine (l :: rest) = false := by
  simp only [List.mem_cons, List.not_mem_nil, or_false, not_or] at h
  obtain ⟨hspace, htab, hfeed, hreturn⟩ := h
  have hblank : isBlank l = false := by simp [isBlank, hspace, htab]
  rw [endsLine, List.dropWhile_cons_of_neg (by simp [hblank]), lineEnd?]
  · rfl
  · simp [hfeed]
  · simp [hreturn]

theorem escapes_basicBody : Escapes basicBody where
  letter {l c rest cs rest'} h hl := by
    have hne := ne_of_escapeLetter? hl
    simp only [List.mem_cons, not_or] at hne
    rw [basicBody]
    · rw [hl, h]; rfl
    all_goals simp [hne]
  number h he := by rw [basicBody, he, h]; rfl
  plain {c rest cs rest'} h htext hquote hslash := by
    rw [basicBody]
    · rw [if_pos ⟨htext, hslash⟩, h]; rfl
    all_goals simp_all

theorem escapes_basicLines : Escapes (basicLines false) where
  letter {l c rest cs rest'} h hl := by
    have hne := ne_of_escapeLetter? hl
    have hends : endsLine (l :: rest) = false :=
      endsLine_cons (fun hm => hne (List.mem_cons_of_mem _ (List.mem_cons_of_mem _ hm))) rest
    simp only [List.mem_cons, not_or] at hne
    rw [basicLines]
    · simp only [hends, hl, h]; rfl
    all_goals simp [hne]
  number h he := by rw [basicLines, he, h]; rfl
  plain {c rest cs rest'} h htext hquote hslash := by
    have hreturn : c ≠ '\r' := by
      rintro rfl
      cases htext
    rw [basicLines]
    · rw [Bool.false_and, if_neg Bool.false_ne_true, if_pos (.inr ⟨htext, hslash⟩), h]; rfl
    all_goals simp_all

/-! ## Runs of quotes -/

/-- A reader over several lines takes up to two quotes in a row off the front, and reads three as
the end, after up to two that belong to the string. -/
structure Closes (q : Char) (read : Parser (List Char)) : Prop where
  one {d : Char} {rest cs rest' : List Char} (hd : d ≠ q)
    (h : read (d :: rest) = some (cs, rest')) : read (q :: d :: rest) = some (q :: cs, rest')
  two {d : Char} {rest cs rest' : List Char} (hd : d ≠ q)
    (h : read (q :: d :: rest) = some (cs, rest')) :
    read (q :: q :: d :: rest) = some (q :: cs, rest')
  three {rest : List Char} (h : rest.head? ≠ some q) : read (q :: q :: q :: rest) = some ([], rest)
  four {rest : List Char} (h : rest.head? ≠ some q) :
    read (q :: q :: q :: q :: rest) = some ([q], rest)
  five {rest : List Char} : read (q :: q :: q :: q :: q :: rest) = some ([q, q], rest)

theorem Closes.run {q : Char} {read : Parser (List Char)} (hread : Closes q read) {k : Nat}
    (hk : k < 3) {d : Char} (hd : d ≠ q) {rest cs rest' : List Char}
    (h : read (d :: rest) = some (cs, rest')) :
    read (List.replicate k q ++ d :: rest) = some (List.replicate k q ++ cs, rest') := by
  match k, hk with
  | 0, _ => exact h
  | 1, _ => exact hread.one hd h
  | 2, _ => exact hread.two hd (hread.one hd h)

theorem Closes.close {q : Char} {read : Parser (List Char)} (hread : Closes q read) {k : Nat}
    (hk : k < 3) {rest : List Char} (h : rest.head? ≠ some q) :
    read (List.replicate k q ++ q :: q :: q :: rest) = some (List.replicate k q, rest) := by
  match k, hk with
  | 0, _ => exact hread.three h
  | 1, _ => exact hread.four h
  | 2, _ => exact hread.five

theorem closes_basicLines : Closes '"' (basicLines false) where
  one {d rest cs rest'} hd h := by
    rw [basicLines]
    · rw [h]; rfl
    all_goals simp_all
  two {d rest cs rest'} hd h := by
    rw [basicLines]
    · rw [h]; rfl
    all_goals simp_all
  three {rest} h := by
    rw [basicLines]
    all_goals rintro _ rfl
    all_goals simp at h
  four {rest} h := by
    rw [basicLines]
    all_goals rintro _ rfl
    all_goals simp at h
  five {rest} := by rw [basicLines]

theorem closes_literalLines : Closes '\'' literalLines where
  one {d rest cs rest'} hd h := by
    rw [literalLines]
    · rw [h]; rfl
    all_goals simp_all
  two {d rest cs rest'} hd h := by
    rw [literalLines]
    · rw [h]; rfl
    all_goals simp_all
  three {rest} h := by
    rw [literalLines]
    all_goals rintro _ rfl
    all_goals simp at h
  four {rest} h := by
    rw [literalLines]
    all_goals rintro _ rfl
    all_goals simp at h
  five {rest} := by rw [literalLines]

/-! ## The four forms -/

theorem basicBody_escapeLine (cs rest : List Char) :
    basicBody (escapeLine cs ++ '"' :: rest) = some (cs, rest) := by
  induction cs with
  | nil => rw [escapeLine, List.flatMap_nil, List.nil_append, basicBody]
  | cons c cs ih =>
      rw [escapeLine, List.flatMap_cons, List.append_assoc]
      split
      · rename_i hfeed
        subst c
        exact escapes_basicBody.letter ih rfl
      · rename_i hfeed
        split
        · rename_i hquote
          subst c
          exact escapes_basicBody.letter ih rfl
        · rename_i hquote
          exact escapes_basicBody.escapeChar ih hquote hfeed

theorem literalBody_append {cs : List Char} (rest : List Char) (hquote : '\'' ∉ cs)
    (htext : ∀ c ∈ cs, isTextChar c = true) :
    literalBody (cs ++ '\'' :: rest) = some (cs, rest) := by
  induction cs with
  | nil => rw [List.nil_append, literalBody, if_pos rfl]
  | cons c cs ih =>
      obtain ⟨hc, hcs⟩ := not_or.mp (mt List.mem_cons.mpr hquote)
      obtain ⟨htextc, htextcs⟩ := List.forall_mem_cons.mp htext
      rw [List.cons_append, literalBody, if_neg (Ne.symm hc), if_pos htextc, ih hcs htextcs]
      rfl

theorem basicLines_feed {rest cs rest' : List Char} (h : basicLines false rest = some (cs, rest')) :
    basicLines false ('\n' :: rest) = some ('\n' :: cs, rest') := by
  rw [basicLines]
  · rw [h]; rfl
  all_goals simp

/-- `k` is how many quotes were written just before. -/
theorem basicLines_escapeLines (k : Nat) (hk : k < 3) (cs : List Char) {rest : List Char}
    (hrest : rest.head? ≠ some '"') :
    basicLines false (List.replicate k '"' ++ (escapeLines k cs ++ '"' :: '"' :: '"' :: rest))
      = some (List.replicate k '"' ++ cs, rest) := by
  induction cs generalizing k with
  | nil =>
      rw [escapeLines, List.nil_append, List.append_nil]
      exact closes_basicLines.close hk hrest
  | cons c cs ih =>
      rw [escapeLines]
      split
      · rename_i hquote
        subst c
        split
        · rename_i htwo
          subst k
          exact closes_basicLines.run hk (by decide)
            (escapes_basicLines.letter (ih 0 (by decide)) rfl)
        · rename_i htwo
          -- One more quote than before.
          have := ih (k + 1) (by omega)
          rwa [List.replicate_succ', List.append_assoc, List.append_assoc] at this
      · rename_i hquote
        split
        · rename_i hfeed
          subst c
          exact closes_basicLines.run hk (by decide) (basicLines_feed (ih 0 (by decide)))
        · rename_i hfeed
          have hread := escapes_basicLines.escapeChar (ih 0 (by decide)) hquote hfeed
          obtain ⟨d, ds, hd, hne⟩ := exists_escapeChar_eq_cons hquote hfeed
          rw [hd] at hread ⊢
          rw [List.append_assoc]
          exact closes_basicLines.run hk (fun heq => hne (heq ▸ List.mem_cons_self ..)) hread

theorem literalLines_plain {c : Char} {rest cs rest' : List Char}
    (h : literalLines rest = some (cs, rest')) (hquote : c ≠ '\'')
    (hcontrol : isControl c = false) : literalLines (c :: rest) = some (c :: cs, rest') := by
  have hreturn : c ≠ '\r' := by
    rintro rfl
    cases hcontrol
  have htext : c = '\n' ∨ isTextChar c = true :=
    Decidable.or_iff_not_imp_left.mpr (isTextChar_of_not_isControl hcontrol)
  rw [literalLines]
  · rw [if_pos htext, h]; rfl
  all_goals simp_all

theorem le_longestRun (q : Char) (run : Nat) (cs : List Char) : run ≤ longestRun q run cs := by
  induction cs generalizing run with
  | nil => exact Nat.le_refl _
  | cons c cs ih =>
      rw [longestRun]
      split
      · exact Nat.le_of_succ_le (ih (run + 1))
      · exact Nat.le_max_left _ _

/-- `k` is how many quotes stand just before. -/
theorem literalLines_append (k : Nat) (cs : List Char) {rest : List Char}
    (hrun : longestRun '\'' k cs < 3) (hrest : rest.head? ≠ some '\'')
    (hcontrol : ∀ c ∈ cs, isControl c = false) :
    literalLines (List.replicate k '\'' ++ (cs ++ '\'' :: '\'' :: '\'' :: rest))
      = some (List.replicate k '\'' ++ cs, rest) := by
  have hk : k < 3 := Nat.lt_of_le_of_lt (le_longestRun '\'' k cs) hrun
  induction cs generalizing k with
  | nil =>
      rw [List.nil_append, List.append_nil]
      exact closes_literalLines.close hk hrest
  | cons c cs ih =>
      obtain ⟨hc, hcs⟩ := List.forall_mem_cons.mp hcontrol
      rw [longestRun] at hrun
      split at hrun
      · rename_i hquote
        subst c
        have := ih (k + 1) hrun hcs (Nat.lt_of_le_of_lt (le_longestRun _ _ _) hrun)
        rwa [List.replicate_succ', List.append_assoc, List.append_assoc] at this
      · rename_i hquote
        refine closes_literalLines.run hk hquote ?_
        have hread := ih 0 (Nat.lt_of_le_of_lt (Nat.le_max_right _ _) hrun) hcs (by decide)
        exact literalLines_plain hread hquote hc

/-! ## Strings -/

theorem formOf_literal {cs : List Char} (h : formOf cs = .literal) :
    (∀ c ∈ cs, isControl c = false) ∧ '\'' ∉ cs ∧ '\n' ∉ cs := by
  simp only [formOf] at h
  split at h
  · cases h
  split at h
  · rename_i hliteral
    simpa [and_assoc] using hliteral
  split at h
  · cases h
  split at h
  · cases h
  split at h
  · cases h
  · cases h

theorem formOf_literalLines {cs : List Char} (h : formOf cs = .literalLines) :
    (∀ c ∈ cs, isControl c = false) ∧ longestRun '\'' 0 cs < 3 := by
  simp only [formOf] at h
  split at h
  · cases h
  split at h
  · cases h
  split at h
  · cases h
  split at h
  · rename_i hlines
    simpa using hlines
  split at h
  · cases h
  · cases h

/-- What stands after the opening quotes of several lines: the body, after a line feed if the string
has one. -/
def opened (cs body : List Char) : List Char := if cs.contains '\n' then '\n' :: body else body

theorem dropLineEnd_opened {cs body : List Char}
    (h : '\n' ∉ cs → ∀ d, body.head? = some d → d ∉ ['\n', '\r']) :
    dropLineEnd (opened cs body) = body := by
  unfold opened
  split
  · rfl
  · rename_i hfeed
    have hhead := h (mt List.contains_iff_mem.mpr hfeed)
    cases body with
    | nil => rfl
    | cons d body =>
        have hd := hhead d rfl
        simp only [List.mem_cons, List.not_mem_nil, or_false, not_or] at hd
        rw [dropLineEnd, lineEnd?]
        · rfl
        · simp [hd]
        · simp [hd]

theorem head?_escapeLines {cs : List Char} (hfeed : '\n' ∉ cs) (rest : List Char) (d : Char)
    (h : (escapeLines 0 cs ++ '"' :: rest).head? = some d) : d ∉ ['\n', '\r'] := by
  cases cs with
  | nil =>
      obtain rfl := Option.some.inj h
      decide
  | cons c cs =>
      have hc : c ≠ '\n' := fun heq => hfeed (heq ▸ List.mem_cons_self ..)
      rw [escapeLines, if_neg hc] at h
      split at h
      · obtain rfl := Option.some.inj h
        decide
      · rename_i hquote
        obtain ⟨e, es, he, hne⟩ := exists_escapeChar_eq_cons hquote hc
        rw [he] at h
        obtain rfl := Option.some.inj h
        exact fun hm => hne (List.mem_cons_of_mem _ hm)

theorem head?_of_not_isControl {cs : List Char} (hcontrol : ∀ c ∈ cs, isControl c = false)
    (hfeed : '\n' ∉ cs) (rest : List Char) (d : Char)
    (h : (cs ++ '\'' :: rest).head? = some d) : d ∉ ['\n', '\r'] := by
  cases cs with
  | nil =>
      obtain rfl := Option.some.inj h
      decide
  | cons c cs =>
      obtain rfl := Option.some.inj h
      have hreturn : c ≠ '\r' := by
        rintro rfl
        cases hcontrol _ (List.mem_cons_self ..)
      simp only [List.mem_cons, List.not_mem_nil, or_false, not_or]
      exact ⟨fun heq => hfeed (heq ▸ List.mem_cons_self ..), hreturn⟩

theorem toList_writeString (s : String) :
    (writeString s).toList
      = match formOf s.toList with
        | .basic => '"' :: (escapeLine s.toList ++ ['"'])
        | .literal => '\'' :: (s.toList ++ ['\''])
        | .basicLines =>
          '"' :: '"' :: '"' :: opened s.toList (escapeLines 0 s.toList ++ ['"', '"', '"'])
        | .literalLines =>
          '\'' :: '\'' :: '\'' :: opened s.toList (s.toList ++ ['\'', '\'', '\'']) := by
  rw [writeString]
  cases formOf s.toList with
  | basic => simp
  | literal => simp
  | basicLines => by_cases hfeed : '\n' ∈ s.toList <;> simp [opened, hfeed]
  | literalLines => by_cases hfeed : '\n' ∈ s.toList <;> simp [opened, hfeed]

theorem exists_toList_writeString_eq_cons (s : String) :
    ∃ q cs, (writeString s).toList = q :: cs ∧ (q = '"' ∨ q = '\'') := by
  rw [toList_writeString]
  cases formOf s.toList with
  | basic => exact ⟨_, _, rfl, .inl rfl⟩
  | literal => exact ⟨_, _, rfl, .inr rfl⟩
  | basicLines => exact ⟨_, _, rfl, .inl rfl⟩
  | literalLines => exact ⟨_, _, rfl, .inr rfl⟩

theorem opened_append (cs body rest : List Char) :
    opened cs body ++ rest = opened cs (body ++ rest) := by
  rw [opened, opened]
  split <;> rfl

theorem string_basic {body cs rest : List Char} (hopen : ∀ more, body ≠ '"' :: '"' :: more)
    (h : basicBody body = some (cs, rest)) : string ('"' :: body) = some (.ofList cs, rest) := by
  rw [string]
  · rw [h]; rfl
  all_goals simp_all

theorem string_literal {body cs rest : List Char} (hopen : ∀ more, body ≠ '\'' :: '\'' :: more)
    (h : literalBody body = some (cs, rest)) : string ('\'' :: body) = some (.ofList cs, rest) := by
  rw [string]
  · rw [h]; rfl
  all_goals simp_all

theorem string_basicLines {body cs rest : List Char}
    (h : basicLines false (dropLineEnd body) = some (cs, rest)) :
    string ('"' :: '"' :: '"' :: body) = some (.ofList cs, rest) := by
  rw [string, h]
  rfl

theorem string_literalLines {body cs rest : List Char}
    (h : literalLines (dropLineEnd body) = some (cs, rest)) :
    string ('\'' :: '\'' :: '\'' :: body) = some (.ofList cs, rest) := by
  rw [string, h]
  rfl

/-- What is written on one line in double quotes does not begin like a string over several lines. -/
theorem escapeLine_append_ne {cs rest : List Char} (h : rest.head? ≠ some '"') (more : List Char) :
    escapeLine cs ++ '"' :: rest ≠ '"' :: '"' :: more := by
  cases cs with
  | nil =>
      intro heq
      rw [escapeLine, List.flatMap_nil, List.nil_append, List.cons_inj_right] at heq
      exact h (heq ▸ rfl)
  | cons c cs =>
      rw [escapeLine, List.flatMap_cons]
      split
      · exact fun heq => absurd (List.cons.inj heq).1 (by decide)
      · rename_i hfeed
        split
        · exact fun heq => absurd (List.cons.inj heq).1 (by decide)
        · rename_i hquote
          obtain ⟨d, ds, hd, hne⟩ := exists_escapeChar_eq_cons hquote hfeed
          rw [hd]
          exact fun heq => hne ((List.cons.inj heq).1 ▸ List.mem_cons_self ..)

theorem append_quote_ne {cs rest : List Char} (hcs : '\'' ∉ cs) (h : rest.head? ≠ some '\'')
    (more : List Char) : cs ++ '\'' :: rest ≠ '\'' :: '\'' :: more := by
  cases cs with
  | nil =>
      intro heq
      rw [List.nil_append, List.cons_inj_right] at heq
      exact h (heq ▸ rfl)
  | cons c cs => exact fun heq => hcs ((List.cons.inj heq).1 ▸ List.mem_cons_self ..)

/-- Every string is read back from the form that it is written in, up to what is no quote. -/
theorem string_writeString (s : String) {rest : List Char} (hdouble : rest.head? ≠ some '"')
    (hsingle : rest.head? ≠ some '\'') :
    string ((writeString s).toList ++ rest) = some (s, rest) := by
  have hs : String.ofList s.toList = s := String.ofList_toList
  rw [toList_writeString]
  cases hform : formOf s.toList with
  | basic =>
      simp only [List.cons_append, List.append_assoc, List.nil_append]
      rw [string_basic (escapeLine_append_ne hdouble) (basicBody_escapeLine _ _), hs]
  | literal =>
      obtain ⟨hcontrol, hquote, hfeed⟩ := formOf_literal hform
      have htext : ∀ c ∈ s.toList, isTextChar c = true := fun c hc =>
        isTextChar_of_not_isControl (hcontrol c hc) fun heq => hfeed (heq ▸ hc)
      simp only [List.cons_append, List.append_assoc, List.nil_append]
      rw [string_literal (append_quote_ne hquote hsingle) (literalBody_append _ hquote htext), hs]
  | basicLines =>
      have hread : basicLines false (escapeLines 0 s.toList ++ '"' :: '"' :: '"' :: rest)
          = some (s.toList, rest) := basicLines_escapeLines 0 (by decide) s.toList hdouble
      simp only [List.cons_append, opened_append, List.append_assoc, List.nil_append]
      rw [string_basicLines, hs]
      rw [dropLineEnd_opened fun hfeed => head?_escapeLines hfeed _, hread]
  | literalLines =>
      obtain ⟨hcontrol, hrun⟩ := formOf_literalLines hform
      have hread : literalLines (s.toList ++ '\'' :: '\'' :: '\'' :: rest)
          = some (s.toList, rest) := literalLines_append 0 s.toList hrun hsingle hcontrol
      simp only [List.cons_append, opened_append, List.append_assoc, List.nil_append]
      rw [string_literalLines, hs]
      rw [dropLineEnd_opened fun hfeed => head?_of_not_isControl hcontrol hfeed _, hread]

end GoAssets.Toml
