import GoAssets.Proofs.Text.Ranges
import GoAssets.Text.Quoted
import GoAssets.Text.Recognizer

/-!
# Quoted text can be read back

The characters of a quoted text have codes of different lengths: themselves, a short name after a
backslash, or a number in as many hexadecimal digits as it takes. `readChar?` reads one code and
leaves the rest (`readChar?_quoteChar`), so no code is the beginning of another. A text ends at the
first quote that is no code, and two quoted texts that begin alike are the same text
(`quote_append_inj`).

Quoting leaves no control character (`isControl_of_mem_quote`).
-/

namespace GoAssets.Text

/-! ## Hexadecimal digits -/

theorem hexDigit_eq : ∀ n < 16, isHexDigit (hexDigit n) = true ∧ digitValue (hexDigit n) = n := by
  decide

/-- The digits of a number are hexadecimal and give the number back. -/
theorem hexDigits_value (n : Nat) :
    (∀ d ∈ hexDigits n, isHexDigit d = true) ∧ numberValue 16 (hexDigits n) = n := by
  fun_induction hexDigits n with
  | case1 n hlt =>
      obtain ⟨hhex, hvalue⟩ := hexDigit_eq n hlt
      simp [numberValue, hhex, hvalue]
  | case2 n hge ih =>
      obtain ⟨hhex, hvalue⟩ := hexDigit_eq (n % 16) (Nat.mod_lt n (by decide))
      refine ⟨?_, ?_⟩
      · intro d hd
        rcases List.mem_append.mp hd with hd | hd
        · exact ih.1 d hd
        · rwa [List.mem_singleton.mp hd]
      · have hlead := ih.2
        rw [numberValue] at hlead ⊢
        rw [List.foldl_append, hlead, List.foldl_cons, List.foldl_nil, if_pos hhex, hvalue]
        omega

/-! ## Reading one character -/

/-- What a letter after a backslash stands for. -/
def shortEscape? (letter : Char) : Option Char :=
  if letter = '0' then some '\x00'
  else if letter = 't' then some '\t'
  else if letter = 'r' then some '\r'
  else if letter = 'n' then some '\n'
  else if letter = '"' then some '"'
  else if letter = '\\' then some '\\'
  else none

/-- Read one character of a quoted text; a quote by itself is none. -/
def readChar? : Parser Char
  | [] => none
  | '"' :: _ => none
  | '\\' :: 'u' :: rest =>
    some (.ofNat (numberValue 16 (rest.takeWhile (· != '\x7d'))),
      (rest.dropWhile (· != '\x7d')).drop 1)
  | '\\' :: letter :: rest => (shortEscape? letter).map (·, rest)
  | c :: rest => some (c, rest)

theorem readChar?_number (n : Nat) (rest : List Char) :
    readChar? (['\\', 'u', '\x7b'] ++ hexDigits n ++ ['\x7d'] ++ rest) = some (.ofNat n, rest) := by
  have hdigits : ∀ d ∈ '\x7b' :: hexDigits n, (d != '\x7d') = true := by
    intro d hd
    rcases List.mem_cons.mp hd with rfl | hd
    · decide
    · have hhex := (hexDigits_value n).1 d hd
      rw [bne_iff_ne]
      rintro rfl
      revert hhex
      decide
  have hvalue : numberValue 16 ('\x7b' :: hexDigits n) = n := (hexDigits_value n).2
  have htext : ['\\', 'u', '\x7b'] ++ hexDigits n ++ ['\x7d'] ++ rest
      = '\\' :: 'u' :: ('\x7b' :: hexDigits n ++ '\x7d' :: rest) := by simp
  rw [htext, readChar?, List.takeWhile_append_of_pos hdigits, List.dropWhile_append_of_pos hdigits]
  simp [hvalue]

theorem readChar?_quoteChar (c : Char) (rest : List Char) :
    readChar? (quoteChar c ++ rest) = some (c, rest) := by
  unfold quoteChar
  split
  · rename_i h; rw [beq_iff_eq.mp h]; rfl
  split
  · rename_i h; rw [beq_iff_eq.mp h]; rfl
  split
  · rename_i h; rw [beq_iff_eq.mp h]; rfl
  split
  · rename_i h; rw [beq_iff_eq.mp h]; rfl
  split
  · rename_i h; rw [beq_iff_eq.mp h]; rfl
  split
  · rename_i h; rw [beq_iff_eq.mp h]; rfl
  split
  · rw [readChar?_number, Char.ofNat_toNat]
  · rename_i hquote hslash _
    rw [List.singleton_append, readChar?]
    all_goals simp_all

/-! ## Reading a text -/

/-- Two quoted texts, with anything after their closing quotes, are the same only if both their
parts are. -/
theorem flatMap_quoteChar_inj {cs ds xs ys : List Char}
    (h : cs.flatMap quoteChar ++ '"' :: xs = ds.flatMap quoteChar ++ '"' :: ys) :
    cs = ds ∧ xs = ys := by
  have hread := congrArg readChar? h
  induction cs generalizing ds with
  | nil =>
      cases ds with
      | nil => exact ⟨rfl, by simpa using h⟩
      | cons d ds =>
          rw [List.flatMap_cons, List.append_assoc, readChar?_quoteChar] at hread
          cases hread
  | cons c cs ih =>
      rw [List.flatMap_cons, List.append_assoc, readChar?_quoteChar] at hread
      cases ds with
      | nil => cases hread
      | cons d ds =>
          rw [List.flatMap_cons, List.append_assoc, readChar?_quoteChar] at hread
          obtain ⟨rfl, hrest⟩ := Prod.mk.inj (Option.some.inj hread)
          obtain ⟨rfl, rfl⟩ := ih hrest (congrArg readChar? hrest)
          exact ⟨rfl, rfl⟩

theorem quote_append_inj {s t : String} {xs ys : List Char}
    (h : (quote s).toList ++ xs = (quote t).toList ++ ys) : s = t ∧ xs = ys := by
  simp only [quote, String.toList_ofList, List.cons_append, List.append_assoc, List.cons.injEq,
    true_and, List.nil_append] at h
  obtain ⟨hchars, hrest⟩ := flatMap_quoteChar_inj h
  exact ⟨String.toList_inj.mp hchars, hrest⟩

/-! ## Control characters -/

def isControl (c : Char) : Bool :=
  decide (c.toNat < 0x20) || (decide (0x7f ≤ c.toNat) && decide (c.toNat ≤ 0x9f))

theorem increases_invisible : Increases invisible := by
  decide +kernel

theorem isInvisible_of_isControl {c : Char} (h : isControl c = true) : isInvisible c = true := by
  simp only [isControl, Bool.or_eq_true, Bool.and_eq_true, decide_eq_true_eq] at h
  by_cases hascii : c.toNat < 0x80
  · have : c.toNat < 0x20 ∨ c.toNat = 0x7f := by omega
    rcases this with h | h <;> simp [isInvisible, h]
  · have hfound : inRanges invisible c.toNat = true :=
      (inRanges_iff increases_invisible).mpr
        ⟨(0x80, 0xa0), by decide +kernel, by rw [Holds]; omega⟩
    simp [isInvisible, inTable, hfound, Nat.le_of_not_lt hascii]

theorem isControl_of_isHexDigit {d : Char} (h : isHexDigit d = true) : isControl d = false := by
  simp only [isHexDigit, Char.isDigit, Bool.or_eq_true, Bool.and_eq_true, decide_eq_true_eq,
    Char.le_def, UInt32.le_iff_toNat_le, ge_iff_le] at h
  change ((48 ≤ d.toNat ∧ d.toNat ≤ 57) ∨ 97 ≤ d.toNat ∧ d.toNat ≤ 102)
    ∨ 65 ≤ d.toNat ∧ d.toNat ≤ 70 at h
  simp only [isControl, Bool.or_eq_false_iff, Bool.and_eq_false_iff, decide_eq_false_iff_not]
  omega

theorem isControl_of_mem_number {n : Nat} {d : Char}
    (hd : d ∈ ['\\', 'u', '\x7b'] ++ hexDigits n ++ ['\x7d']) : isControl d = false := by
  simp only [List.mem_append, List.mem_cons, List.not_mem_nil, or_false] at hd
  rcases hd with ((rfl | rfl | rfl) | hd) | rfl
  · rfl
  · rfl
  · rfl
  · exact isControl_of_isHexDigit ((hexDigits_value n).1 d hd)
  · rfl

theorem isControl_of_mem_short {letter d : Char} (hletter : isControl letter = false)
    (hd : d ∈ ['\\', letter]) : isControl d = false := by
  simp only [List.mem_cons, List.not_mem_nil, or_false] at hd
  rcases hd with rfl | rfl
  · rfl
  · exact hletter

/-- A character is written in characters that are no controls: a control is invisible, so it is
never written as itself. -/
theorem isControl_of_mem_quoteChar {c d : Char} (hd : d ∈ quoteChar c) : isControl d = false := by
  unfold quoteChar at hd
  split at hd
  · exact isControl_of_mem_short rfl hd
  split at hd
  · exact isControl_of_mem_short rfl hd
  split at hd
  · exact isControl_of_mem_short rfl hd
  split at hd
  · exact isControl_of_mem_short rfl hd
  split at hd
  · exact isControl_of_mem_short rfl hd
  split at hd
  · exact isControl_of_mem_short rfl hd
  split at hd
  · exact isControl_of_mem_number hd
  · rename_i hvisible
    rw [List.mem_singleton.mp hd]
    exact Bool.not_eq_true _ |>.mp (mt isInvisible_of_isControl hvisible)

theorem isControl_of_mem_quote {s : String} {d : Char} (hd : d ∈ (quote s).toList) :
    isControl d = false := by
  rw [quote, String.toList_ofList, List.mem_append, List.mem_cons, List.mem_flatMap,
    List.mem_singleton] at hd
  rcases hd with (rfl | ⟨c, -, hd⟩) | rfl
  · rfl
  · exact isControl_of_mem_quoteChar hd
  · rfl

end GoAssets.Text
