import GoAssets.Toml.Number

/-!
# Decimal digits are read as an integer

A line that gives a key its size ends in decimal digits. Before they are taken for an integer, the
reader tries a date, a time, a floating-point number and a word for one. `number_decimal` says that
all of these fail on digits that end with the line: a date or a time needs a mark after its first
digits, and a floating-point number needs a fraction or an exponent.
-/

namespace GoAssets.Toml

open Text (Recognizer)

/-- Decimal digits as an integer is spelled: without a zero at the front, unless it is the only
one. -/
structure IsDecimal (ds : List Char) : Prop where
  ne_nil : ds ≠ []
  digits : ∀ d ∈ ds, d.isDigit = true
  no_zero : ds.head? = some '0' → ds = ['0']

/-! ## Classes of characters -/

theorem ne_of_class {p : Char → Bool} {c d : Char} (hc : p c = true) (hd : p d = false) :
    c ≠ d := by
  rintro rfl
  rw [hc] at hd
  cases hd

/-- A character of a class is none of the marks outside it. -/
theorem not_mem_of_class {p : Char → Bool} {c : Char} {marks : List Char} (hc : p c = true)
    (h : marks.any p = false) : c ∉ marks :=
  fun hmem => List.any_eq_false.mp h c hmem hc

/-! ## Digits up to the end of a line -/

theorem moreDigits_line {ds : List Char} (h : ∀ d ∈ ds, d.isDigit = true) (rest : List Char) :
    Recognizer.moreDigits Char.isDigit (ds ++ '\n' :: rest) = (ds.length, '\n' :: rest) := by
  induction ds with
  | nil => cases rest <;> rfl
  | cons d ds ih =>
      obtain ⟨hd, hds⟩ := List.forall_mem_cons.mp h
      obtain ⟨e, es, he⟩ := List.exists_cons_of_ne_nil
        (List.append_ne_nil_of_right_ne_nil ds (List.cons_ne_nil '\n' rest))
      have hmore := ih hds
      rw [he] at hmore
      rw [List.cons_append, he, Recognizer.moreDigits, if_pos hd, hmore]
      rfl

theorem sign_digit {d : Char} (h : d.isDigit = true) (rest : List Char) :
    sign (d :: rest) = some (0, d :: rest) := by
  have hplus : d ≠ '+' := ne_of_class h rfl
  have hminus : d ≠ '-' := ne_of_class h rfl
  simp [sign, Recognizer.orNothing, Recognizer.one, hplus, hminus]

theorem decimal_line {ds : List Char} (h : IsDecimal ds) (rest : List Char) :
    decimal (ds ++ '\n' :: rest) = some (ds.length, '\n' :: rest) := by
  obtain ⟨hne, hdigits, hzero⟩ := h
  obtain ⟨d, ds, rfl⟩ := List.exists_cons_of_ne_nil hne
  obtain ⟨hd, hds⟩ := List.forall_mem_cons.mp hdigits
  rw [decimal, Recognizer.andThen, List.cons_append, sign_digit hd]
  simp only [Recognizer.longest, List.foldl_cons, List.foldl_nil, Recognizer.one, if_pos hd,
    List.head?_cons, Option.some.injEq, Recognizer.digits, moreDigits_line hds]
  by_cases hd0 : d = '0'
  · -- The zero stands alone, and no longer lexeme competes with it.
    obtain ⟨-, rfl⟩ := List.cons.inj (hzero (congrArg some hd0))
    simp [hd0]
  · cases ds with
    | nil => simp [hd0]
    | cons e es => simp [hd0]

theorem exactly_line {ds : List Char} (h : ∀ d ∈ ds, d.isDigit = true) (n : Nat)
    (rest : List Char) :
    Recognizer.exactly Char.isDigit n (ds ++ '\n' :: rest)
      = if n ≤ ds.length then some (n, ds.drop n ++ '\n' :: rest) else none := by
  induction n generalizing ds with
  | zero => rfl
  | succ n ih =>
      rw [Recognizer.exactly, Recognizer.andThen]
      cases ds with
      | nil => rfl
      | cons d ds =>
          obtain ⟨hd, hds⟩ := List.forall_mem_cons.mp h
          rw [List.cons_append, Recognizer.one, if_pos hd]
          simp only [ih hds, List.length_cons, Nat.succ_le_succ_iff, List.drop_succ_cons]
          split
          · simp [Nat.add_comm]
          · rfl

/-! ## What digits are not -/

theorem fixed_line {ds : List Char} (h : ∀ d ∈ ds, d.isDigit = true) (width least greatest : Nat)
    (rest : List Char) :
    fixed width least greatest (ds ++ '\n' :: rest) = none
    ∨ ∃ n, fixed width least greatest (ds ++ '\n' :: rest)
        = some (n, ds.drop width ++ '\n' :: rest) := by
  rw [fixed, exactly_line h]
  by_cases hwidth : width ≤ ds.length
  · simp only [if_pos hwidth]
    split
    · exact .inr ⟨_, rfl⟩
    · exact .inl rfl
  · refine .inl ?_
    simp only [if_neg hwidth]

theorem after?_line {ds : List Char} (h : ∀ d ∈ ds, d.isDigit = true) {mark : Char}
    (hmark : mark.isDigit = false) (hfeed : mark ≠ '\n') (rest : List Char) :
    after? mark (ds ++ '\n' :: rest) = none := by
  cases ds with
  | nil => exact if_neg (Ne.symm hfeed)
  | cons d ds => exact if_neg (ne_of_class (h d (List.mem_cons_self ..)) hmark)

theorem dateTime_line {ds : List Char} (h : ∀ d ∈ ds, d.isDigit = true) (rest : List Char) :
    dateTime (ds ++ '\n' :: rest) = none := by
  have hdrop : ∀ width, ∀ d ∈ ds.drop width, d.isDigit = true :=
    fun width d hd => h d (List.mem_of_mem_drop hd)
  have hdate : date? (ds ++ '\n' :: rest) = none := by
    have hdash : after? '-' (ds.drop 4 ++ '\n' :: rest) = none :=
      after?_line (hdrop 4) rfl (by decide) rest
    rw [date?]
    rcases fixed_line h 4 0 9999 rest with hnone | ⟨year, hyear⟩
    · rw [hnone]; rfl
    · simp only [hyear, hdash, Option.bind_eq_bind, Option.bind_some, Option.bind_none]
  have htime : time? (ds ++ '\n' :: rest) = none := by
    have hcolon : after? ':' (ds.drop 2 ++ '\n' :: rest) = none :=
      after?_line (hdrop 2) rfl (by decide) rest
    rw [time?]
    rcases fixed_line h 2 0 23 rest with hnone | ⟨hour, hhour⟩
    · rw [hnone]; rfl
    · simp only [hhour, hcolon, Option.bind_eq_bind, Option.bind_some, Option.bind_none]
  rw [dateTime, hdate, htime]
  rfl

theorem finite_line {ds : List Char} (h : IsDecimal ds) (rest : List Char) :
    finite (ds ++ '\n' :: rest) = none := by
  rw [finite, decimal_line h]
  rfl

theorem special_digit {d : Char} (h : d.isDigit = true) (rest : List Char) :
    special (d :: rest) = none := by
  have hne : d ∉ ['+', '-', 'i', 'n'] := not_mem_of_class h rfl
  simp only [List.mem_cons, List.not_mem_nil, or_false, not_or] at hne
  obtain ⟨hplus, hminus, hi, hn⟩ := hne
  simp [special, hplus, hminus, hi, hn]

/-! ## Integers -/

theorem integer_line {ds : List Char} (h : IsDecimal ds) (rest : List Char) :
    integer (ds ++ '\n' :: rest)
      = (inRange (Text.numberValue 10 ds)).map fun v => (v, '\n' :: rest) := by
  have hbase : ∀ mark more, mark ≠ '\n' → ds ++ '\n' :: rest ≠ '0' :: mark :: more := by
    intro mark more hmark heq
    obtain ⟨d, es, rfl⟩ := List.exists_cons_of_ne_nil h.ne_nil
    obtain ⟨rfl, htail⟩ := List.cons.inj heq
    obtain ⟨-, rfl⟩ := List.cons.inj (h.no_zero rfl)
    exact hmark (List.cons.inj htail).1.symm
  have hminus : (ds ++ '\n' :: rest).head? ≠ some '-' := by
    obtain ⟨d, es, rfl⟩ := List.exists_cons_of_ne_nil h.ne_nil
    exact fun heq => ne_of_class (h.digits d (List.mem_cons_self ..)) rfl (Option.some.inj heq)
  rw [integer]
  · simp only [decimal_line h, List.take_left, if_neg hminus]
  · exact fun more => hbase 'x' more (by decide)
  · exact fun more => hbase 'o' more (by decide)
  · exact fun more => hbase 'b' more (by decide)

/-- Decimal digits up to the end of a line are an integer, if it is in range. -/
theorem number_decimal {ds : List Char} (h : IsDecimal ds) (rest : List Char) :
    number (ds ++ '\n' :: rest)
      = (inRange (Text.numberValue 10 ds)).map fun v => (v, '\n' :: rest) := by
  have hspecial : special (ds ++ '\n' :: rest) = none := by
    obtain ⟨d, es, rfl⟩ := List.exists_cons_of_ne_nil h.ne_nil
    exact special_digit (h.digits d (List.mem_cons_self ..)) _
  rw [number, dateTime_line h.digits, finite_line h, hspecial, Option.none_or, Option.none_or,
    Option.none_or, integer_line h]

/-! ## Written numbers -/

theorem head?_toDigits {n : Nat} (h : 0 < n) : (Nat.toDigits 10 n).head? ≠ some '0' := by
  induction n using Nat.strongRecOn with
  | ind n ih =>
      by_cases hlt : n < 10
      · rw [Nat.toDigits_of_lt_base hlt]
        simpa using Nat.ne_of_gt h
      · have hlead := ih (n / 10) (Nat.div_lt_self h (by decide)) (by omega)
        rw [Nat.toDigits_of_base_le (by decide) (Nat.le_of_not_lt hlt)]
        obtain ⟨d, ds, hds⟩ := List.exists_cons_of_ne_nil
          (Nat.toDigits_ne_nil : Nat.toDigits 10 (n / 10) ≠ [])
        rw [hds] at hlead ⊢
        exact hlead

theorem isDecimal_toDigits (n : Nat) : IsDecimal (Nat.toDigits 10 n) where
  ne_nil := Nat.toDigits_ne_nil
  digits d hd := Nat.isDigit_of_mem_toDigits (by decide) (by decide) hd
  no_zero hzero := by
    rcases Nat.eq_zero_or_pos n with rfl | hpos
    · rfl
    · exact absurd hzero (head?_toDigits hpos)

end GoAssets.Toml
