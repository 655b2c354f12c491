import GoAssets.Json.Read
import GoAssets.Json.Write

/-!
# Written JSON reads back

`parse_render`: a value without numbers, written over several lines and read again, is the same
value. A number is kept as it is spelled, so its spelling would have to be one; every other value
is written in a way that can be read.

The reader takes fuel for depth and for the number of items. Each level and each item takes at
least one character, so the length of the text is always enough; this is the bound that the
induction carries.
-/

namespace GoAssets.Json

/-! ## Strings -/

theorem numberValue_hexDigits : ∀ n < 32,
    ['0', '0', hexDigit (n / 16), hexDigit (n % 16)].all Text.isHexDigit = true
      ∧ Text.numberValue 16 ['0', '0', hexDigit (n / 16), hexDigit (n % 16)] = n := by
  decide

theorem units_quote (rest : List Char) : units ('"' :: rest) = some ([], rest) := by
  rw [units.eq_def]
  rfl

theorem units_cons {c : Char} (rest : List Char) (hquote : c ≠ '"') (hslash : c ≠ '\\')
    (hlow : ¬ c.toNat < 32) :
    units (c :: rest) = (units rest).map fun (us, rest) => (c.toNat :: us, rest) := by
  rw [units.eq_def]
  simp only [if_neg hquote, if_neg hslash, if_neg hlow]

/-- A character as it stands in a string is read as its number, whichever way it is written. -/
theorem units_escapeChar (c : Char) (rest : List Char) :
    units (escapeChar c ++ rest) = (units rest).map fun (us, rest) => (c.toNat :: us, rest) := by
  unfold escapeChar
  split
  · subst c; simp [units, escapeLetter?]
  split
  · subst c; simp [units, escapeLetter?]
  split
  · subst c; simp [units, escapeLetter?]
  split
  · subst c; simp [units, escapeLetter?]
  split
  · subst c; simp [units, escapeLetter?]
  split
  · subst c; simp [units, escapeLetter?]
  split
  · subst c; simp [units, escapeLetter?]
  split
  · rename_i hlow
    obtain ⟨hdigits, hvalue⟩ := numberValue_hexDigits c.toNat hlow
    simp only [List.cons_append, List.nil_append]
    rw [units]
    simp [hdigits, hvalue]
  · rename_i hquote hslash _ _ _ _ _ hlow
    exact units_cons rest hquote hslash hlow

theorem units_flatMap_escapeChar (cs rest : List Char) :
    units (cs.flatMap escapeChar ++ '"' :: rest) = some (cs.map Char.toNat, rest) := by
  induction cs with
  | nil => exact units_quote rest
  | cons c cs ih =>
      rw [List.flatMap_cons, List.append_assoc, units_escapeChar, ih]
      rfl

theorem not_surrogate (c : Char) : isLeading c.toNat = false ∧ isTrailing c.toNat = false := by
  have hvalid := c.valid
  simp only [UInt32.isValidChar, Nat.isValidChar] at hvalid
  simp only [isLeading, isTrailing, Bool.and_eq_false_iff, decide_eq_false_iff_not]
  change c.val.toNat < _ ∨ _ at hvalid
  simp only [Char.toNat]
  omega

theorem pairUnits_map_toNat (cs : List Char) : pairUnits (cs.map Char.toNat) = some cs := by
  induction cs with
  | nil => rfl
  | cons c cs ih =>
      obtain ⟨hlead, htrail⟩ := not_surrogate c
      cases cs with
      | nil => simp [pairUnits, hlead, htrail]
      | cons d ds =>
          rw [List.map_cons, List.map_cons, pairUnits, hlead, htrail, ← List.map_cons, ih]
          simp

theorem writeString_some (s : String) :
    writeString (some s) = '"' :: (s.toList.flatMap escapeChar ++ ['"']) := rfl

theorem writeString_none : writeString none = ['"', '\\', 'u', 'd', '8', '0', '0', '"'] := by
  decide

/-- A string is read back, also one that stands for no text. -/
theorem stringBody_writeString (text : Quoted) (rest : List Char) :
    ∃ body, writeString text ++ rest = '"' :: body ∧ stringBody body = some (text, rest) := by
  cases text with
  | none =>
      refine ⟨'\\' :: 'u' :: 'd' :: '8' :: '0' :: '0' :: '"' :: rest, ?_, ?_⟩
      · rw [writeString_none]
        rfl
      · have hunits : units ('\\' :: 'u' :: 'd' :: '8' :: '0' :: '0' :: '"' :: rest)
            = some ([0xD800], rest) := by
          rw [units.eq_def]
          simp only [units_quote]
          rfl
        rw [stringBody, hunits]
        rfl
  | some s =>
      refine ⟨s.toList.flatMap escapeChar ++ '"' :: rest, by simp [writeString_some], ?_⟩
      rw [stringBody, units_flatMap_escapeChar]
      simp [pairUnits_map_toNat]

/-! ## Blanks -/

theorem skipBlank_newLine (depth : Nat) (cs : List Char) :
    skipBlank (newLine depth ++ cs) = skipBlank cs := by
  have hblanks : ∀ n, (List.replicate n ' ' ++ cs).dropWhile isBlank = cs.dropWhile isBlank := by
    intro n
    induction n with
    | zero => rfl
    | succ n ih => exact ih
  exact hblanks (2 * depth)

theorem skipBlank_cons {c : Char} (cs : List Char) (h : isBlank c = false) :
    skipBlank (c :: cs) = c :: cs := by
  rw [skipBlank, List.dropWhile_cons_of_neg (by simp [h])]

/-! ## Values -/

/-- A value in which no number stands. -/
inductive NumberFree : Value → Prop where
  | null : NumberFree .null
  | bool (b : Bool) : NumberFree (.bool b)
  | string (text : Quoted) : NumberFree (.string text)
  | array {vs : List Value} (h : ∀ v ∈ vs, NumberFree v) : NumberFree (.array vs)
  | object {ms : List (Quoted × Value)} (h : ∀ m ∈ ms, NumberFree m.2) : NumberFree (.object ms)

/-- What is written of a value is read as the value, whatever follows, with as much fuel as there
are characters. -/
def ReadsBack (v : Value) : Prop :=
  ∀ depth fuel rest, (v.write depth).length ≤ fuel →
    value fuel (v.write depth ++ rest) = some (v, rest)

/-- What is written of a value starts with a character that is neither a blank nor the end of an
array. -/
theorem write_head {v : Value} (h : NumberFree v) (depth : Nat) :
    ∃ c cs, v.write depth = c :: cs ∧ isBlank c = false ∧ c ≠ ']' := by
  cases h with
  | null => exact ⟨'n', _, rfl, by decide, by decide⟩
  | bool b => cases b <;> exact ⟨_, _, rfl, by decide, by decide⟩
  | string text =>
      obtain ⟨body, hbody, -⟩ := stringBody_writeString text []
      rw [List.append_nil] at hbody
      exact ⟨'"', body, hbody, by decide, by decide⟩
  | @array vs _ => cases vs <;> exact ⟨'[', _, rfl, by decide, by decide⟩
  | @object ms _ => cases ms <;> exact ⟨'\x7b', _, rfl, by decide, by decide⟩

/-- The blanks of a new line are skipped up to a text that does not start with a blank. -/
theorem skipBlank_newLine_append {text : List Char} (h : ∃ c cs, text = c :: cs ∧ isBlank c = false)
    (depth : Nat) (rest : List Char) :
    skipBlank (newLine depth ++ (text ++ rest)) = text ++ rest := by
  obtain ⟨c, cs, rfl, hblank⟩ := h
  rw [skipBlank_newLine, List.cons_append, skipBlank_cons _ hblank]

theorem write_solid {v : Value} (h : NumberFree v) (depth : Nat) :
    ∃ c cs, v.write depth = c :: cs ∧ isBlank c = false := by
  obtain ⟨c, cs, hhead, hblank, -⟩ := write_head h depth
  exact ⟨c, cs, hhead, hblank⟩

/-- The items after the first one are read up to the closing bracket. -/
theorem moreItems_writeItems {vs : List Value} (h : ∀ v ∈ vs, NumberFree v)
    (hreads : ∀ v ∈ vs, ReadsBack v) (depth outer fuel : Nat) (rest : List Char)
    (hfuel : (writeItems depth vs).length < fuel) :
    moreItems fuel (skipBlank (writeItems depth vs ++ newLine outer ++ ']' :: rest))
      = some (vs, rest) := by
  induction vs generalizing fuel with
  | nil =>
      obtain ⟨fuel, rfl⟩ := Nat.exists_eq_succ_of_ne_zero (Nat.ne_of_gt hfuel)
      rw [writeItems, List.nil_append, skipBlank_newLine, skipBlank_cons _ (by decide)]
      rfl
  | cons v vs ih =>
      obtain ⟨fuel, rfl⟩ := Nat.exists_eq_succ_of_ne_zero (Nat.ne_of_gt (Nat.zero_lt_of_lt hfuel))
      simp only [writeItems, List.length_cons, List.length_append] at hfuel
      have hv := h v (List.mem_cons_self ..)
      have hitem := hreads v (List.mem_cons_self ..) depth fuel
        (writeItems depth vs ++ newLine outer ++ ']' :: rest) (by omega)
      have hmore := ih (fun w hw => h w (List.mem_cons_of_mem _ hw))
        (fun w hw => hreads w (List.mem_cons_of_mem _ hw)) fuel (by omega)
      have htext : writeItems depth (v :: vs) ++ newLine outer ++ ']' :: rest
          = ',' :: (newLine depth ++ (v.write depth
              ++ (writeItems depth vs ++ newLine outer ++ ']' :: rest))) := by
        simp [writeItems]
      rw [htext, skipBlank_cons _ (by decide), moreItems]
      simp only [skipBlank_newLine_append (write_solid hv depth), hitem, hmore, Option.map_some]

def writeMember (depth : Nat) (m : Quoted × Value) : List Char :=
  writeString m.1 ++ ": ".toList ++ m.2.write depth

theorem writeMember_head (depth : Nat) (m : Quoted × Value) :
    ∃ cs, writeMember depth m = '"' :: cs := by
  obtain ⟨body, hbody, -⟩ := stringBody_writeString m.1 (": ".toList ++ m.2.write depth)
  exact ⟨body, by rw [writeMember, List.append_assoc, hbody]⟩

theorem writeMember_solid (depth : Nat) (m : Quoted × Value) :
    ∃ c cs, writeMember depth m = c :: cs ∧ isBlank c = false := by
  obtain ⟨cs, hcs⟩ := writeMember_head depth m
  exact ⟨'"', cs, hcs, by decide⟩

theorem member_writeMember {m : Quoted × Value} (h : NumberFree m.2) (hreads : ReadsBack m.2)
    (depth fuel : Nat) (rest : List Char) (hfuel : (writeMember depth m).length ≤ fuel) :
    member fuel (writeMember depth m ++ rest) = some (m, rest) := by
  obtain ⟨key, v⟩ := m
  obtain ⟨body, hkey, hbody⟩ :=
    stringBody_writeString key (':' :: ' ' :: (v.write depth ++ rest))
  have hcolon : ": ".toList = [':', ' '] := by decide
  have htext : writeMember depth (key, v) ++ rest = '"' :: body := by
    rw [← hkey, writeMember, hcolon]
    simp
  simp only [writeMember, hcolon, List.length_append, List.length_cons, List.length_nil] at hfuel
  obtain ⟨fuel, rfl⟩ := Nat.exists_eq_succ_of_ne_zero (n := fuel) (by omega)
  have hvalue : value fuel (v.write depth ++ rest) = some (v, rest) :=
    hreads depth fuel rest (by show (v.write depth).length ≤ fuel; omega)
  have hafter : skipBlank (':' :: ' ' :: (v.write depth ++ rest))
      = ':' :: ' ' :: (v.write depth ++ rest) := skipBlank_cons _ (by decide)
  have hskip : skipBlank (' ' :: (v.write depth ++ rest)) = v.write depth ++ rest := by
    obtain ⟨c, cs, hhead, hblank⟩ := write_solid h depth
    rw [skipBlank, List.dropWhile_cons_of_pos (by decide), hhead, List.cons_append]
    exact skipBlank_cons _ hblank
  rw [htext, member]
  simp only [hbody, hafter, hskip, hvalue, Option.map_some]

/-- The members after the first one are read up to the closing brace. -/
theorem moreMembers_writeMembers {ms : List (Quoted × Value)} (h : ∀ m ∈ ms, NumberFree m.2)
    (hreads : ∀ m ∈ ms, ReadsBack m.2) (depth outer fuel : Nat) (rest : List Char)
    (hfuel : (writeMembers depth ms).length < fuel) :
    moreMembers fuel (skipBlank (writeMembers depth ms ++ newLine outer ++ '\x7d' :: rest))
      = some (ms, rest) := by
  induction ms generalizing fuel with
  | nil =>
      obtain ⟨fuel, rfl⟩ := Nat.exists_eq_succ_of_ne_zero (Nat.ne_of_gt hfuel)
      rw [writeMembers, List.nil_append, skipBlank_newLine, skipBlank_cons _ (by decide)]
      rfl
  | cons m ms ih =>
      obtain ⟨fuel, rfl⟩ := Nat.exists_eq_succ_of_ne_zero (Nat.ne_of_gt (Nat.zero_lt_of_lt hfuel))
      have htext : ∀ rest, writeMembers depth (m :: ms) ++ rest
          = ',' :: (newLine depth ++ (writeMember depth m ++ (writeMembers depth ms ++ rest))) := by
        intro rest
        simp [writeMembers, writeMember]
      have hlen := congrArg List.length (htext [])
      simp only [List.append_nil, List.length_cons, List.length_append] at hlen
      have hmember := member_writeMember (h m (List.mem_cons_self ..))
        (hreads m (List.mem_cons_self ..)) depth fuel
        (writeMembers depth ms ++ newLine outer ++ '\x7d' :: rest) (by omega)
      have hmore := ih (fun n hn => h n (List.mem_cons_of_mem _ hn))
        (fun n hn => hreads n (List.mem_cons_of_mem _ hn)) fuel (by omega)
      rw [List.append_assoc, htext, ← List.append_assoc (writeMembers depth ms),
        skipBlank_cons _ (by decide), moreMembers]
      simp only [skipBlank_newLine_append (writeMember_solid depth m), hmember, hmore,
        Option.map_some]

theorem write_null (depth : Nat) : Value.null.write depth = ['n', 'u', 'l', 'l'] := by
  show "null".toList = _
  decide

theorem write_true (depth : Nat) : (Value.bool true).write depth = ['t', 'r', 'u', 'e'] := by
  show "true".toList = _
  decide

theorem write_false (depth : Nat) :
    (Value.bool false).write depth = ['f', 'a', 'l', 's', 'e'] := by
  show "false".toList = _
  decide

theorem write_array (depth : Nat) (v : Value) (vs : List Value) (rest : List Char) :
    (Value.array (v :: vs)).write depth ++ rest
      = '[' :: (newLine (depth + 1) ++ (v.write (depth + 1)
          ++ (writeItems (depth + 1) vs ++ newLine depth ++ ']' :: rest))) := by
  show '[' :: (newLine (depth + 1) ++ v.write (depth + 1) ++ writeItems (depth + 1) vs
    ++ newLine depth ++ [']']) ++ rest = _
  simp only [List.cons_append, List.append_assoc, List.nil_append]

theorem write_object (depth : Nat) (m : Quoted × Value) (ms : List (Quoted × Value))
    (rest : List Char) :
    (Value.object (m :: ms)).write depth ++ rest
      = '\x7b' :: (newLine (depth + 1) ++ (writeMember (depth + 1) m
          ++ (writeMembers (depth + 1) ms ++ newLine depth ++ '\x7d' :: rest))) := by
  show '\x7b' :: (newLine (depth + 1) ++ writeString m.1 ++ ": ".toList ++ m.2.write (depth + 1)
    ++ writeMembers (depth + 1) ms ++ newLine depth ++ ['\x7d']) ++ rest = _
  simp only [writeMember, List.cons_append, List.append_assoc, List.nil_append]

/-- An array is read if its first item and the rest of it are. -/
theorem value_array {fuel : Nat} {cs rest rest' : List Char} {v : Value} {vs : List Value}
    (hhead : ∃ d ds, skipBlank cs = d :: ds ∧ d ≠ ']')
    (hv : value fuel (skipBlank cs) = some (v, rest))
    (hvs : moreItems fuel (skipBlank rest) = some (vs, rest')) :
    value (fuel + 1) ('[' :: cs) = some (.array (v :: vs), rest') := by
  obtain ⟨d, ds, hcs, hd⟩ := hhead
  rw [hcs] at hv
  simp only [value, hcs]
  split
  · rename_i heq
    exact absurd (List.cons.inj heq).1 hd
  · simp only [hv, hvs, Option.map_some]

/-- An object is read if its first member and the rest of it are. -/
theorem value_object {fuel : Nat} {cs rest rest' : List Char} {m : Quoted × Value}
    {ms : List (Quoted × Value)} (hhead : ∃ ds, skipBlank cs = '"' :: ds)
    (hm : member fuel (skipBlank cs) = some (m, rest))
    (hms : moreMembers fuel (skipBlank rest) = some (ms, rest')) :
    value (fuel + 1) ('\x7b' :: cs) = some (.object (m :: ms), rest') := by
  obtain ⟨ds, hcs⟩ := hhead
  rw [hcs] at hm
  simp only [value, hcs]
  split
  · rename_i heq
    exact absurd (List.cons.inj heq).1 (by decide)
  · simp only [hm, hms, Option.map_some]

/-- Every value without numbers is read back. The induction is on the value: its items and members
are read back, and so are the lists around them, up to their closing mark. -/
theorem readsBack {v : Value} (h : NumberFree v) : ReadsBack v := by
  induction h with
  | null =>
      intro depth fuel rest hfuel
      rw [write_null] at hfuel ⊢
      obtain ⟨fuel, rfl⟩ := Nat.exists_eq_succ_of_ne_zero (Nat.ne_of_gt (Nat.zero_lt_of_lt hfuel))
      rfl
  | bool b =>
      intro depth fuel rest hfuel
      cases b
      · rw [write_false] at hfuel ⊢
        obtain ⟨fuel, rfl⟩ := Nat.exists_eq_succ_of_ne_zero (Nat.ne_of_gt (Nat.zero_lt_of_lt hfuel))
        rfl
      · rw [write_true] at hfuel ⊢
        obtain ⟨fuel, rfl⟩ := Nat.exists_eq_succ_of_ne_zero (Nat.ne_of_gt (Nat.zero_lt_of_lt hfuel))
        rfl
  | string text =>
      intro depth fuel rest hfuel
      obtain ⟨c, cs, hhead, -⟩ := write_solid (.string text) depth
      rw [hhead] at hfuel
      obtain ⟨fuel, rfl⟩ := Nat.exists_eq_succ_of_ne_zero (Nat.ne_of_gt (Nat.zero_lt_of_lt hfuel))
      obtain ⟨body, htext, hbody⟩ := stringBody_writeString text rest
      show value (fuel + 1) (writeString text ++ rest) = _
      rw [htext]
      show (stringBody body).map _ = _
      rw [hbody]
      rfl
  | @array vs h ih =>
      intro depth fuel rest hfuel
      cases vs with
      | nil =>
          obtain ⟨fuel, rfl⟩ :=
            Nat.exists_eq_succ_of_ne_zero (Nat.ne_of_gt (Nat.zero_lt_of_lt hfuel))
          rfl
      | cons v vs =>
          have hlen := congrArg List.length (write_array depth v vs [])
          simp only [List.append_nil, List.length_cons, List.length_append] at hlen
          obtain ⟨fuel, rfl⟩ := Nat.exists_eq_succ_of_ne_zero (n := fuel) (by omega)
          have hv := h v (List.mem_cons_self ..)
          have hskip := skipBlank_newLine_append (write_solid hv (depth + 1)) (depth + 1)
            (writeItems (depth + 1) vs ++ newLine depth ++ ']' :: rest)
          rw [write_array]
          refine value_array ?_ (hskip ▸ ih v (List.mem_cons_self ..) _ _ _ (by omega))
            (moreItems_writeItems (fun w hw => h w (List.mem_cons_of_mem _ hw))
              (fun w hw => ih w (List.mem_cons_of_mem _ hw)) _ _ _ _ (by omega))
          obtain ⟨c, cs, hhead, -, hc⟩ := write_head hv (depth + 1)
          exact ⟨c, _, by rw [hskip, hhead, List.cons_append], hc⟩
  | @object ms h ih =>
      intro depth fuel rest hfuel
      cases ms with
      | nil =>
          obtain ⟨fuel, rfl⟩ :=
            Nat.exists_eq_succ_of_ne_zero (Nat.ne_of_gt (Nat.zero_lt_of_lt hfuel))
          rfl
      | cons m ms =>
          have hlen := congrArg List.length (write_object depth m ms [])
          simp only [List.append_nil, List.length_cons, List.length_append] at hlen
          obtain ⟨fuel, rfl⟩ := Nat.exists_eq_succ_of_ne_zero (n := fuel) (by omega)
          have hskip := skipBlank_newLine_append (writeMember_solid (depth + 1) m) (depth + 1)
            (writeMembers (depth + 1) ms ++ newLine depth ++ '\x7d' :: rest)
          rw [write_object]
          refine value_object ?_
            (hskip ▸ member_writeMember (h m (List.mem_cons_self ..))
              (ih m (List.mem_cons_self ..)) _ _ _ (by omega))
            (moreMembers_writeMembers (fun n hn => h n (List.mem_cons_of_mem _ hn))
              (fun n hn => ih n (List.mem_cons_of_mem _ hn)) _ _ _ _ (by omega))
          obtain ⟨cs, hcs⟩ := writeMember_head (depth + 1) m
          exact ⟨_, by rw [hskip, hcs, List.cons_append]⟩

theorem parse_render {v : Value} (h : NumberFree v) : parse v.render = some v := by
  obtain ⟨c, cs, hhead, hblank⟩ := write_solid h 0
  have hskip : skipBlank (v.write 0) = v.write 0 := by
    rw [hhead, skipBlank_cons _ hblank]
  have hvalue := readsBack h 0 ((v.write 0).length + 1) [] (Nat.le_succ _)
  rw [List.append_nil] at hvalue
  rw [parse, Value.render, String.toList_ofList, hskip, hvalue]
  rfl

end GoAssets.Json
