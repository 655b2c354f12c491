import GoAssets.Proofs.Path.Canonical

/-!
# Cleaning a text character by character

`Path.clean` works on components. `Path.cleanText` is the rule of Go's `filepath.Clean`, which knows
no components: it reads a text once and keeps a buffer of characters, and for a `..` it goes back in
the buffer to the last slash. `clean_eq_cleanText` says that the two agree on every text.

The proof follows the reader. `Spells` ties a buffer to a stack of cleaned components, one rule for
each way in which a buffer comes about. A `..` keeps the tie (`Spells.goUp`), so reading a text
keeps it (`spells_read`), and in the end the buffer holds the plainest spelling of the components
(`Spells.toList_ofComponents`).
-/

namespace GoAssets.Path

/-! ## The rule -/

/-- The element that begins with a character, up to the next slash. -/
def elementAt (c : Char) (cs : List Char) : List Char := c :: cs.takeWhile (· != '/')

/-- What follows the element of which a character was read. -/
def afterElement (cs : List Char) : List Char := cs.dropWhile (· != '/')

/-- What a rooted and what a relative text begins with. -/
def leadText (rooted : Bool) : List Char := if rooted then ['/'] else []

/-- A cleaned text in the making: the characters written so far, last one first, and how many of the
first ones no `..` takes back. -/
structure CleanBuffer where
  out : List Char
  kept : Nat

namespace CleanBuffer

def start (rooted : Bool) : CleanBuffer := ⟨leadText rooted, (leadText rooted).length⟩

/-- A slash after what was written, unless there is nothing to separate from. -/
def separate (rooted : Bool) (out : List Char) : List Char :=
  if out.length = (leadText rooted).length then out else '/' :: out

def write (w : CleanBuffer) (rooted : Bool) (element : List Char) : CleanBuffer :=
  { w with out := element.reverse ++ separate rooted w.out }

/-- Take back the last character, and those before it up to and including a slash, but none of the
first `kept` ones. -/
def takeBack (kept : Nat) : List Char → List Char
  | [] => []
  | c :: out => if kept < out.length ∧ c ≠ '/' then takeBack kept out else out

def writeUp (w : CleanBuffer) : CleanBuffer :=
  let out := '.' :: '.' :: (if w.out = [] then [] else '/' :: w.out)
  { out, kept := out.length }

/-- Act on a `..`: it takes back an element, disappears at the root, and is written otherwise. -/
def goUp (w : CleanBuffer) (rooted : Bool) : CleanBuffer :=
  if w.kept < w.out.length then { w with out := takeBack w.kept w.out }
  else if rooted then w
  else w.writeUp

def read (rooted : Bool) (w : CleanBuffer) : List Char → CleanBuffer
  | [] => w
  | c :: cs =>
    -- An empty element; the slash of the root is read here once more.
    if c = '/' then read rooted w cs
    else if elementAt c cs = ['.'] then read rooted w (afterElement cs)
    else if elementAt c cs = ['.', '.'] then read rooted (w.goUp rooted) (afterElement cs)
    else read rooted (w.write rooted (elementAt c cs)) (afterElement cs)
termination_by cs => cs.length
decreasing_by
  · exact Nat.lt_succ_self _
  all_goals exact Nat.lt_succ_of_le (List.dropWhile_suffix _).length_le

end CleanBuffer

/-- A text without empty elements, `.` and inner `..`; where nothing is left it is the directory
itself. -/
def cleanText (text : String) : String :=
  let rooted := text.toList.head? == some '/'
  let out := (CleanBuffer.read rooted (.start rooted) text.toList).out
  if out = [] then "." else String.ofList out.reverse

/-! ## Steps of a text -/

/-- The steps that a text stands for where it follows a slash. -/
def stepsOf (cs : List Char) : List Component := (splitSlash cs).filterMap innerComponent?

theorem stepsOf_nil : stepsOf [] = [] := rfl

theorem stepsOf_append_slash (xs ys : List Char) :
    stepsOf (xs ++ '/' :: ys) = stepsOf xs ++ stepsOf ys := by
  rw [stepsOf, splitSlash_append_slash, List.filterMap_append, stepsOf, stepsOf]

theorem stepsOf_slash (cs : List Char) : stepsOf ('/' :: cs) = stepsOf cs :=
  stepsOf_append_slash [] cs

theorem stepsOf_element {element : List Char} (h : '/' ∉ element) :
    stepsOf element = (innerComponent? element).toList := by
  rw [stepsOf, splitSlash_eq_singleton h]
  cases hc : innerComponent? element <;> simp [hc]

theorem slash_not_mem_elementAt {c : Char} (hc : c ≠ '/') (cs : List Char) :
    '/' ∉ elementAt c cs := by
  intro hmem
  rcases List.mem_cons.mp hmem with rfl | hmem
  · exact hc rfl
  · simpa using List.all_eq_true.mp List.all_takeWhile _ hmem

theorem stepsOf_cons {c : Char} (hc : c ≠ '/') (cs : List Char) :
    stepsOf (c :: cs) = (innerComponent? (elementAt c cs)).toList ++ stepsOf (afterElement cs) := by
  have hsplit : c :: cs = elementAt c cs ++ afterElement cs := by
    rw [elementAt, afterElement, List.cons_append, List.takeWhile_append_dropWhile]
  rw [← stepsOf_element (slash_not_mem_elementAt hc cs)]
  cases hrest : afterElement cs with
  | nil => rw [hsplit, hrest, stepsOf_nil, List.append_nil, List.append_nil]
  | cons d rest =>
      obtain rfl : d = '/' := by
        have := List.head?_dropWhile_not (· != '/') cs
        rw [← afterElement, hrest] at this
        simpa using this
      rw [hsplit, hrest, stepsOf_append_slash, stepsOf_slash]

/-- What the first segment of a text adds to the steps: the root or a leading `.`. -/
def leadOf (cs : List Char) : List Component :=
  if cs.head? = some '/' then [.root]
  else if (splitSlash cs).head? = some ['.'] then [.here]
  else []

theorem splitSlash_cons_head {c : Char} (hc : c ≠ '/') (cs : List Char) :
    ∃ segment segments, splitSlash (c :: cs) = (c :: segment) :: segments := by
  obtain ⟨s, ss, hs⟩ := List.exists_cons_of_ne_nil (splitSlash_ne_nil cs)
  exact ⟨s, ss, by simp [splitSlash, hc, hs]⟩

theorem componentsOf_eq (cs : List Char) : componentsOf cs = leadOf cs ++ stepsOf cs := by
  rw [leadOf]
  cases cs with
  | nil => rfl
  | cons c cs =>
      by_cases hc : c = '/'
      · subst hc
        rw [List.head?_cons, if_pos rfl, stepsOf_slash]
        simp [componentsOf, splitSlash, splitSlash_ne_nil, stepsOf]
      · obtain ⟨segment, segments, hsplit⟩ := splitSlash_cons_head hc cs
        rw [if_neg (by simpa using hc), componentsOf, stepsOf, hsplit]
        by_cases hhere : c :: segment = ['.']
        · simp [hhere, innerComponent?]
        · cases hstep : innerComponent? (c :: segment) <;> simp [hhere, hstep]

theorem ne_special_of_isStep {name : String} (h : (Component.name name).IsStep) :
    name.toList ≠ [] ∧ name.toList ≠ ['.'] ∧ name.toList ≠ ['.', '.'] := by
  have hinner : innerComponent? name.toList = some (.name name) := h.1
  refine ⟨?_, ?_, ?_⟩ <;> intro heq <;> simp [heq, innerComponent?] at hinner

/-! ## Buffers and components -/

namespace CleanBuffer

/-- The components that a rooted and that a relative text begins with. -/
def leadStack (rooted : Bool) : List Component := if rooted then [.root] else []

/-- A buffer that spells a stack of cleaned components, last one first. A `..` stays only below all
names, where nothing can be taken back. -/
inductive Spells (rooted : Bool) : List Component → CleanBuffer → Prop where
  | start : Spells rooted (leadStack rooted) (start rooted)
  | up {stack : List Component} {w : CleanBuffer} (hrel : rooted = false)
      (hkept : w.kept = w.out.length) (below : Spells rooted stack w) :
      Spells rooted (.up :: stack) w.writeUp
  | name {stack : List Component} {w : CleanBuffer} {text : String}
      (htext : (Component.name text).IsStep) (below : Spells rooted stack w) :
      Spells rooted (.name text :: stack) (w.write rooted text.toList)

variable {rooted : Bool} {stack : List Component} {w : CleanBuffer}

theorem length_lt_out_writeUp (w : CleanBuffer) : w.out.length < w.writeUp.out.length := by
  rw [writeUp]
  split
  · rename_i hnil
    simp [hnil]
  · simp only [List.length_cons]
    omega

theorem length_lt_out_write (w : CleanBuffer) (rooted : Bool) {text : String}
    (h : (Component.name text).IsStep) :
    w.out.length < (w.write rooted text.toList).out.length := by
  have hpos := List.length_pos_iff.mpr (ne_special_of_isStep h).1
  rw [write, separate]
  split <;> simp only [List.length_append, List.length_reverse, List.length_cons] <;> omega

/-- What is kept is part of what was written, and the lead is always kept. -/
theorem Spells.kept_le (h : Spells rooted stack w) :
    (leadText rooted).length ≤ w.kept ∧ w.kept ≤ w.out.length := by
  induction h with
  | start => exact ⟨Nat.le_refl _, Nat.le_refl _⟩
  | @up stack w _ hkept _ ih =>
      have hlt := w.length_lt_out_writeUp
      have heq : w.writeUp.kept = w.writeUp.out.length := rfl
      omega
  | @name stack w text htext _ ih =>
      have hlt := w.length_lt_out_write rooted htext
      have heq : (w.write rooted text.toList).kept = w.kept := rfl
      omega

/-! ### Going up -/

theorem takeBack_slash {kept : Nat} {element out : List Char} (h : '/' ∉ element)
    (hkept : kept ≤ out.length) : takeBack kept (element ++ '/' :: out) = out := by
  induction element with
  | nil => simp [takeBack]
  | cons c element ih =>
      obtain ⟨hc, helement⟩ := not_or.mp (mt List.mem_cons.mpr h)
      have hlt : kept < (element ++ '/' :: out).length := by
        simp only [List.length_append, List.length_cons]
        omega
      rw [List.cons_append, takeBack, if_pos ⟨hlt, Ne.symm hc⟩, ih helement]

theorem takeBack_all {element out : List Char} (h : '/' ∉ element) (hne : element ≠ []) :
    takeBack out.length (element ++ out) = out := by
  induction element with
  | nil => exact absurd rfl hne
  | cons c element ih =>
      obtain ⟨hc, helement⟩ := not_or.mp (mt List.mem_cons.mpr h)
      cases element with
      | nil => simp [takeBack]
      | cons d element =>
          have hlt : out.length < (d :: element ++ out).length := by
            simp only [List.length_append, List.length_cons]
            omega
          rw [List.cons_append, takeBack, if_pos ⟨hlt, Ne.symm hc⟩,
            ih helement (List.cons_ne_nil _ _)]

/-- Taking back the last name leaves the buffer as it was before the name. -/
theorem Spells.takeBack_write (h : Spells rooted stack w) {text : String}
    (htext : (Component.name text).IsStep) :
    takeBack w.kept (w.write rooted text.toList).out = w.out := by
  have hslash : '/' ∉ text.toList.reverse := fun hmem => htext.2 (List.mem_reverse.mp hmem)
  have hle := h.kept_le
  rw [write, separate]
  split
  · -- No slash was written, so all that was there is kept.
    have hkept : w.kept = w.out.length := by omega
    rw [hkept]
    exact takeBack_all hslash (mt List.reverse_eq_nil_iff.mp (ne_special_of_isStep htext).1)
  · exact takeBack_slash hslash hle.2

theorem Spells.goUp (h : Spells rooted stack w) :
    Spells rooted (cleanStep stack .up) (w.goUp rooted) := by
  cases h with
  | start =>
      cases rooted with
      | true => exact .start
      | false => exact .up rfl rfl .start
  | @up stack w hrel hkept below =>
      subst hrel
      have hkept' : w.writeUp.kept = w.writeUp.out.length := rfl
      rw [CleanBuffer.goUp, if_neg (by omega), if_neg (by decide)]
      exact .up rfl hkept' (.up rfl hkept below)
  | @name stack w text htext below =>
      have hlt : (w.write rooted text.toList).kept < (w.write rooted text.toList).out.length :=
        Nat.lt_of_le_of_lt below.kept_le.2 (w.length_lt_out_write rooted htext)
      rw [CleanBuffer.goUp, if_pos hlt]
      have hback : takeBack (w.write rooted text.toList).kept (w.write rooted text.toList).out
          = w.out := below.takeBack_write htext
      rw [hback]
      exact below

/-! ### Reading -/

/-- Reading a text does to the buffer what its steps do to the components. -/
theorem spells_read (rooted : Bool) (w : CleanBuffer) (cs : List Char) :
    ∀ {stack}, Spells rooted stack w →
      Spells rooted ((stepsOf cs).foldl cleanStep stack) (read rooted w cs) := by
  fun_induction read rooted w cs with
  | case1 w => exact fun h => h
  | case2 w cs ih =>
      intro stack h
      rw [stepsOf_slash]
      exact ih h
  | case3 w c cs hc hdot ih =>
      intro stack h
      rw [stepsOf_cons hc, hdot]
      exact ih h
  | case4 w c cs hc hdot hup ih =>
      intro stack h
      rw [stepsOf_cons hc, hup]
      exact ih h.goUp
  | case5 w c cs hc hdot hup ih =>
      intro stack h
      have hne : elementAt c cs ≠ [] := List.cons_ne_nil _ _
      have hname : innerComponent? (elementAt c cs)
          = some (.name (String.ofList (elementAt c cs))) := by
        rw [innerComponent?, if_neg (not_or.mpr ⟨hne, hdot⟩), if_neg hup]
      have hwrite := Spells.name
        (isStep_of_innerComponent? (slash_not_mem_elementAt hc cs) hname) h
      rw [String.toList_ofList] at hwrite
      rw [stepsOf_cons hc, hname]
      exact ih hwrite

/-! ### The end -/

/-- A buffer holds its lead alone, or it ends in a character of an element. -/
theorem Spells.out_eq (h : Spells rooted stack w) :
    w.out = leadText rooted
    ∨ ∃ c out, w.out = c :: out ∧ c ≠ '/' ∧ w.out.length ≠ (leadText rooted).length := by
  cases h with
  | start => exact .inl rfl
  | @up stack w _ _ below =>
      have hle := below.kept_le
      have hlt := w.length_lt_out_writeUp
      exact .inr ⟨'.', _, rfl, by decide, by omega⟩
  | @name stack w text htext below =>
      have hle := below.kept_le
      have hlt := w.length_lt_out_write rooted htext
      obtain ⟨c, cs, hcs⟩ := List.exists_cons_of_ne_nil
        (mt List.reverse_eq_nil_iff.mp (ne_special_of_isStep htext).1)
      have hout : (w.write rooted text.toList).out = c :: (cs ++ separate rooted w.out) := by
        rw [write, hcs, List.cons_append]
      refine .inr ⟨c, _, hout, ?_, by omega⟩
      rintro rfl
      exact htext.2 (List.mem_reverse.mp (hcs ▸ List.mem_cons_self ..))

theorem Spells.toList_push (h : Spells rooted stack w) {p : Path}
    (hp : p.text.toList = w.out.reverse) (segment : String) :
    (p.push segment).text.toList = (segment.toList.reverse ++ separate rooted w.out).reverse := by
  -- `push` looks at the last character, `separate` at the length: both ask if only a lead is there.
  rw [push, hp, List.getLast?_reverse, separate]
  rcases h.out_eq with hout | ⟨c, out, hout, hc, hlen⟩
  · cases rooted with
    | true => simp [hout, leadText, hp]
    | false => simp [hout, leadText]
  · rw [hout] at hlen
    rw [hout, List.head?_cons, if_neg hlen]
    split
    · rename_i hnone
      cases hnone
    · rename_i hslash
      exact absurd (Option.some.inj hslash) hc
    · simp [hp, hout]

/-- A buffer holds the plainest spelling of its components. -/
theorem Spells.toList_ofComponents (h : Spells rooted stack w) :
    (ofComponents stack.reverse).text.toList = w.out.reverse := by
  induction h with
  | start => cases rooted <;> rfl
  | @up stack w hrel _ below ih =>
      subst hrel
      have hpush := below.toList_push ih Component.up.text
      rw [List.reverse_cons, ofComponents, List.foldl_append]
      refine hpush.trans (congrArg List.reverse ?_)
      cases hout : w.out <;> simp [writeUp, separate, leadText, Component.text, hout]
  | @name stack w text _ below ih =>
      have hpush := below.toList_push ih text
      rw [List.reverse_cons, ofComponents, List.foldl_append]
      exact hpush

theorem Spells.out_eq_nil_iff (h : Spells rooted stack w) : w.out = [] ↔ stack = [] := by
  cases h with
  | start => cases rooted <;> simp [CleanBuffer.start, leadText, leadStack]
  | @up stack w _ _ _ => simp [writeUp]
  | @name stack w text htext _ => simp [write, (ne_special_of_isStep htext).1]

/-! ### Rooted buffers -/

theorem Spells.leadText_suffix (h : Spells rooted stack w) : leadText rooted <:+ w.out := by
  induction h with
  | start => exact List.suffix_refl _
  | up hrel _ _ _ =>
      subst hrel
      exact List.nil_suffix
  | @name stack w text _ _ ih =>
      refine ih.trans ?_
      rw [write, separate]
      split
      · exact List.suffix_append _ _
      · exact (List.suffix_cons _ _).trans (List.suffix_append _ _)

/-- A text that is a sequence of names, each after one slash. -/
def IsNames (cs : List Char) : Prop :=
  ∃ names : List String, (∀ name ∈ names, (Component.name name).IsStep) ∧
    splitSlash cs = [] :: names.map String.toList

/-- Below the root a buffer holds names only. -/
theorem Spells.isNames {stack : List Component} {w : CleanBuffer} (h : Spells true stack w) :
    w.out = ['/'] ∨ IsNames w.out.reverse := by
  induction h with
  | start => exact .inl rfl
  | up hrel _ _ _ => cases hrel
  | @name stack w text htext below ih =>
      have hone : splitSlash text.toList = [text.toList] := splitSlash_eq_singleton htext.2
      -- The first name follows the root directly, every other one a slash of its own.
      obtain hout | ⟨hlen, names, hnames, hsplit⟩ :
          w.out = ['/'] ∨ w.out.length ≠ 1 ∧ IsNames w.out.reverse := by
        rcases below.out_eq with hout | ⟨_, _, _, _, hlen⟩
        · exact .inl hout
        · exact ih.imp_right fun hnames => ⟨hlen, hnames⟩
      · refine .inr ⟨[text], by simpa using htext, ?_⟩
        simp [write, separate, leadText, hout, splitSlash, hone]
      · refine .inr ⟨names ++ [text], ?_, ?_⟩
        · intro name hname
          rcases List.mem_append.mp hname with hname | hname
          · exact hnames name hname
          · exact List.mem_singleton.mp hname ▸ htext
        · have hwrite : (w.write true text.toList).out.reverse
              = w.out.reverse ++ '/' :: text.toList := by
            simp [write, separate, leadText, hlen]
          rw [hwrite, splitSlash_append_slash, hsplit, hone, List.map_append, List.cons_append,
            List.map_singleton]

end CleanBuffer

/-! ## The rule and the components -/

/-- Cleaning a text starts below its root, if it has one, and a leading `.` counts for nothing. -/
theorem foldl_cleanStep_componentsOf (cs : List Char) :
    (componentsOf cs).foldl cleanStep []
      = (stepsOf cs).foldl cleanStep (CleanBuffer.leadStack (cs.head? == some '/')) := by
  rw [componentsOf_eq, List.foldl_append, leadOf]
  by_cases hroot : cs.head? = some '/'
  · simp [hroot, CleanBuffer.leadStack, cleanStep]
  · by_cases hhere : (splitSlash cs).head? = some ['.'] <;>
      simp [hroot, hhere, CleanBuffer.leadStack, cleanStep]

/-- Cleaning the components of a path spells what the rule makes of its text. -/
theorem clean_eq_cleanText (p : Path) : p.clean = ⟨cleanText p.text⟩ := by
  have hspells := CleanBuffer.spells_read (p.text.toList.head? == some '/') (.start _)
    p.text.toList .start
  rw [← foldl_cleanStep_componentsOf] at hspells
  rw [clean, ofCleaned, cleanComponents, components, cleanText, ← hspells.toList_ofComponents,
    String.ofList_toList]
  simp only [List.reverse_eq_nil_iff, hspells.out_eq_nil_iff]
  split <;> rfl

/-! ## Rooted texts -/

/-- An absolute path with nothing left to clean. -/
structure IsCleanAbsolute (p : Path) : Prop where
  absolute : p.isAbsolute = true
  segments : p.text = "/" ∨ ∀ segment ∈ (splitSlash p.text.toList).tail,
    segment ≠ [] ∧ segment ≠ ['.'] ∧ segment ≠ ['.', '.']
  last : p.text = "/" ∨ p.text.toList.getLast? ≠ some '/'

theorem nil_mem_tail_splitSlash {cs : List Char} (h : cs.getLast? = some '/') :
    [] ∈ (splitSlash cs).tail := by
  obtain ⟨xs, rfl⟩ := List.getLast?_eq_some_iff.mp h
  rw [splitSlash_append_slash, List.tail_append_of_ne_nil (splitSlash_ne_nil xs)]
  exact List.mem_append_right _ (List.mem_singleton.mpr rfl)

/-- Cleaning a rooted text leaves nothing to clean. -/
theorem isCleanAbsolute_cleanText {text : String} (h : text.toList.head? = some '/') :
    IsCleanAbsolute ⟨cleanText text⟩ := by
  have hspells := CleanBuffer.spells_read true (.start true) text.toList .start
  obtain ⟨ys, hout⟩ := hspells.leadText_suffix
  have htext : cleanText text
      = String.ofList (CleanBuffer.read true (.start true) text.toList).out.reverse := by
    simp [cleanText, h, ← hout, leadText]
  have habs : isAbsolute ⟨cleanText text⟩ = true := by
    simp [isAbsolute, htext, ← hout, leadText]
  rcases hspells.isNames with hroot | ⟨names, hnames, hsplit⟩
  · have : cleanText text = "/" := by
      rw [htext, hroot]
      rfl
    exact ⟨habs, .inl this, .inl this⟩
  · have hsegments : ∀ segment ∈ (splitSlash (cleanText text).toList).tail,
        segment ≠ [] ∧ segment ≠ ['.'] ∧ segment ≠ ['.', '.'] := by
      rw [htext, String.toList_ofList, hsplit, List.tail_cons]
      intro segment hmem
      obtain ⟨name, hname, rfl⟩ := List.mem_map.mp hmem
      exact ne_special_of_isStep (hnames name hname)
    refine ⟨habs, .inr hsegments, .inr fun hlast => ?_⟩
    exact (hsegments [] (nil_mem_tail_splitSlash hlast)).1 rfl

end GoAssets.Path
