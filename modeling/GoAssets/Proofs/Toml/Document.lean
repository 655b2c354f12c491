import GoAssets.Proofs.Toml.Number
import GoAssets.Toml.Read

/-!
# A table of plain lines reads back

The simplest documents have one header and lines of the form `key = value` below it, where no key
needs quotes. `parse_table` says that such a document is read as the table of its lines.

A line adds its entry at the end of the table (`line_field`), and a run of lines adds theirs in
order (`lines_fields`). The reader takes fuel for the number of lines; a line takes at least one
character, so the length of the document is enough.
-/

namespace GoAssets.Toml

/-! ## Keys -/

/-- A key that needs no quotes. -/
structure IsBare (name : String) : Prop where
  ne_nil : name.toList ≠ []
  bare : ∀ c ∈ name.toList, isBareChar c = true

theorem isBare_of_all {name : String} (hne : name.toList ≠ [])
    (h : name.toList.all isBareChar = true) : IsBare name :=
  ⟨hne, List.all_eq_true.mp h⟩

theorem skipBlank_cons {c : Char} (hspace : c ≠ ' ') (htab : c ≠ '\t') (rest : List Char) :
    skipBlank (c :: rest) = c :: rest := by
  rw [skipBlank, List.dropWhile_cons_of_neg]
  simp [isBlank, hspace, htab]

namespace IsBare

variable {name : String} (h : IsBare name)

include h

theorem exists_cons : ∃ c cs, name.toList = c :: cs ∧ isBareChar c = true := by
  obtain ⟨c, cs, hname⟩ := List.exists_cons_of_ne_nil h.ne_nil
  exact ⟨c, cs, hname, h.bare c (hname ▸ List.mem_cons_self ..)⟩

theorem append_ne {mark : Char} (hmark : isBareChar mark = false) (rest more : List Char) :
    name.toList ++ rest ≠ mark :: more := by
  obtain ⟨c, cs, hname, hc⟩ := h.exists_cons
  rw [hname]
  exact fun heq => ne_of_class hc hmark (List.cons.inj heq).1

theorem skipBlank_append (rest : List Char) :
    skipBlank (name.toList ++ rest) = name.toList ++ rest := by
  obtain ⟨c, cs, hname, hc⟩ := h.exists_cons
  rw [hname]
  exact skipBlank_cons (ne_of_class hc (by decide)) (ne_of_class hc (by decide)) _

theorem keyPart_append {stop : Char} (hstop : isBareChar stop = false) (rest : List Char) :
    keyPart (name.toList ++ stop :: rest) = some (name, stop :: rest) := by
  have htake : (name.toList ++ stop :: rest).takeWhile isBareChar = name.toList := by
    rw [List.takeWhile_append_of_pos h.bare, List.takeWhile_cons_of_neg (by simp [hstop]),
      List.append_nil]
  have hdrop : (name.toList ++ stop :: rest).dropWhile isBareChar = stop :: rest := by
    rw [List.dropWhile_append_of_pos h.bare, List.dropWhile_cons_of_neg (by simp [hstop])]
  rw [keyPart]
  · simp only [htake, hdrop, if_neg h.ne_nil, String.ofList_toList]
  · exact h.append_ne (by decide) _
  · exact h.append_ne (by decide) _

theorem key_append {stop : Char} (hstop : isBareChar stop = false) (rest : List Char)
    (hdot : ∀ more, skipBlank (stop :: rest) ≠ '.' :: more) :
    key (name.toList ++ stop :: rest) = some (([], name), skipBlank (stop :: rest)) := by
  have hparts : keyParts depthLimit (name.toList ++ stop :: rest)
      = some ([name], skipBlank (stop :: rest)) := by
    rw [depthLimit, keyParts, h.skipBlank_append, h.keyPart_append hstop]
    simp only [Option.bind_eq_bind, Option.bind_some]
    rfl
  rw [key, hparts]
  rfl

end IsBare

/-! ## Lines -/

/-- A key with a value, and a spelling of the value. -/
structure Field where
  key : String
  spelling : List Char
  value : Value

namespace Field

def line (f : Field) : List Char := f.key.toList ++ ' ' :: '=' :: ' ' :: (f.spelling ++ ['\n'])

def entry (f : Field) : String × Node := (f.key, .value f.value)

/-- The key needs no quotes, and the spelling is read as the value up to the end of the line. -/
structure IsReadable (f : Field) : Prop where
  key_bare : IsBare f.key
  head_plain : ∃ c cs, f.spelling = c :: cs ∧ c ∉ [' ', '\t', '[', '\x7b']
  reads : ∀ rest, scalar (f.spelling ++ '\n' :: rest) = some (f.value, '\n' :: rest)

end Field

theorem value_of_scalar {c : Char} (hsquare : c ≠ '[') (hbrace : c ≠ '\x7b') (limit : Nat)
    (rest : List Char) : value limit depthLimit (c :: rest) = scalar (c :: rest) := by
  rw [depthLimit, value]
  dsimp only
  split
  · rename_i heq
    exact absurd (List.cons.inj heq).1 hsquare
  · rename_i heq
    exact absurd (List.cons.inj heq).1 hbrace
  · rfl

theorem keyValue_field {f : Field} (h : f.IsReadable) (limit : Nat) (rest : List Char) :
    keyValue (value limit depthLimit) (f.line ++ rest)
      = some ((([], f.key), f.value), '\n' :: rest) := by
  obtain ⟨c, cs, hspelling, hc⟩ := h.head_plain
  simp only [List.mem_cons, List.not_mem_nil, or_false, not_or] at hc
  obtain ⟨hspace, htab, hsquare, hbrace⟩ := hc
  have hline : f.line ++ rest
      = f.key.toList ++ ' ' :: '=' :: ' ' :: (f.spelling ++ '\n' :: rest) := by
    simp [Field.line]
  have hkey : key (f.line ++ rest)
      = some (([], f.key), '=' :: ' ' :: (f.spelling ++ '\n' :: rest)) := by
    rw [hline]
    exact h.key_bare.key_append (by decide) _ fun more heq =>
      absurd (List.cons.inj heq).1 (by decide)
  have hblank : skipBlank (' ' :: (f.spelling ++ '\n' :: rest)) = f.spelling ++ '\n' :: rest := by
    rw [hspelling]
    exact skipBlank_cons hspace htab _
  have hvalue : value limit depthLimit (f.spelling ++ '\n' :: rest)
      = some (f.value, '\n' :: rest) := by
    rw [← h.reads rest, hspelling]
    exact value_of_scalar hsquare hbrace limit _
  rw [keyValue, hkey]
  simp only [Option.bind_eq_bind, Option.bind_some, hblank, hvalue]
  rfl

theorem skipLines_bare {c : Char} (hc : isBareChar c = true) (rest : List Char) :
    skipLines false (c :: rest) = c :: rest := by
  have hne : c ∉ ['\r', '\n', '#', ' ', '\t'] := not_mem_of_class hc (by decide)
  simp only [List.mem_cons, List.not_mem_nil, or_false, not_or] at hne
  obtain ⟨hreturn, hfeed, hcomment, hspace, htab⟩ := hne
  rw [skipLines]
  · simp [hfeed, hcomment, isBlank, hspace, htab]
  · simp [hreturn]

/-! ## Tables -/

theorem set_of_lookup {key : String} {entries : Entries} (h : entries.lookup key = none)
    (node : Node) : entries.set key node = entries ++ [(key, node)] := by
  induction entries with
  | nil => rfl
  | cons e entries ih =>
      obtain ⟨k, n⟩ := e
      rw [List.lookup_cons] at h
      split at h
      · cases h
      · rename_i hk
        have hne : k ≠ key := fun heq => by simp [heq] at hk
        rw [Entries.set, if_neg hne, ih h]
        rfl

theorem entryValues_map (fs : List Field) :
    entryValues (fs.map Field.entry) = fs.map fun f => (f.key, f.value) := by
  induction fs with
  | nil => rfl
  | cons f fs ih =>
      rw [List.map_cons, Field.entry, entryValues, ih]
      rfl

namespace Document

/-- A document that has one table, to which the next lines belong. -/
def single (name : String) (entries : Entries) : Document :=
  ⟨[(name, .table .defined entries)], [name]⟩

theorem descend_single (name : String) {entries : Entries} {key : String}
    (hnew : entries.lookup key = none) (v : Value) :
    Entries.descend false (fun origin es => es.addDotted [] key v origin) [name] .defined
        (single name entries).root
      = some (single name (entries ++ [(key, .value v)])).root := by
  have hadd : Entries.addDotted [] key v .defined entries
      = some (entries ++ [(key, .value v)]) := by
    rw [Entries.addDotted, Entries.descend, Entries.addValue, hnew, ← set_of_lookup hnew]
    rfl
  simp [Entries.descend, single, hadd, Entries.set]

theorem line_field (name : String) {entries : Entries} {f : Field} (h : f.IsReadable)
    (hnew : entries.lookup f.key = none) (limit : Nat) (rest : List Char) :
    (single name entries).line limit (f.line ++ rest)
      = some (single name (entries ++ [f.entry]), rest) := by
  rw [line, keyValue_field h]
  change (Entries.descend false _ [name] .defined (single name entries).root).bind _ = _
  rw [descend_single name hnew]
  rfl

theorem header_bare {name : String} (h : IsBare name) (rest : List Char) :
    header {} (name.toList ++ ']' :: '\n' :: rest) = some (single name [], rest) := by
  have hkey : key (name.toList ++ ']' :: '\n' :: rest)
      = some (([], name), ']' :: '\n' :: rest) :=
    h.key_append (by decide) _ fun more heq => absurd (List.cons.inj heq).1 (by decide)
  rw [header]
  · rw [hkey]
    rfl
  · exact h.append_ne (by decide) _

/-- A line that begins with a key is no header. -/
theorem lines_field {f : Field} (h : f.IsReadable) (limit n : Nat) (d : Document)
    (rest : List Char) :
    lines limit (n + 1) d (f.line ++ rest)
      = (d.line limit (f.line ++ rest)).bind fun (d, cs) => lines limit n d cs := by
  obtain ⟨c, cs, hkey, hc⟩ := h.key_bare.exists_cons
  obtain ⟨text, htext⟩ : ∃ text, f.line ++ rest = c :: text := by simp [Field.line, hkey]
  rw [htext, lines, skipLines_bare hc]
  split
  · rename_i heq
    cases heq
  · rename_i heq
    exact absurd (List.cons.inj heq).1 (ne_of_class hc (by decide))
  · rfl

/-- One line after another adds its entry. -/
theorem lines_fields (name : String) (limit : Nat) {fs : List Field} {entries : Entries} {n : Nat}
    (h : ∀ f ∈ fs, f.IsReadable) (hnew : (entries.map Prod.fst ++ fs.map Field.key).Nodup)
    (hn : fs.length < n) :
    lines limit n (single name entries) (fs.flatMap Field.line)
      = some (single name (entries ++ fs.map Field.entry)) := by
  induction fs generalizing entries n with
  | nil =>
      obtain ⟨n, rfl⟩ := Nat.exists_eq_add_one_of_ne_zero (Nat.ne_of_gt hn)
      rw [List.flatMap_nil, List.map_nil, List.append_nil]
      rfl
  | cons f fs ih =>
      obtain ⟨n, rfl⟩ := Nat.exists_eq_add_one_of_ne_zero (Nat.ne_of_gt (Nat.zero_lt_of_lt hn))
      obtain ⟨hf, hfs⟩ := List.forall_mem_cons.mp h
      have hlookup : entries.lookup f.key = none := by
        refine List.lookup_eq_none_iff.mpr fun e he => bne_iff_ne.mpr ?_
        exact ((List.nodup_append.mp hnew).2.2 e.1 (List.mem_map_of_mem he) f.key
          (List.mem_cons_self ..)).symm
      have hnew' : ((entries ++ [f.entry]).map Prod.fst ++ fs.map Field.key).Nodup := by
        simpa [Field.entry] using hnew
      rw [List.flatMap_cons, lines_field hf, line_field name hf hlookup, Option.bind_some]
      simp only [ih hfs hnew' (Nat.lt_of_succ_lt_succ hn), List.append_assoc, List.map_cons,
        List.singleton_append]

end Document

theorem length_le_flatMap_line (fs : List Field) : fs.length ≤ (fs.flatMap Field.line).length := by
  induction fs with
  | nil => exact Nat.le_refl _
  | cons f fs ih =>
      rw [List.flatMap_cons, List.length_append, List.length_cons]
      have : f.line.length = f.key.toList.length + (f.spelling.length + 4) := by simp [Field.line]
      omega

/-- A header and lines below it are read as one table. -/
theorem parse_table {s name : String} {fs : List Field} (hname : IsBare name)
    (hfs : ∀ f ∈ fs, f.IsReadable) (hkeys : (fs.map Field.key).Nodup)
    (hs : s.toList = '[' :: (name.toList ++ ']' :: '\n' :: fs.flatMap Field.line)) :
    parse s = some [(name, .table (fs.map fun f => (f.key, f.value)))] := by
  generalize htext : name.toList ++ ']' :: '\n' :: fs.flatMap Field.line = text at hs
  have hread : ∀ limit n, fs.length < n → Document.lines limit (n + 1) {} ('[' :: text)
      = some (Document.single name (fs.map Field.entry)) := by
    intro limit n hn
    have hskip : skipLines false ('[' :: text) = '[' :: text := rfl
    rw [Document.lines, hskip]
    simp only [← htext, Document.header_bare hname, Option.bind_eq_bind, Option.bind_some]
    exact Document.lines_fields name limit hfs hkeys hn
  have hlength : fs.length < ('[' :: text).length := by
    have := length_le_flatMap_line fs
    simp only [← htext, List.length_cons, List.length_append]
    omega
  rw [parse, hs]
  -- The document does not begin with a byte order mark.
  change Option.map _ (Document.lines _ (('[' :: text).length + 1) {} ('[' :: text)) = _
  rw [hread _ _ hlength, Option.map_some, Document.single, entryValues, Node.toValue,
    entryValues_map]
  rfl

end GoAssets.Toml
