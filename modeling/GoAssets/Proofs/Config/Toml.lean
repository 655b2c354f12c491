import GoAssets.Config.Toml
import GoAssets.Proofs.Config.Load
import GoAssets.Proofs.Toml.Document
import GoAssets.Proofs.Toml.Number
import GoAssets.Proofs.Toml.Quoted

/-!
# A written configuration reads back

A configuration is written as one table, with a line for each setting that is present. The format
knows signed integers of 64 bits only, so a size limit of `2 ^ 63` or more cannot be written;
every other configuration can, and reading the text gives it back (`decode?_document`). What was
valid before is valid after, so that `ofToml` accepts it (`ofToml_toToml`).
-/

namespace GoAssets.Config

open Toml (Field Value)

/-! ## The lines of a configuration -/

def nsField (ns : String) : Field := ⟨"namespace", (Toml.writeString ns).toList, .string ns⟩

def sizeField (size : UInt64) : Field :=
  ⟨"max_file_size", Nat.toDigits 10 size.toNat, .integer size.toNat⟩

/-- A line for each setting that is present. -/
def fields (c : Config) : List Field :=
  (c.ns.map nsField).toList ++ (c.maxFileSize.map sizeField).toList

/-- The size limit is an integer of the format. -/
def Fits (c : Config) : Prop := ∀ size ∈ c.maxFileSize, size.toNat ≤ Nat.pow 2 63 - 1

theorem scalar_writeString (s : String) (rest : List Char) :
    Toml.scalar ((Toml.writeString s).toList ++ '\n' :: rest)
      = some (.string s, '\n' :: rest) := by
  have hread : Toml.string ((Toml.writeString s).toList ++ '\n' :: rest)
      = some (s, '\n' :: rest) := Toml.string_writeString s (by simp) (by simp)
  obtain ⟨q, cs, htext, hq⟩ := Toml.exists_toList_writeString_eq_cons s
  rw [htext, List.cons_append] at hread ⊢
  rw [Toml.scalar, if_pos hq, hread]
  rfl

theorem scalar_digits {n : Nat} (h : n ≤ Nat.pow 2 63 - 1) (rest : List Char) :
    Toml.scalar (Nat.toDigits 10 n ++ '\n' :: rest) = some (.integer n, '\n' :: rest) := by
  have hdecimal := Toml.isDecimal_toDigits n
  have hvalue : Text.numberValue 10 (Nat.toDigits 10 n) = n := by
    rw [numberValue_eq_ofDigitChars hdecimal.digits, Nat.ofDigitChars_ten_toDigits]
  have hrange : Toml.inRange n = some (.integer n) := by
    have hmin : Toml.minInteger ≤ 0 := by decide
    refine if_pos ⟨?_, Int.ofNat_le.mpr h⟩
    omega
  have hnumber := Toml.number_decimal hdecimal rest
  rw [hvalue, hrange, Option.map_some] at hnumber
  obtain ⟨d, ds, hds⟩ := List.exists_cons_of_ne_nil hdecimal.ne_nil
  have hd : d.isDigit = true := hdecimal.digits d (hds ▸ List.mem_cons_self ..)
  have hne : d ∉ ['"', '\'', 't', 'f'] := Toml.not_mem_of_class hd rfl
  simp only [List.mem_cons, List.not_mem_nil, or_false, not_or] at hne
  obtain ⟨hdouble, hsingle, ht, hf⟩ := hne
  rw [hds, List.cons_append] at hnumber ⊢
  rw [Toml.scalar, if_neg (not_or.mpr ⟨hdouble, hsingle⟩)]
  split
  · rename_i heq
    exact absurd (List.cons.inj heq).1 ht
  · rename_i heq
    exact absurd (List.cons.inj heq).1 hf
  · exact hnumber

theorem isReadable_nsField (ns : String) : (nsField ns).IsReadable where
  key_bare := (Toml.isBare_of_all (by decide) (by decide) : Toml.IsBare "namespace")
  head_plain := by
    obtain ⟨q, cs, htext, hq⟩ := Toml.exists_toList_writeString_eq_cons ns
    refine ⟨q, cs, htext, ?_⟩
    rcases hq with rfl | rfl <;> decide
  reads := scalar_writeString ns

theorem isReadable_sizeField {size : UInt64} (h : size.toNat ≤ Nat.pow 2 63 - 1) :
    (sizeField size).IsReadable where
  key_bare := (Toml.isBare_of_all (by decide) (by decide) : Toml.IsBare "max_file_size")
  head_plain := by
    have hdecimal := Toml.isDecimal_toDigits size.toNat
    obtain ⟨d, ds, hds⟩ := List.exists_cons_of_ne_nil hdecimal.ne_nil
    have hd : d.isDigit = true := hdecimal.digits d (hds ▸ List.mem_cons_self ..)
    exact ⟨d, ds, hds, Toml.not_mem_of_class hd rfl⟩
  reads := scalar_digits h

theorem isReadable_of_mem_fields {c : Config} (h : c.Fits) {f : Field} (hf : f ∈ c.fields) :
    f.IsReadable := by
  rw [fields, List.mem_append, Option.mem_toList, Option.mem_toList, Option.map_eq_some_iff,
    Option.map_eq_some_iff] at hf
  rcases hf with ⟨ns, -, rfl⟩ | ⟨size, hsize, rfl⟩
  · exact isReadable_nsField ns
  · exact isReadable_sizeField (h size hsize)

theorem nodup_fields (c : Config) : (c.fields.map Field.key).Nodup := by
  cases hns : c.ns <;> cases hsize : c.maxFileSize <;>
    simp [fields, hns, hsize, nsField, sizeField]

/-! ## Writing and reading -/

def document (c : Config) : List Char :=
  '[' :: ("scan".toList ++ ']' :: '\n' :: c.fields.flatMap Field.line)

theorem toList_nsLine (ns : Option String) :
    ((ns.map fun ns => "namespace = " ++ Toml.writeString ns ++ "\n").getD "").toList
      = (ns.map nsField).toList.flatMap Field.line := by
  cases ns with
  | none => rfl
  | some ns => simp [Field.line, nsField]

variable {writeError : Config → String}

theorem toToml_of_fits {c : Config} (h : c.Fits) :
    c.toToml writeError = .ok (.ofList c.document) := by
  rw [toToml]
  cases hsize : c.maxFileSize with
  | none =>
      refine congrArg Except.ok (String.toList_inj.mp ?_)
      rw [String.toList_append, toList_nsLine]
      simp [document, fields, hsize]
  | some size =>
      have hle : ¬ Toml.maxInteger < size.toNat := Int.not_lt.mpr (Int.ofNat_le.mpr (h size hsize))
      simp only [if_neg hle]
      refine congrArg Except.ok (String.toList_inj.mp ?_)
      simp only [String.toList_append, toList_nsLine]
      simp [document, fields, hsize, sizeField, Field.line]

theorem toToml_of_not_fits {c : Config} (h : ¬ c.Fits) (text : String) :
    c.toToml writeError ≠ .ok text := by
  intro htext
  refine h fun size hsize => Nat.le_of_not_lt fun hlt => ?_
  rw [toToml, Option.mem_def.mp hsize] at htext
  have hlt : Toml.maxInteger < size.toNat := Int.ofNat_lt.mpr hlt
  simp [hlt] at htext

theorem lookup_fields (c : Config) :
    (c.fields.map fun f => (f.key, f.value)).lookup "namespace" = c.ns.map .string
    ∧ (c.fields.map fun f => (f.key, f.value)).lookup "max_file_size"
      = c.maxFileSize.map fun size => .integer size.toNat := by
  cases hns : c.ns <;> cases hsize : c.maxFileSize <;>
    simp [fields, hns, hsize, nsField, sizeField, List.lookup_cons]

theorem optional?_map {α : Type} (read : Value → Option α) (write : α → Value)
    (h : ∀ a, read (write a) = some a) (o : Option α) : optional? read (o.map write) = some o := by
  cases o with
  | none => rfl
  | some a => rw [Option.map_some, optional?, h, Option.map_some]

theorem decode?_document {c : Config} (h : c.Fits) : decode? (.ofList c.document) = some c := by
  have hscan : Toml.IsBare "scan" := Toml.isBare_of_all (by decide) (by decide)
  have hparse := Toml.parse_table (s := .ofList c.document) hscan
    (fun f hf => isReadable_of_mem_fields h hf) (nodup_fields c) String.toList_ofList
  have hns : optional? nsOf? (c.ns.map .string) = some c.ns :=
    optional?_map nsOf? .string (fun _ => rfl) c.ns
  have hsize : optional? sizeOf? (c.maxFileSize.map fun size => .integer size.toNat)
      = some c.maxFileSize :=
    optional?_map sizeOf? _ (fun size => by simp [sizeOf?]) c.maxFileSize
  rw [decode?, hparse]
  change ofFields? _ _ = some c
  rw [(lookup_fields c).1, (lookup_fields c).2, ofFields?, hns, hsize]
  rfl

/-- A valid configuration can be written exactly if its size limit is an integer of the format, and
what was written is read as the same configuration. -/
theorem ofToml_toToml (readError : String → String) (writeError : Config → String) {c : Config}
    (hvalid : c.validate = .ok ()) :
    ((∃ text, c.toToml writeError = .ok text)
      ↔ ∀ size ∈ c.maxFileSize, size.toNat ≤ Nat.pow 2 63 - 1)
    ∧ ∀ text, c.toToml writeError = .ok text → ofToml readError text = .ok c := by
  have hfits : ∀ text, c.toToml writeError = .ok text → c.Fits := fun text htext =>
    Classical.byContradiction fun h => toToml_of_not_fits h text htext
  refine ⟨⟨fun ⟨text, htext⟩ => hfits text htext, fun h => ⟨_, toToml_of_fits h⟩⟩, ?_⟩
  intro text htext
  have h := hfits text htext
  rw [toToml_of_fits h] at htext
  obtain rfl := Except.ok.inj htext
  rw [ofToml, decode, decode?_document h]
  change (c.validate >>= fun _ => Except.ok c) = _
  rw [hvalid]
  rfl

/-- The largest size that can be written, beside a namespace that is not in ASCII; the next size is
as valid but cannot be written. -/
theorem ofToml_toToml_largest :
    (validate { ns := some "größe_2", maxFileSize := some 9223372036854775807 } = .ok ()
      ∧ toToml (fun _ => "out-of-range value for u64 type")
          { ns := some "größe_2", maxFileSize := some 9223372036854775807 }
        = .ok "[scan]\nnamespace = \"größe_2\"\nmax_file_size = 9223372036854775807\n"
      ∧ ofToml (fun _ => "invalid")
          "[scan]\nnamespace = \"größe_2\"\nmax_file_size = 9223372036854775807\n"
        = .ok { ns := some "größe_2", maxFileSize := some 9223372036854775807 })
    ∧ validate { maxFileSize := some 9223372036854775808 } = .ok ()
    ∧ ¬ ∃ text, toToml (fun _ => "out-of-range value for u64 type")
        { maxFileSize := some 9223372036854775808 } = .ok text := by
  have hns : isIdentifier "größe_2" = true := by decide +kernel
  have hvalid : validate { ns := some "größe_2", maxFileSize := some 9223372036854775807 }
      = .ok () := by
    rw [validate_of_good_ns fun name hname => by rwa [← Option.some.inj hname]]
    rfl
  have htext : toToml (fun _ => "out-of-range value for u64 type")
        { ns := some "größe_2", maxFileSize := some 9223372036854775807 }
      = .ok "[scan]\nnamespace = \"größe_2\"\nmax_file_size = 9223372036854775807\n" := by
    rw [toToml_of_fits fun size hsize => by rw [← Option.some.inj hsize]; decide]
    exact congrArg Except.ok (by decide +kernel)
  refine ⟨⟨hvalid, htext, (ofToml_toToml _ _ hvalid).2 _ htext⟩, rfl, fun hwritten => ?_⟩
  exact absurd ((ofToml_toToml (fun _ => "invalid") _ rfl).1.mp hwritten _ rfl) (by decide)

end GoAssets.Config
