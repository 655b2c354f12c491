import GoAssets.Proofs.Config.Load
import GoAssets.Proofs.Source
import GoAssets.Proofs.Text.Letter

/-!
# Which namespaces a configuration accepts

A namespace is the receiver of asset calls, so it should be an identifier of the language: a letter
or an underscore, with letters, underscores and decimal digits after it, that is no keyword
(`IsIdentifier`). Validation asks for less. It takes every alphabetic character for a letter and
every number for a digit, and it does not look at keywords. `isIdentifier_iff_validate` says that
these two checks are all that it leaves out: whatever it accepts and passes both is an identifier,
and every identifier is accepted.
-/

namespace GoAssets

open Text

/-! ## Identifiers -/

def IsIdentifierLetter (c : Char) : Prop := c = '_' ∨ isLetter c = true

def IsIdentifierChar (c : Char) : Prop := IsIdentifierLetter c ∨ isDecimalDigit c = true

structure IsIdentifier (name : String) : Prop where
  spelled : ∃ c cs, name.toList = c :: cs ∧ IsIdentifierLetter c ∧ ∀ d ∈ cs, IsIdentifierChar d
  not_keyword : name ∉ keywords

theorem IsIdentifierLetter.accepted {c : Char} (h : IsIdentifierLetter c) :
    c = '_' ∨ isAlphabetic c = true :=
  h.imp_right isAlphabetic_of_isLetter

theorem IsIdentifierChar.accepted {c : Char} (h : IsIdentifierChar c) :
    c = '_' ∨ isAlphanumeric c = true := by
  rcases h with hletter | hdigit
  · refine hletter.accepted.imp_right fun halpha => ?_
    simp [isAlphanumeric, halpha]
  · exact .inr (isAlphanumeric_of_isDecimalDigit hdigit)

/-- No decimal digit is accepted as the first character. -/
theorem IsIdentifierChar.isIdentifierLetter {c : Char} (h : IsIdentifierChar c)
    (hfirst : c = '_' ∨ isAlphabetic c = true) : IsIdentifierLetter c := by
  rcases h with hletter | hdigit
  · exact hletter
  · rcases hfirst with rfl | halpha
    · exact .inl rfl
    · rw [isAlphabetic_of_isDecimalDigit hdigit] at halpha
      cases halpha

/-! ## Validation -/

namespace Config

theorem validate_ns_iff (name : String) :
    ({ ns := some name } : Config).validate = .ok () ↔ isIdentifier name = true := by
  constructor
  · intro h
    by_contra hbad
    rw [validate_of_bad_ns rfl (Bool.not_eq_true _ |>.mp hbad)] at h
    cases h
  · intro h
    rw [validate_of_good_ns fun other hother => by rwa [← Option.some.inj hother]]
    rfl

theorem isIdentifier_eq_true_iff (name : String) :
    isIdentifier name = true ↔ ∃ c cs, name.toList = c :: cs ∧ (c = '_' ∨ isAlphabetic c = true)
      ∧ ∀ d ∈ cs, d = '_' ∨ isAlphanumeric d = true := by
  rw [isIdentifier]
  cases name.toList with
  | nil => simp
  | cons c cs => simp

theorem validate_of_mem_keywords {word : String} (h : word ∈ keywords) :
    ({ ns := some word } : Config).validate = .ok () := by
  have hspelled : ∀ word ∈ keywords, isIdentifier word = true := by decide
  exact (validate_ns_iff word).mpr (hspelled word h)

/-- The identifiers are the accepted namespaces that are no keywords and are spelled in letters,
underscores and decimal digits; the keywords are accepted too. -/
theorem isIdentifier_iff_validate (name : String) :
    (IsIdentifier name ↔
      ({ ns := some name } : Config).validate = .ok () ∧ name ∉ keywords
        ∧ ∀ c ∈ name.toList, IsIdentifierChar c)
    ∧ (name ∈ keywords → ({ ns := some name } : Config).validate = .ok ()) := by
  refine ⟨?_, validate_of_mem_keywords⟩
  rw [validate_ns_iff, isIdentifier_eq_true_iff]
  constructor
  · rintro ⟨⟨c, cs, htext, hc, hcs⟩, hkeyword⟩
    refine ⟨⟨c, cs, htext, hc.accepted, fun d hd => (hcs d hd).accepted⟩, hkeyword, ?_⟩
    rw [htext]
    exact List.forall_mem_cons.mpr ⟨.inl hc, hcs⟩
  · rintro ⟨⟨c, cs, htext, hc, -⟩, hkeyword, hchars⟩
    rw [htext] at hchars
    obtain ⟨hfirst, hrest⟩ := List.forall_mem_cons.mp hchars
    exact ⟨⟨c, cs, htext, hfirst.isIdentifierLetter hc, hrest⟩, hkeyword⟩

/-- A keyword is accepted, and so is a letter with a raised digit, which is a number but no decimal
digit. Neither is an identifier. -/
theorem validate_accepts_nonidentifiers :
    (({ ns := some "func" } : Config).validate = .ok () ∧ ¬ IsIdentifier "func")
    ∧ (({ ns := some "x²" } : Config).validate = .ok () ∧ ¬ IsIdentifier "x²") := by
  refine ⟨⟨by decide, fun h => h.not_keyword (by decide)⟩, ?_, ?_⟩
  · exact (validate_ns_iff "x²").mpr (by decide +kernel)
  · rintro ⟨⟨c, cs, htext, -, hcs⟩, -⟩
    obtain ⟨rfl, rfl⟩ := List.cons.inj htext
    have hletter : isLetter '²' = false := by decide +kernel
    have hdigit : isDecimalDigit '²' = false := by decide +kernel
    have hraised := hcs '²' (List.mem_singleton.mpr rfl)
    simp [IsIdentifierChar, IsIdentifierLetter, hletter, hdigit] at hraised

end Config

end GoAssets
