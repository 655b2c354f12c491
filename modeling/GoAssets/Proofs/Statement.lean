import GoAssets.Proofs.Text.Quoted
import GoAssets.Statement

/-!
# The text of a statement says which statement it is

A statement is shown as `target = receiver.method("path")`. The names of a statement come from a
source file, where they hold no blank, point or bracket, but the path can be any text. So the text
is cut at the first blank, then at the first point and at the first bracket, and what is left is a
quoted text, which can be read back (`Text.quote_append_inj`).
-/

namespace GoAssets

/-- A name without the marks at which the text of a statement is cut. -/
def IsUncut (name : String) : Prop := ∀ c ∈ name.toList, c ∉ [' ', '.', '(']

instance (name : String) : Decidable (IsUncut name) :=
  List.decidableBAll _ name.toList

/-- A text that holds no control character. -/
def IsVisible (text : String) : Prop := ∀ c ∈ text.toList, Text.isControl c = false

instance (text : String) : Decidable (IsVisible text) :=
  List.decidableBAll _ text.toList

namespace Statement

def names (s : Statement) : List String := [s.target, s.call.receiver, s.call.method]

theorem toList_text (s : Statement) :
    s.text.toList = s.target.toList ++ ' ' :: '=' :: ' ' :: (s.call.receiver.toList
      ++ '.' :: (s.call.method.toList ++ '(' :: ((Text.quote s.call.path).toList ++ [')']))) := by
  simp [text, MethodCall.text]

/-- Two texts that are cut at the same mark, which occurs in neither first part, have the same
parts. -/
theorem cut_inj {mark : Char} {xs us ys vs : List Char} (hx : mark ∉ xs) (hu : mark ∉ us)
    (h : xs ++ mark :: ys = us ++ mark :: vs) : xs = us ∧ ys = vs := by
  induction xs generalizing us with
  | nil =>
      cases us with
      | nil => exact ⟨rfl, by simpa using h⟩
      | cons u us =>
          obtain ⟨rfl, -⟩ := List.cons.inj h
          exact absurd (List.mem_cons_self ..) hu
  | cons x xs ih =>
      cases us with
      | nil =>
          obtain ⟨rfl, -⟩ := List.cons.inj h
          exact absurd (List.mem_cons_self ..) hx
      | cons u us =>
          obtain ⟨rfl, htail⟩ := List.cons.inj h
          obtain ⟨rfl, rfl⟩ := ih (fun hm => hx (List.mem_cons_of_mem _ hm))
            (fun hm => hu (List.mem_cons_of_mem _ hm)) htail
          exact ⟨rfl, rfl⟩

theorem not_mem_of_isUncut {name : String} (h : IsUncut name) {mark : Char}
    (hmark : mark ∈ [' ', '.', '(']) : mark ∉ name.toList :=
  fun hmem => h mark hmem hmark

theorem eq_of_text_eq {a b : Statement} (ha : ∀ name ∈ a.names, IsUncut name)
    (hb : ∀ name ∈ b.names, IsUncut name) (h : a.text = b.text) : a = b := by
  simp only [names, List.forall_mem_cons] at ha hb
  obtain ⟨haTarget, haReceiver, haMethod, -⟩ := ha
  obtain ⟨hbTarget, hbReceiver, hbMethod, -⟩ := hb
  have htext := congrArg String.toList h
  rw [toList_text, toList_text] at htext
  obtain ⟨htarget, hcall⟩ := cut_inj (not_mem_of_isUncut haTarget (by decide))
    (not_mem_of_isUncut hbTarget (by decide)) htext
  rw [List.cons_inj_right, List.cons_inj_right] at hcall
  obtain ⟨hreceiver, hrest⟩ := cut_inj (not_mem_of_isUncut haReceiver (by decide))
    (not_mem_of_isUncut hbReceiver (by decide)) hcall
  obtain ⟨hmethod, hquoted⟩ := cut_inj (not_mem_of_isUncut haMethod (by decide))
    (not_mem_of_isUncut hbMethod (by decide)) hrest
  obtain ⟨hpath, -⟩ := Text.quote_append_inj hquoted
  obtain ⟨target, receiver, method, path⟩ := a
  rw [String.toList_inj] at htarget hreceiver hmethod
  subst htarget hreceiver hmethod hpath
  rfl

theorem isVisible_text {s : Statement} (h : ∀ name ∈ s.names, IsVisible name) :
    IsVisible s.text := by
  simp only [names, List.forall_mem_cons] at h
  obtain ⟨htarget, hreceiver, hmethod, -⟩ := h
  intro c hc
  rw [toList_text] at hc
  simp only [List.mem_append, List.mem_cons, List.not_mem_nil, or_false] at hc
  rcases hc with hc | rfl | rfl | rfl | hc | rfl | hc | rfl | hc | rfl
  · exact htarget c hc
  · rfl
  · rfl
  · rfl
  · exact hreceiver c hc
  · rfl
  · exact hmethod c hc
  · rfl
  · exact Text.isControl_of_mem_quote hc
  · rfl

/-- Statements with the same text are the same statement, whatever their paths hold, and the text
shows no control character that is not in one of the names. -/
theorem text_unambiguous :
    (∀ a b : Statement, (∀ name ∈ a.names, IsUncut name) → (∀ name ∈ b.names, IsUncut name) →
      a.text = b.text → a = b)
    ∧ ∀ s : Statement, (∀ name ∈ s.names, IsVisible name) → IsVisible s.text :=
  ⟨fun _ _ => eq_of_text_eq, fun _ => isVisible_text⟩

/-- A path with a line feed, and one in which its escape is spelled out. -/
theorem text_unambiguous_escapes :
    let fed : Statement := ⟨"page", "mewn", "String", "a\n\x01\".txt"⟩
    let spelled : Statement := ⟨"page", "mewn", "String", "a\\n\\u\x7b1\x7d\".txt"⟩
    (∀ name ∈ fed.names, IsUncut name) ∧ (∀ name ∈ spelled.names, IsUncut name)
    ∧ (∀ name ∈ fed.names, IsVisible name) ∧ fed.text ≠ spelled.text ∧ IsVisible fed.text := by
  intro fed spelled
  have hfed : ∀ name ∈ fed.names, IsUncut name := by decide
  have hspelled : ∀ name ∈ spelled.names, IsUncut name := by decide
  have hvisible : ∀ name ∈ fed.names, IsVisible name := by decide
  refine ⟨hfed, hspelled, hvisible, ?_, text_unambiguous.2 fed hvisible⟩
  intro h
  exact absurd (text_unambiguous.1 fed spelled hfed hspelled h) (by decide)

end Statement

end GoAssets
