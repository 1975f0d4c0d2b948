import Mathlib.Data.List.Induction

/-! # The first fault

Lines are read one after the other, and whether something is wrong with a line can depend
on the lines before it. Reading stops at the first line at which something is wrong, so
what is told about some lines is fixed by that line, by what is wrong with it and by how
many lines there are before it.
-/

namespace Foragers

variable {α ε : Type} {wrong : List α → α → ε → Prop}

/-- Nothing is wrong with any line, given those before it. -/
def Faultless (wrong : List α → α → ε → Prop) (lines : List α) : Prop :=
  ∀ before line after, lines = before ++ line :: after → ∀ fault, ¬wrong before line fault

/-- The line with some number, counted from one, is the first at which something is wrong. -/
inductive FirstFault (wrong : List α → α → ε → Prop) : List α → Nat → ε → Prop
  | intro {before : List α} {line : α} {fault : ε} (faultless : Faultless wrong before)
      (here : wrong before line fault) (after : List α) :
      FirstFault wrong (before ++ line :: after) (before.length + 1) fault

theorem Faultless.nil : Faultless wrong [] := by
  intro before line after split
  simp at split

theorem faultless_concat_iff {before : List α} {line : α} :
    Faultless wrong (before ++ [line]) ↔
      Faultless wrong before ∧ ∀ fault, ¬wrong before line fault := by
  constructor
  · intro faultless
    refine ⟨?_, faultless before line [] rfl⟩
    rintro earlier other after rfl
    exact faultless earlier other (after ++ [line]) (by simp)
  · rintro ⟨faultless, right⟩ earlier other after split
    -- The line in question is the last one, or it stands among those before it.
    rcases List.eq_nil_or_concat after with rfl | ⟨rest, last, rfl⟩
    · rcases List.append_inj' split rfl with ⟨rfl, same⟩
      cases same
      exact right
    · rw [List.concat_eq_append, ← List.cons_append, ← List.append_assoc] at split
      exact faultless earlier other rest (List.append_inj' split rfl).1

/-- What holds of no lines, and is kept by another line with nothing wrong, holds of all
lines with nothing wrong. -/
@[elab_as_elim]
theorem Faultless.induction {motive : (lines : List α) → Faultless wrong lines → Prop}
    (nil : motive [] .nil)
    (concat : ∀ before line (faultless : Faultless wrong before)
      (right : ∀ fault, ¬wrong before line fault), motive before faultless →
        motive (before ++ [line]) (faultless_concat_iff.mpr ⟨faultless, right⟩))
    {lines : List α} (faultless : Faultless wrong lines) : motive lines faultless := by
  induction lines using List.reverseRecOn with
  | nil => exact nil
  | append_singleton before line induction =>
      rcases faultless_concat_iff.mp faultless with ⟨earlier, right⟩
      exact concat before line earlier right (induction earlier)

theorem FirstFault.append {lines : List α} {number : Nat} {fault : ε}
    (first : FirstFault wrong lines number fault) (more : List α) :
    FirstFault wrong (lines ++ more) number fault := by
  cases first with
  | intro faultless here after =>
      rw [List.append_assoc, List.cons_append]
      exact .intro faultless here _

theorem faultless_or_firstFault (wrong : List α → α → ε → Prop) (lines : List α) :
    Faultless wrong lines ∨ ∃ number fault, FirstFault wrong lines number fault := by
  induction lines using List.reverseRecOn with
  | nil => exact .inl .nil
  | append_singleton before line induction =>
      rcases induction with faultless | ⟨number, fault, first⟩
      · by_cases here : ∃ fault, wrong before line fault
        · rcases here with ⟨fault, here⟩
          exact .inr ⟨_, fault, .intro faultless here []⟩
        · exact .inl (faultless_concat_iff.mpr ⟨faultless, not_exists.mp here⟩)
      · exact .inr ⟨number, fault, first.append [line]⟩

end Foragers
