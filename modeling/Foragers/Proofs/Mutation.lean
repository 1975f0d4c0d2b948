import Foragers.Agent.Mutation

/-! # Mutation

A mutation adds or removes at most one instruction, and what it writes comes
from the pool. With a pool to choose from it never fails.
-/

namespace Foragers

variable {σ : Type}

namespace Draw

variable {α β : Type} {first : Draw σ α} {next : α → Draw σ β} {random later : σ}

theorem bind_eq_ok {result : β} (bound : (first >>= next) random = .ok result later) :
    ∃ value between, first random = .ok value between ∧
      next value between = .ok result later := by
  change EStateM.bind first next random = _ at bound
  unfold EStateM.bind at bound
  split at bound
  · rename_i value between drawn
    exact ⟨value, between, drawn, bound⟩
  · cases bound

theorem bind_eq_error {fault : Fault} (bound : (first >>= next) random = .error fault later) :
    first random = .error fault later ∨
      ∃ value between, first random = .ok value between ∧
        next value between = .error fault later := by
  change EStateM.bind first next random = _ at bound
  unfold EStateM.bind at bound
  split at bound
  · rename_i value between drawn
    exact .inr ⟨value, between, drawn, bound⟩
  · rename_i failed
    cases bound
    exact .inl failed

variable [RandomSource σ]

theorem chance_ne_error (probability : Binary64) (fault : Fault) :
    chance probability random ≠ .error fault later := nofun

theorem below_ne_error (bound : Nat) (fault : Fault) :
    below bound random ≠ .error fault later := nofun

theorem mem_of_oneOf {items : List α} {item : α}
    (drawn : oneOf items random = .ok item later) : item ∈ items := by
  cases items with
  | nil => cases drawn
  | cons first rest =>
      cases drawn
      exact List.get_mem _ _

theorem eq_nil_of_oneOf {items : List α} {fault : Fault}
    (failed : oneOf items random = .error fault later) : items = [] := by
  cases items with
  | nil => rfl
  | cons first rest => cases failed

end Draw

namespace Program

/-- How far a program can be from the one it was made of: everything new comes from
the pool, and the lengths differ by bounded numbers. -/
structure Edited (pool : Program) (fewer more : Nat) (program child : Program) : Prop where
  subset : child ⊆ program ++ pool
  length_le : child.length ≤ program.length + more
  le_length : program.length ≤ child.length + fewer

namespace Edited

variable {pool program between child : Program} {fewer more fewerLater moreLater : Nat}

theorem refl (pool program : Program) (fewer more : Nat) :
    Edited pool fewer more program program where
  subset := List.subset_append_left program pool
  length_le := Nat.le_add_right _ more
  le_length := Nat.le_add_right _ fewer

theorem trans (earlier : Edited pool fewer more program between)
    (later : Edited pool fewerLater moreLater between child) :
    Edited pool (fewer + fewerLater) (more + moreLater) program child where
  subset := by
    intro instruction member
    rcases List.mem_append.mp (later.subset member) with inherited | drawn
    · exact earlier.subset inherited
    · exact List.mem_append_right program drawn
  length_le := by
    have first := earlier.length_le
    have second := later.length_le
    omega
  le_length := by
    have first := earlier.le_length
    have second := later.le_length
    omega

theorem dropLast (pool program : Program) : Edited pool 1 0 program program.dropLast where
  subset := by
    intro instruction member
    exact List.mem_append_left pool (List.dropLast_subset program member)
  length_le := by simp
  le_length := by
    rw [List.length_dropLast]
    omega

theorem append {added : Instruction} (program : Program) (drawn : added ∈ pool) :
    Edited pool 0 1 program (program ++ [added]) where
  subset := by
    apply List.append_subset.mpr
    exact ⟨List.subset_append_left program pool, by simp [drawn]⟩
  length_le := by simp
  le_length := by simp

theorem set {replacement : Instruction} (program : Program) (index : Nat)
    (drawn : replacement ∈ pool) : Edited pool 0 0 program (program.set index replacement) where
  subset := by
    intro instruction member
    rcases List.mem_or_eq_of_mem_set member with kept | replaced
    · exact List.mem_append_left pool kept
    · rw [replaced]
      exact List.mem_append_right program drawn
  length_le := by simp
  le_length := by simp

end Edited

variable [RandomSource σ] {traits : Traits} {program child : Program} {random later : σ}

theorem trim_edited (trimmed : trim traits program random = .ok child later) :
    Edited traits.instructionPool 1 0 program child := by
  rcases Draw.bind_eq_ok trimmed with ⟨removes, between, _, returned⟩
  cases returned
  cases removes with
  | false => exact .refl _ program 1 0
  | true => exact .dropLast _ program

theorem extend_edited (extended : extend traits program random = .ok child later) :
    Edited traits.instructionPool 0 1 program child := by
  rcases Draw.bind_eq_ok extended with ⟨adds, between, _, continued⟩
  cases adds with
  | false =>
      cases continued
      exact .refl _ program 0 1
  | true =>
      rcases Draw.bind_eq_ok continued with ⟨added, _, drawn, returned⟩
      cases returned
      exact .append program (Draw.mem_of_oneOf drawn)

theorem overwrite_edited
    (overwritten : overwrite traits program random = .ok child later) :
    Edited traits.instructionPool 0 0 program child := by
  rcases Draw.bind_eq_ok overwritten with ⟨changes, between, _, continued⟩
  split at continued
  · rcases Draw.bind_eq_ok continued with ⟨index, _, _, continued⟩
    rcases Draw.bind_eq_ok continued with ⟨replacement, _, drawn, returned⟩
    cases returned
    exact .set program index (Draw.mem_of_oneOf drawn)
  · cases continued
    exact .refl _ program 0 0

theorem mutate_edited (mutated : mutate traits program random = .ok child later) :
    Edited traits.instructionPool 1 1 program child := by
  rcases Draw.bind_eq_ok mutated with ⟨trimmed, _, trim, continued⟩
  rcases Draw.bind_eq_ok continued with ⟨extended, _, extend, overwrite⟩
  exact ((trim_edited trim).trans (extend_edited extend)).trans (overwrite_edited overwrite)

section

variable {fault : Fault}

theorem trim_ne_error : trim traits program random ≠ .error fault later := by
  intro failed
  rcases Draw.bind_eq_error failed with chance | ⟨removes, _, _, returned⟩
  · exact Draw.chance_ne_error _ _ chance
  · cases returned

theorem extend_eq_error (failed : extend traits program random = .error fault later) :
    traits.instructionPool = [] := by
  rcases Draw.bind_eq_error failed with chance | ⟨adds, _, _, continued⟩
  · exact absurd chance (Draw.chance_ne_error _ _)
  split at continued
  · rcases Draw.bind_eq_error continued with choice | ⟨added, _, _, returned⟩
    · exact Draw.eq_nil_of_oneOf choice
    · cases returned
  · cases continued

theorem overwrite_eq_error (failed : overwrite traits program random = .error fault later) :
    traits.instructionPool = [] := by
  rcases Draw.bind_eq_error failed with chance | ⟨changes, _, _, continued⟩
  · exact absurd chance (Draw.chance_ne_error _ _)
  split at continued
  · rcases Draw.bind_eq_error continued with below | ⟨index, _, _, continued⟩
    · exact absurd below (Draw.below_ne_error _ _)
    rcases Draw.bind_eq_error continued with choice | ⟨replacement, _, _, returned⟩
    · exact Draw.eq_nil_of_oneOf choice
    · cases returned
  · cases continued

/-- Only a choice from an empty pool fails. -/
theorem mutate_eq_error (failed : mutate traits program random = .error fault later) :
    traits.instructionPool = [] := by
  rcases Draw.bind_eq_error failed with trim | ⟨trimmed, _, _, continued⟩
  · exact absurd trim trim_ne_error
  rcases Draw.bind_eq_error continued with extend | ⟨extended, _, _, overwrite⟩
  · exact extend_eq_error extend
  · exact overwrite_eq_error overwrite

end

end Program

end Foragers
