import Foragers.Agent.Lifecycle

/-! # Reproduction -/

namespace Foragers

/-- The source that always draws zero. -/
structure Zeros where

instance : RandomSource Zeros where
  below _ zeros := (0, zeros)
  fraction zeros := (0, zeros)
  below_lt _ _ positive := positive
  fraction_lt _ := (by decide : 0 < 1 <<< 53)

namespace Agent

variable {σ : Type} [RandomSource σ]

/-- Everything that an attempt at reproduction can come to. -/
inductive Reproduced (traits : Traits) (parent : Agent) (childId : Int) (random : σ) :
    Reproduction σ → Prop
  | refused (unable : parent.canReproduce traits = false) :
      Reproduced traits parent childId random ⟨parent, random, .ok none⟩
  | failed (able : parent.canReproduce traits = true) (fault : Fault) (later : σ)
      (cause : Program.mutate traits parent.program random = .error fault later ∨
        ∃ program, Program.mutate traits parent.program random = .ok program later ∧
          energyShare parent.energy traits.energyFraction = .error fault) :
      Reproduced traits parent childId random ⟨parent, later, .error fault⟩
  | born (able : parent.canReproduce traits = true) (program : Program) (later : σ)
      (mutated : Program.mutate traits parent.program random = .ok program later)
      (share : Int)
      (shared : energyShare parent.energy traits.energyFraction = .ok share) :
      Reproduced traits parent childId random {
        parent := { parent with energy := parent.energy - share }
        random := (drawWilling traits later).2
        child := .ok (some (parent.offspring childId program share
          (drawWilling traits later).1)) }

theorem reproduce_reproduced (traits : Traits) (parent : Agent) (childId : Int)
    (random : σ) :
    Reproduced traits parent childId random (parent.reproduce traits childId random) := by
  unfold reproduce
  by_cases able : parent.canReproduce traits = true
  · rw [if_pos able]
    cases mutated : Program.mutate traits parent.program random with
    | error fault later => exact .failed able fault later (.inl mutated)
    | ok program later =>
        cases shared : energyShare parent.energy traits.energyFraction with
        | error fault => exact .failed able fault later (.inr ⟨program, mutated, shared⟩)
        | ok share => exact .born able program later mutated share shared
  · rw [if_neg able]
    exact .refused (by simpa using able)

/-- The conditions of an outcome leave no other one. -/
theorem Reproduced.reproduce_eq {traits : Traits} {parent : Agent} {childId : Int}
    {random : σ} {result : Reproduction σ}
    (reproduced : Reproduced traits parent childId random result) :
    parent.reproduce traits childId random = result := by
  cases reproduced with
  | refused unable => rw [reproduce, if_neg (by simp [unable])]
  | failed able fault later cause =>
      rcases cause with mutated | ⟨program, mutated, shared⟩
      · rw [reproduce, if_pos able, mutated]
      · rw [reproduce, if_pos able, mutated, shared]
  | born able program later mutated share shared =>
      rw [reproduce, if_pos able, mutated, shared]

end Agent

end Foragers
