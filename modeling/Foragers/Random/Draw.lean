import Foragers.Fault
import Foragers.Random.Source

namespace Foragers

/-- A computation that draws random numbers and may fail. What was drawn before
a failure stays drawn. -/
abbrev Draw (σ : Type) := EStateM Fault σ

namespace Draw

variable {σ : Type} [RandomSource σ] {α : Type}

def chance (probability : Binary64) : Draw σ Bool := fun random =>
  let drawn := RandomSource.chance probability random
  .ok drawn.1 drawn.2

def below (bound : Nat) : Draw σ Nat := fun random =>
  let drawn := RandomSource.below bound random
  .ok drawn.1 drawn.2

/-- Chooses one of some things. With nothing to choose from it fails before it
draws. -/
def oneOf : List α → Draw σ α
  | [] => fun random => .error .emptyChoice random
  | first :: rest => fun random =>
      let drawn := RandomSource.below (rest.length + 1) random
      .ok ((first :: rest).get ⟨drawn.1, RandomSource.below_lt _ random (Nat.succ_pos _)⟩) drawn.2

end Draw

end Foragers
