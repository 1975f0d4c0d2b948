import Foragers.Random.Draw
import Foragers.Settings.Basic

namespace Foragers.Program

/-! Mutation: three independent trials, each acting on what the one before it
left. The first may remove the last instruction, the second may add one at the
end, the third may overwrite one anywhere. -/

variable {σ : Type} [RandomSource σ]

def trim (traits : Traits) (program : Program) : Draw σ Program := do
  let removes ← Draw.chance traits.removalProbability
  return if removes then program.dropLast else program

def extend (traits : Traits) (program : Program) : Draw σ Program := do
  let adds ← Draw.chance traits.additionProbability
  if adds then
    let added ← Draw.oneOf traits.instructionPool
    return program ++ [added]
  else return program

def overwrite (traits : Traits) (program : Program) : Draw σ Program := do
  let changes ← Draw.chance traits.changeProbability
  if changes && !program.isEmpty then
    let index ← Draw.below program.length
    let replacement ← Draw.oneOf traits.instructionPool
    return program.set index replacement
  else return program

def mutate (traits : Traits) (program : Program) : Draw σ Program := do
  let trimmed ← trim traits program
  let extended ← extend traits trimmed
  overwrite traits extended

end Foragers.Program
