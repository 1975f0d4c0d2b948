import Foragers.Agent.Basic
import Foragers.Binary64.Arithmetic
import Foragers.Board.Basic
import Foragers.Fault

namespace Foragers

/-! Statistics of a population. -/

structure Summary where
  minimum : Int := 0
  mean : Binary64 := .zero
  maximum : Int := 0
  deriving DecidableEq, Repr

/-- The summary with a given mean, if there is a finite one. A mean beyond the
range of binary64 is a fault. -/
def Summary.ofMean (minimum maximum : Int) : Option Binary64 → Except Fault Summary
  | none => .error .tooLarge
  | some mean => .ok { minimum, mean, maximum }

/-- Minimum, maximum and the number nearest to the exact mean. -/
def Summary.ofList : List Int → Except Fault Summary
  | [] => .ok {}
  | value :: rest =>
      ofMean (rest.foldl min value) (rest.foldl max value)
        (Binary64.ofRatio? (rest.foldl (· + ·) value) (rest.length + 1))

structure RoundMetrics where
  round : Int
  ripeFood : Nat
  population : Nat
  births : Nat
  deaths : Nat
  programLength : Summary
  energy : Summary
  age : Summary
  deriving DecidableEq, Repr

def RoundMetrics.measure (round : Int) (board : Board) (agents : List Agent)
    (births deaths : Nat) : Except Fault RoundMetrics := do
  let programLength ← Summary.ofList (agents.map fun agent => agent.program.length)
  let energy ← Summary.ofList (agents.map fun agent => agent.energy)
  let age ← Summary.ofList (agents.map fun agent => agent.age)
  return {
    round, births, deaths, programLength, energy, age
    ripeFood := board.ripeCount
    population := agents.length }

end Foragers
