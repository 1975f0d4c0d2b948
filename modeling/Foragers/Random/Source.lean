import Foragers.Binary64.Basic

namespace Foragers

/-! A source of random numbers is a state together with two ways to draw from
it. Whatever is random in the simulation is made of these two draws, and the
order of the draws is part of what each definition says. -/

class RandomSource (σ : Type) where
  /-- Draws a number below a bound; the bound zero is never drawn from. -/
  below : Nat → σ → Nat × σ
  /-- Draws the numerator of a fraction over 2^53. -/
  fraction : σ → Nat × σ
  below_lt : ∀ bound random, 0 < bound → (below bound random).1 < bound
  fraction_lt : ∀ random, (fraction random).1 < 1 <<< 53

namespace RandomSource

variable {σ : Type} [RandomSource σ] {α : Type}

def fractionValue (numerator : Nat) (below : numerator < 1 <<< 53) : Binary64 :=
  .finite false (numerator <<< 1021) (Binary64.representable_shifted below (by decide))

/-- A trial that succeeds with a given probability. It draws one fraction,
also for a probability that settles the outcome. -/
def chance (probability : Binary64) (random : σ) : Bool × σ :=
  let drawn := fraction random
  ((fractionValue drawn.1 (fraction_lt random)).lt probability, drawn.2)

/-- Exchanges, from the last index down to the first, each element with one at
an index that is not larger. -/
def shuffleFrom : Nat → Array α → σ → Array α × σ
  | 0, items, random => (items, random)
  | last + 1, items, random =>
      let drawn := below (last + 2) random
      shuffleFrom last (items.swapIfInBounds (last + 1) drawn.1) drawn.2

def shuffle (items : List α) (random : σ) : List α × σ :=
  let shuffled := shuffleFrom (items.length - 1) items.toArray random
  (shuffled.1.toList, shuffled.2)

end RandomSource

end Foragers
