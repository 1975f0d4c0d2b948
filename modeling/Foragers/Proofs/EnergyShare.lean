import Foragers.Proofs.Reproduction
import Foragers.Proofs.Rounding
import Foragers.Settings.Load

/-! # Shares of energy

A parent's energy is taken as the nearest binary64 number before it is multiplied
by a fraction. The nearest number can be above the energy, and then the whole of
it is more than the parent has; every smaller fraction leaves the parent alive.
-/

namespace Foragers

namespace Binary64

/-- The number nearest to an integer is above it. -/
def RoundsUp (value : Int) : Prop :=
  ∃ nearest units, ofInt? value = some nearest ∧ nearest.units? = some units ∧
    value * unitsPerOne < units

theorem unitsPerOne_pos : 0 < unitsPerOne := by
  decide +kernel

theorem unitsPerOne_eq : unitsPerOne = 2 ^ 53 * 2 ^ 1021 := by
  decide +kernel

theorem exists_unitsPerOne_eq : ∃ exponent, unitsPerOne = 2 ^ exponent :=
  ⟨1074, by decide +kernel⟩

/-- Integers of at most 53 bits are not rounded. -/
theorem roundSignificant_unitsPerOne {value : Nat} (within : value ≤ 2 ^ 53) :
    roundSignificant (value * unitsPerOne) 1 = value * unitsPerOne := by
  have significant : IsSignificant (value * unitsPerOne) := by
    rcases exists_unitsPerOne_eq with ⟨exponent, powerEq⟩
    rw [powerEq]
    exact isSignificant_mul_two_pow exponent within
  simpa using roundSignificant_mul_self 1 (by decide) significant

theorem isFraction_cases {fraction : Binary64} (isFraction : fraction.isFraction = true) :
    (∃ representable, fraction = .finite true 0 representable) ∨
      ∃ units representable, fraction = .finite false units representable ∧
        units ≤ unitsPerOne := by
  cases fraction with
  | nan negative => simp [Binary64.isFraction, zero, le] at isFraction
  | infinite negative =>
      cases negative <;> simp [Binary64.isFraction, zero, one, le] at isFraction
  | finite negative units representable =>
      simp only [Binary64.isFraction, zero, one, le, Bool.and_eq_true, signed]
        at isFraction
      cases negative with
      | false =>
          exact .inr ⟨units, representable, rfl, by simpa using isFraction.2⟩
      | true =>
          have noUnits : units = 0 := by simpa using isFraction.1
          subst noUnits
          exact .inl ⟨representable, rfl⟩

theorem ofQuotient_eq_finite {negative sign : Bool} {numerator denominator units : Nat}
    {representable : Representable units}
    (rounded : ofQuotient negative numerator denominator = .finite sign units representable) :
    sign = negative ∧ units = roundSignificant numerator denominator := by
  simp only [ofQuotient] at rounded
  split at rounded
  · cases rounded
    exact ⟨rfl, rfl⟩
  · cases rounded

theorem ofInt?_eq_some {value : Nat} {nearest : Binary64}
    (found : ofInt? value = some nearest) :
    ∃ representable, nearest =
      .finite false (roundSignificant (value * unitsPerOne) 1) representable := by
  have notNegative : ¬(value : Int) < 0 := by omega
  simp only [ofInt?, ofQuotient, notNegative, Int.natAbs_natCast, finite?] at found
  split at found
  · split at found
    · cases found
      exact ⟨_, rfl⟩
    · cases found
  · simp [isFinite] at found

theorem roundsUp_iff {value : Nat} {nearest : Binary64}
    (found : ofInt? value = some nearest) :
    RoundsUp value ↔ value * unitsPerOne < roundSignificant (value * unitsPerOne) 1 := by
  rcases ofInt?_eq_some found with ⟨representable, nearestEq⟩
  constructor
  · rintro ⟨other, units, otherFound, otherUnits, below⟩
    rw [found, nearestEq] at otherFound
    cases otherFound
    simp only [units?, signed, Option.some.injEq] at otherUnits
    rw [← otherUnits, ← Int.natCast_mul] at below
    exact Int.ofNat_lt.mp below
  · intro above
    refine ⟨nearest, _, found, by rw [nearestEq]; rfl, ?_⟩
    rw [← Int.natCast_mul]
    exact Int.ofNat_lt.mpr above

theorem not_roundsUp_of_le {value : Nat} (within : value ≤ 2 ^ 53) : ¬RoundsUp value := by
  intro roundsUp
  have ⟨nearest, _, found, _, _⟩ := roundsUp
  have unrounded := roundSignificant_unitsPerOne within
  have above := (roundsUp_iff found).mp roundsUp
  omega

theorem product_le_of_lt_one {energy units : Nat} (representable : Representable units)
    (below : units < unitsPerOne) :
    roundSignificant (roundSignificant (energy * unitsPerOne) 1 * units) unitsPerOne ≤
      energy * unitsPerOne := by
  -- The largest number below one is the worst case: it takes away the least.
  have unitsLe : units ≤ (2 ^ 53 - 1) * 2 ^ 1021 := by
    apply representable.significant.le_of_lt 1021
    rwa [← unitsPerOne_eq]
  have stepPositive : 0 < 2 ^ 1021 := by decide +kernel
  generalize energy * unitsPerOne = amount
  rw [unitsPerOne_eq]
  generalize 2 ^ 1021 = step at unitsLe stepPositive ⊢
  calc
    roundSignificant (roundSignificant amount 1 * units) (2 ^ 53 * step)
      ≤ roundSignificant (roundSignificant amount 1 * ((2 ^ 53 - 1) * step))
          (2 ^ 53 * step) :=
        roundSignificant_mono (Nat.mul_pos (by decide) stepPositive)
          (Nat.mul_le_mul_left _ unitsLe)
    _ = roundSignificant (roundSignificant amount 1 * (2 ^ 53 - 1)) (2 ^ 53) := by
        rw [← Nat.mul_assoc]
        exact roundSignificant_mul_right _ _ stepPositive
    _ ≤ amount := roundSignificant_discount_le amount

theorem product_one (energy : Nat) :
    roundSignificant (roundSignificant (energy * unitsPerOne) 1 * unitsPerOne) unitsPerOne =
      roundSignificant (energy * unitsPerOne) 1 :=
  roundSignificant_mul_self _ unitsPerOne_pos (isSignificant_roundSignificant _ _)

/-- The nearest number to an integer is an integer, so it is above the integer as
soon as its whole part is. -/
theorem nearest_div_le_iff (energy : Nat) :
    roundSignificant (energy * unitsPerOne) 1 / unitsPerOne ≤ energy ↔
      roundSignificant (energy * unitsPerOne) 1 ≤ energy * unitsPerOne := by
  have whole : unitsPerOne ∣ roundSignificant (energy * unitsPerOne) 1 := by
    rcases exists_unitsPerOne_eq with ⟨exponent, powerEq⟩
    rw [powerEq]
    exact two_pow_dvd_roundSignificant energy exponent
  rcases whole with ⟨quotient, exact⟩
  rw [exact, Nat.mul_div_cancel_left _ unitsPerOne_pos, Nat.mul_comm energy]
  exact (Nat.mul_le_mul_left_iff unitsPerOne_pos).symm

end Binary64

namespace Agent

theorem roundDown_eq_ok {number : Binary64} {whole : Int}
    (rounded : roundDown number = .ok whole) :
    ∃ negative units representable, number = .finite negative units representable ∧
      whole = Binary64.signed negative units / (Binary64.unitsPerOne : Int) := by
  cases number with
  | nan negative => cases rounded
  | infinite negative => cases rounded
  | finite negative units representable =>
      simp only [roundDown, Except.ok.injEq] at rounded
      exact ⟨negative, units, representable, rfl, rounded.symm⟩

theorem shareOf_eq_ok {amount : Option Binary64} {fraction : Binary64} {share : Int}
    (shared : shareOf amount fraction = .ok share) :
    ∃ nearest, amount = some nearest ∧ roundDown (nearest.mul fraction) = .ok share := by
  cases amount with
  | none => cases shared
  | some nearest => exact ⟨nearest, rfl, shared⟩

theorem exists_nearest_of_energyShare {energy share : Int} {fraction : Binary64}
    (shared : energyShare energy fraction = .ok share) :
    ∃ nearest, Binary64.ofInt? energy = some nearest ∧
      roundDown (nearest.mul fraction) = .ok share := by
  unfold energyShare at shared
  exact shareOf_eq_ok shared

theorem energyShare_eq_ok {energy : Nat} {share : Int} {negative : Bool}
    {units : Nat} {representable : Binary64.Representable units}
    (shared : energyShare energy (.finite negative units representable) = .ok share) :
    share = Binary64.signed negative (roundSignificant
      (roundSignificant (energy * Binary64.unitsPerOne) 1 * units)
        Binary64.unitsPerOne) / (Binary64.unitsPerOne : Int) := by
  rcases exists_nearest_of_energyShare shared with ⟨nearest, found, rounded⟩
  rcases Binary64.ofInt?_eq_some found with ⟨_, nearestEq⟩
  rcases roundDown_eq_ok rounded with
    ⟨productNegative, productUnits, _, productEq, shareEq⟩
  rw [nearestEq, Binary64.mul] at productEq
  rcases Binary64.ofQuotient_eq_finite productEq with ⟨signEq, unitsEq⟩
  rw [shareEq, signEq, unitsEq, Bool.false_bne]

theorem energyShare_negativeZero {energy : Nat} {share : Int}
    {representable : Binary64.Representable 0}
    (shared : energyShare energy (.finite true 0 representable) = .ok share) : share = 0 := by
  have exact := roundSignificant_mul_self _ Binary64.unitsPerOne_pos
    Binary64.representable_zero.significant
  have shareEq := energyShare_eq_ok shared
  rw [Nat.mul_zero, ← Nat.zero_mul Binary64.unitsPerOne, exact] at shareEq
  simpa [Binary64.signed] using shareEq

/-- The share is never negative, and it is within the energy except when all of an
energy that is rounded up is asked for. -/
theorem energyShare_bounds {energy : Nat} {share : Int} {fraction : Binary64}
    (isFraction : fraction.isFraction = true)
    (shared : energyShare energy fraction = .ok share) :
    0 ≤ share ∧ (share ≤ energy ↔ ¬(fraction = .one ∧ Binary64.RoundsUp energy)) := by
  rcases exists_nearest_of_energyShare shared with ⟨nearest, found, _⟩
  rcases Binary64.isFraction_cases isFraction with
    ⟨representable, negativeZero⟩ | ⟨units, representable, fractionEq, unitsLe⟩
  -- The negative zero equals zero, so it passes as a fraction.
  · subst negativeZero
    have noShare := energyShare_negativeZero shared
    have notOne : ¬Binary64.finite true 0 representable = .one := by
      simp [Binary64.one]
    simp [noShare, notOne]
  · subst fractionEq
    have shareEq := energyShare_eq_ok shared
    simp only [Binary64.signed, Bool.false_eq_true, if_false] at shareEq
    rw [← Int.natCast_ediv] at shareEq
    rw [shareEq, Int.ofNat_le]
    refine ⟨Int.natCast_nonneg _, ?_⟩
    rcases Nat.lt_or_eq_of_le unitsLe with below | equal
    · have notOne : ¬Binary64.finite false units representable = .one := by
        simp only [Binary64.one, Binary64.finite.injEq, true_and]
        exact Nat.ne_of_lt below
      simp only [notOne, false_and, not_false_iff, iff_true]
      apply Nat.div_le_of_le_mul
      rw [Nat.mul_comm Binary64.unitsPerOne]
      exact Binary64.product_le_of_lt_one representable below
    · subst equal
      have isOne : Binary64.finite false Binary64.unitsPerOne representable = .one := rfl
      rw [Binary64.product_one, Binary64.nearest_div_le_iff, Binary64.roundsUp_iff found]
      simp only [isOne, true_and, Nat.not_lt]

/-- No share exceeds an energy that is exact in binary64. -/
theorem energyShare_within {energy share : Int} {fraction : Binary64} (nonneg : 0 ≤ energy)
    (exact : energy ≤ 2 ^ 53) (isFraction : fraction.isFraction = true)
    (shared : energyShare energy fraction = .ok share) : 0 ≤ share ∧ share ≤ energy := by
  rcases Int.eq_ofNat_of_zero_le nonneg with ⟨amount, amountEq⟩
  subst amountEq
  rcases energyShare_bounds isFraction shared with ⟨shareNonneg, within⟩
  have unrounded : ¬Binary64.RoundsUp amount :=
    Binary64.not_roundsUp_of_le (Int.ofNat_le.mp exact)
  exact ⟨shareNonneg, within.mpr fun overdrawn => unrounded overdrawn.2⟩

variable {σ : Type} [RandomSource σ]

/-- A child of a parent that passed the threshold: what the two have is what the
parent had, and neither is dead unless the parent gave away all of an energy
that is rounded up. Then, and only then, the parent is overdrawn. -/
theorem reproduce_overdraws_iff {traits : Traits} {parent : Agent} {childId : Int}
    {random : σ} {child : Agent}
    (threshold : 0 ≤ traits.reproductionThreshold)
    (isFraction : traits.energyFraction.isFraction = true)
    (born : (parent.reproduce traits childId random).child = .ok (some child)) :
    child.energy + (parent.reproduce traits childId random).parent.energy = parent.energy ∧
      0 ≤ child.energy ∧
      (child.energy ≤ parent.energy ↔
        0 ≤ (parent.reproduce traits childId random).parent.energy) ∧
      (0 ≤ (parent.reproduce traits childId random).parent.energy ↔
        ¬(traits.energyFraction = .one ∧ Binary64.RoundsUp parent.energy)) := by
  have reproduced := reproduce_reproduced traits parent childId random
  generalize parent.reproduce traits childId random = result at born reproduced ⊢
  cases reproduced with
  | refused unable => cases born
  | failed able fault later cause => cases born
  | born able program later mutated share shared =>
      cases born
      have nonnegative : 0 ≤ parent.energy := by
        simp only [canReproduce, Bool.and_eq_true, decide_eq_true_eq] at able
        omega
      rcases Int.eq_ofNat_of_zero_le nonnegative with ⟨energy, energyEq⟩
      rw [energyEq] at shared ⊢
      rcases energyShare_bounds isFraction shared with ⟨shareNonnegative, within⟩
      simp only [offspring]
      refine ⟨by omega, shareNonnegative, by omega, ?_⟩
      rw [← within]
      omega

/-- A parent that gives away all of its energy. -/
def generous (energy : Int) : Agent where
  id := 0
  energy := energy
  position := ⟨0, 0⟩
  heading := .up
  program := [.move]
  willing := true

/-- The default traits, but for the part of its energy that a child gets. -/
def wholeShare : Traits :=
  { ({} : Settings).traits with energyFraction := .one }

theorem generous_overdraws_iff :
    ∃ child, ((generous 20).reproduce wholeShare 1 Zeros.mk).child = .ok (some child) ∧
      0 ≤ ((generous 20).reproduce wholeShare 1 Zeros.mk).parent.energy := by
  have born : ∃ child,
      ((generous 20).reproduce wholeShare 1 Zeros.mk).child = .ok (some child) :=
    ⟨(generous 0).offspring 1 [.move] 20 true, by decide +kernel⟩
  rcases born with ⟨child, born⟩
  have split := reproduce_overdraws_iff (by decide +kernel) (by decide +kernel) born
  exact ⟨child, born, split.2.2.2.mpr fun overdrawn =>
    Binary64.not_roundsUp_of_le (by decide : 20 ≤ 2 ^ 53) overdrawn.2⟩

/-- The nearest number to `2 ^ 53 + 3` is `2 ^ 53 + 4`. -/
theorem generous_overdrawn :
    0 ≤ wholeShare.reproductionThreshold ∧ wholeShare.energyFraction.isFraction = true ∧
      ((generous (2 ^ 53 + 3)).reproduce wholeShare 1 Zeros.mk).child =
        .ok (some ((generous 0).offspring 1 [.move] (2 ^ 53 + 4) true)) ∧
      ((generous (2 ^ 53 + 3)).reproduce wholeShare 1 Zeros.mk).parent.energy = -1 := by
  refine ⟨?_, ?_, ?_, ?_⟩ <;> decide +kernel

end Agent

end Foragers
