import Foragers.Proofs.EnergyShare
import Foragers.World.Statistics
import Mathlib.Algebra.Order.BigOperators.Group.List

/-! # Numbers that are too large

A number has no finite nearest binary64 number exactly from the middle between the
largest finite one and the power of two behind it on. A share of an energy, or a
mean of numbers that are not negative, is too large only for that reason, and then
the energy or one of the numbers is too large by itself.
-/

namespace Foragers

namespace Binary64

/-- The least integer without a finite nearest number. -/
def limit : Nat := 2 ^ 1024 - 2 ^ 970

theorem limit_mul_unitsPerOne : limit * unitsPerOne = (2 ^ 54 - 1) * 2 ^ 2044 := by
  decide +kernel

theorem overflowUnits_eq : overflowUnits = 2 ^ 53 * 2 ^ 2045 := by
  decide +kernel

theorem roundSignificant_limit :
    roundSignificant (limit * unitsPerOne) 1 = overflowUnits := by
  decide +kernel

theorem two_pow_lt_limit : 2 ^ 53 < limit := by
  decide +kernel

-- Numbers of this size must not be unfolded by the way.
attribute [irreducible] limit

/-- A quotient is rounded to a finite number exactly as long as it is below the limit. -/
theorem roundSignificant_lt_overflowUnits_iff (numerator : Nat) {denominator : Nat}
    (positive : 0 < denominator) :
    roundSignificant (numerator * unitsPerOne) denominator < overflowUnits ↔
      numerator < limit * denominator := by
  constructor
  · intro finite
    by_contra reached
    have scaled : limit * unitsPerOne * denominator ≤ numerator * unitsPerOne := by
      rw [Nat.mul_right_comm]
      exact Nat.mul_le_mul_right _ (by omega)
    have rounded := roundSignificant_mono positive scaled
    have cancelled := roundSignificant_mul_right (limit * unitsPerOne) 1 positive
    rw [Nat.one_mul, roundSignificant_limit] at cancelled
    omega
  · intro below
    have scaled := Nat.mul_lt_mul_of_pos_right below unitsPerOne_pos
    rw [Nat.mul_right_comm, limit_mul_unitsPerOne, Nat.mul_assoc] at scaled
    -- The largest finite number has 53 ones, and the limit is half a step above it.
    have doubled : 2 ^ 2045 = 2 * 2 ^ 2044 := by decide +kernel
    have middle : 2 * (numerator * unitsPerOne) <
        (2 * (2 ^ 53 - 1) + 1) * (denominator * 2 ^ 2045) := by
      have regrouped : denominator * (2 * 2 ^ 2044) = 2 * (2 ^ 2044 * denominator) := by
        rw [Nat.mul_left_comm, Nat.mul_comm denominator]
      rw [doubled, regrouped]
      generalize 2 ^ 2044 * denominator = half at scaled ⊢
      omega
    have stepPositive : 0 < 2 ^ 2045 := by decide +kernel
    rw [overflowUnits_eq]
    calc
      roundSignificant (numerator * unitsPerOne) denominator
        ≤ (2 ^ 53 - 1) * 2 ^ 2045 :=
          roundSignificant_le_of_lt_middle positive (by decide) (by decide) middle
      _ < 2 ^ 53 * 2 ^ 2045 := Nat.mul_lt_mul_of_pos_right (by decide) stepPositive

theorem ofQuotient_finite?_eq_none_iff (negative : Bool) (numerator : Nat)
    {denominator : Nat} (positive : 0 < denominator) :
    (ofQuotient negative (numerator * unitsPerOne) denominator).finite? = none ↔
      limit * denominator ≤ numerator := by
  rw [← Nat.not_lt, ← roundSignificant_lt_overflowUnits_iff numerator positive]
  simp only [ofQuotient, finite?]
  split
  · rename_i bounded
    simp [isFinite, bounded]
  · rename_i unbounded
    simp [isFinite, unbounded]

theorem ofRatio?_eq_none_iff (numerator : Int) {denominator : Nat}
    (positive : 0 < denominator) :
    ofRatio? numerator denominator = none ↔ limit * denominator ≤ numerator.natAbs :=
  ofQuotient_finite?_eq_none_iff _ _ positive

theorem ofInt?_eq_none_iff (value : Int) : ofInt? value = none ↔ limit ≤ value.natAbs := by
  have exact := ofQuotient_finite?_eq_none_iff (value < 0) value.natAbs Nat.one_pos
  rwa [Nat.mul_one] at exact

/-- A part of a finite number is finite. -/
theorem mul_eq_finite {units others : Nat} (negative sign : Bool)
    (representable : Representable units) (otherRepresentable : Representable others)
    (part : others ≤ unitsPerOne) :
    ∃ product productRepresentable,
      (finite negative units representable).mul (finite sign others otherRepresentable) =
        finite (negative != sign) product productRepresentable := by
  have rounded : roundSignificant (units * others) unitsPerOne < overflowUnits := by
    calc
      roundSignificant (units * others) unitsPerOne
        ≤ roundSignificant (units * unitsPerOne) unitsPerOne :=
          roundSignificant_mono unitsPerOne_pos (Nat.mul_le_mul_left units part)
      _ = units :=
          roundSignificant_mul_self unitsPerOne unitsPerOne_pos representable.significant
      _ < overflowUnits := representable.bounded
  rw [mul, ofQuotient, dif_pos rounded]
  exact ⟨_, _, rfl⟩

end Binary64

/-- The share of an energy is too large only when the energy is. -/
theorem Agent.energyShare_eq_error {energy : Int} {fraction : Binary64} {fault : Fault}
    (nonneg : 0 ≤ energy) (isFraction : fraction.isFraction = true)
    (failed : energyShare energy fraction = .error fault) :
    fault = .tooLarge ∧ Binary64.limit ≤ energy := by
  unfold energyShare at failed
  cases found : Binary64.ofInt? energy with
  | none =>
      rw [found] at failed
      cases failed
      have reached := (Binary64.ofInt?_eq_none_iff energy).mp found
      exact ⟨rfl, by omega⟩
  | some nearest =>
      rw [found] at failed
      rcases Int.eq_ofNat_of_zero_le nonneg with ⟨amount, amountEq⟩
      rw [amountEq] at found
      rcases Binary64.ofInt?_eq_some found with ⟨representable, nearestEq⟩
      have part : ∃ sign others otherRepresentable,
          fraction = .finite sign others otherRepresentable ∧
            others ≤ Binary64.unitsPerOne := by
        rcases Binary64.isFraction_cases isFraction with
          ⟨zero, fractionEq⟩ | ⟨units, other, fractionEq, within⟩
        · exact ⟨_, _, zero, fractionEq, Nat.zero_le _⟩
        · exact ⟨_, _, other, fractionEq, within⟩
      rcases part with ⟨sign, others, otherRepresentable, fractionEq, within⟩
      rcases Binary64.mul_eq_finite false sign representable otherRepresentable within with
        ⟨product, productRepresentable, productEq⟩
      rw [nearestEq, fractionEq, shareOf, productEq] at failed
      cases failed

/-- A mean of numbers that are not negative is too large only when one of them is. -/
theorem Binary64.exists_limit_le {values : List Int} (nonempty : values ≠ [])
    (nonneg : ∀ value ∈ values, 0 ≤ value)
    (tooLarge : ofRatio? values.sum values.length = none) :
    ∃ value ∈ values, limit ≤ value := by
  have reached := (ofRatio?_eq_none_iff _ (List.length_pos_of_ne_nil nonempty)).mp tooLarge
  have sumNonneg : 0 ≤ values.sum := List.sum_nonneg nonneg
  apply List.exists_le_of_sum_le nonempty (fun _ => (limit : Int)) id
  calc
    (values.map fun _ => (limit : Int)).sum = ((limit * values.length : Nat) : Int) := by
      simp [Int.mul_comm]
    _ ≤ (values.sum.natAbs : Int) := Int.ofNat_le.mpr reached
    _ = values.sum := Int.natAbs_of_nonneg sumNonneg
    _ = (values.map id).sum := by rw [List.map_id]

theorem Summary.ofList_eq_error {values : List Int} {fault : Fault}
    (nonneg : ∀ value ∈ values, 0 ≤ value) (failed : ofList values = .error fault) :
    fault = .tooLarge ∧ ∃ value ∈ values, Binary64.limit ≤ value := by
  cases values with
  | nil => cases failed
  | cons first rest =>
      have total : rest.foldl (· + ·) first = (first :: rest).sum := by
        rw [List.sum_eq_foldl, List.foldl_cons, Int.zero_add]
      rw [ofList, total, ← List.length_cons (a := first)] at failed
      cases mean : Binary64.ofRatio? (first :: rest).sum (first :: rest).length with
      | none =>
          rw [mean] at failed
          cases failed
          exact ⟨rfl, Binary64.exists_limit_le (List.cons_ne_nil first rest) nonneg mean⟩
      | some nearest =>
          rw [mean] at failed
          cases failed

end Foragers
