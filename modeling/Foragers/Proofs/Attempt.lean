import Foragers.Proofs.Denotation
import Foragers.Proofs.Trials

/-! # Attempts at reproduction

Whatever the traits are, an attempt that fails or is refused leaves the parent as it was.
It fails for want of an instruction, or because no integer is near the share of the energy:
the energy or its product with the fraction is too large, or there is no such product.
-/

namespace Foragers

namespace Binary64

/-! ## Products -/

def IsNaN (number : Binary64) : Prop :=
  ∃ negative, number = .nan negative

def IsInfinite (number : Binary64) : Prop :=
  ∃ negative, number = .infinite negative

theorem nearest_eq_zero_iff (number : Nat) :
    roundSignificant (number * unitsPerOne) 1 = 0 ↔ number = 0 := by
  constructor
  · intro rounded
    by_contra nonzero
    have atLeast := roundSignificant_mono Nat.one_pos
      (Nat.mul_le_mul_right unitsPerOne (Nat.one_le_iff_ne_zero.mpr nonzero))
    have one := roundSignificant_unitsPerOne (show 1 ≤ 2 ^ 53 by decide)
    have positive := unitsPerOne_pos
    omega
  · rintro rfl
    rw [roundSignificant_unitsPerOne (Nat.zero_le _), Nat.zero_mul]

theorem natAbs_signed (negative : Bool) (units : Nat) : (signed negative units).natAbs = units := by
  cases negative <;> simp [signed]

/-- The nearest number to an integer is finite, and zero only for the integer zero. -/
theorem exists_finite_of_ofInt? {value : Int} {nearest : Binary64}
    (found : ofInt? value = some nearest) :
    ∃ negative units representable, nearest = .finite negative units representable ∧
      (units = 0 ↔ value = 0) := by
  have unitsEq := units?_of_ofInt? found
  cases nearest with
  | nan negative => cases unitsEq
  | infinite negative => cases unitsEq
  | finite negative units representable =>
      have magnitude := congrArg Int.natAbs (Option.some.inj unitsEq)
      rw [natAbs_signed, natAbs_signed] at magnitude
      refine ⟨negative, units, representable, rfl, ?_⟩
      rw [magnitude, nearest_eq_zero_iff, Int.natAbs_eq_zero]

/-- A product of finite numbers is too large exactly from the limit on. -/
theorem mul_finite_isInfinite_iff {negative sign : Bool} {units others : Nat}
    (representable : Representable units) (otherRepresentable : Representable others) :
    ((finite negative units representable).mul
        (finite sign others otherRepresentable)).IsInfinite ↔
      limit * (unitsPerOne * unitsPerOne) ≤ units * others := by
  have positive := Nat.mul_pos unitsPerOne_pos unitsPerOne_pos
  have scaled := roundSignificant_lt_overflowUnits_iff (units * others) positive
  rw [roundSignificant_mul_right _ _ unitsPerOne_pos] at scaled
  rw [← Nat.not_lt, ← scaled, mul, ofQuotient]
  split
  · rename_i bounded
    simp [IsInfinite, bounded]
  · rename_i unbounded
    simp [IsInfinite, unbounded]

theorem abs_amount_mul {negative sign : Bool} {units others : Nat} :
    |(signed negative units : ℚ) / unitsPerOne * (signed sign others / unitsPerOne)| =
      (units * others : Nat) / ((unitsPerOne * unitsPerOne : Nat) : ℚ) := by
  have magnitude : ∀ (negative : Bool) (units : Nat),
      |(signed negative units : ℚ)| = units := by
    intro negative units
    rw [← Int.cast_abs, Int.abs_eq_natAbs, natAbs_signed, Int.cast_natCast]
  rw [div_mul_div_comm, abs_div, abs_mul, magnitude, magnitude, abs_mul, Nat.abs_cast,
    Nat.cast_mul, Nat.cast_mul]

variable {value : Int} {nearest fraction : Binary64}

/-- An integer has no product with NaN, and zero has none with an infinity. -/
theorem mul_isNaN_iff (found : ofInt? value = some nearest) :
    (nearest.mul fraction).IsNaN ↔ fraction.IsNaN ∨ value = 0 ∧ fraction.IsInfinite := by
  rcases exists_finite_of_ofInt? found with ⟨negative, units, representable, rfl, zero⟩
  rw [← zero]
  cases fraction with
  | nan sign => simp [mul, IsNaN]
  | infinite sign => by_cases nothing : units = 0 <;> simp [mul, IsNaN, IsInfinite, nothing]
  | finite sign others otherRepresentable =>
      rw [mul, ofQuotient]
      split <;> simp [IsNaN, IsInfinite]

/-- A product is infinite when the fraction is, or when the exact product of the nearest
number and the fraction reaches the limit. -/
theorem mul_isInfinite_iff (found : ofInt? value = some nearest) :
    (nearest.mul fraction).IsInfinite ↔ value ≠ 0 ∧ fraction.IsInfinite ∨
      ∃ amount part, nearest.amount? = some amount ∧ fraction.amount? = some part ∧
        limit ≤ |amount * part| := by
  rcases exists_finite_of_ofInt? found with ⟨negative, units, representable, rfl, zero⟩
  rw [ne_eq, ← zero]
  cases fraction with
  | nan sign => simp [mul, IsInfinite, amount?, units?]
  | infinite sign =>
      by_cases nothing : units = 0 <;> simp [mul, IsInfinite, amount?, units?, nothing]
  | finite sign others otherRepresentable =>
      have positive : (0 : ℚ) < (unitsPerOne * unitsPerOne : Nat) :=
        Nat.cast_pos.mpr (Nat.mul_pos unitsPerOne_pos unitsPerOne_pos)
      rw [mul_finite_isInfinite_iff]
      simp only [IsInfinite, amount?, units?, Option.map_some, Option.some.injEq,
        reduceCtorEq, exists_false, and_false, false_or, exists_and_left, exists_eq_left',
        abs_amount_mul]
      rw [le_div_iff₀ positive]
      norm_cast

end Binary64

namespace Agent

/-! ## Shares -/

/-- Why there is no share of an energy: no finite number is near the energy, or its product
with the fraction is no number or is infinite. -/
inductive ShareFault (energy : Int) (fraction : Binary64) : Fault → Prop
  | oversized (large : Binary64.limit ≤ energy.natAbs) : ShareFault energy fraction .tooLarge
  | undefined {nearest : Binary64} (found : Binary64.ofInt? energy = some nearest)
      (product : (nearest.mul fraction).IsNaN) : ShareFault energy fraction .notANumber
  | unbounded {nearest : Binary64} (found : Binary64.ofInt? energy = some nearest)
      (product : (nearest.mul fraction).IsInfinite) : ShareFault energy fraction .tooLarge

theorem roundDown_eq_error_iff {number : Binary64} {fault : Fault} :
    roundDown number = .error fault ↔
      fault = .notANumber ∧ number.IsNaN ∨ fault = .tooLarge ∧ number.IsInfinite := by
  cases number <;> simp [roundDown, Binary64.IsNaN, Binary64.IsInfinite, eq_comm]

theorem energyShare_eq_error_iff {energy : Int} {fraction : Binary64} {fault : Fault} :
    energyShare energy fraction = .error fault ↔ ShareFault energy fraction fault := by
  unfold energyShare
  cases found : Binary64.ofInt? energy with
  | none =>
      have large := (Binary64.ofInt?_eq_none_iff energy).mp found
      constructor
      · intro failed
        cases failed
        exact .oversized large
      · intro reason
        cases reason with
        | oversized large => rfl
        | undefined other product => cases found.symm.trans other
        | unbounded other product => cases found.symm.trans other
  | some nearest =>
      have small : ¬Binary64.limit ≤ energy.natAbs := by
        rw [← Binary64.ofInt?_eq_none_iff, found]
        exact Option.some_ne_none nearest
      rw [shareOf, roundDown_eq_error_iff]
      constructor
      · rintro (⟨rfl, product⟩ | ⟨rfl, product⟩)
        · exact .undefined found product
        · exact .unbounded found product
      · intro reason
        cases reason with
        | oversized large => exact absurd large small
        | undefined other product =>
            cases found.symm.trans other
            exact .inl ⟨rfl, product⟩
        | unbounded other product =>
            cases found.symm.trans other
            exact .inr ⟨rfl, product⟩

/-! ## Attempts -/

variable {σ : Type} [RandomSource σ]

/-- Why an agent that can reproduce has no child: its program is looked at first, and its
energy after that. -/
inductive Thwarted (traits : Traits) (parent : Agent) (random : σ) : Fault → Prop
  | program (starves : Program.Starves traits parent.program random) :
      Thwarted traits parent random .emptyChoice
  | energy {fault : Fault} (fed : ¬Program.Starves traits parent.program random)
      (unshared : ShareFault parent.energy traits.energyFraction fault) :
      Thwarted traits parent random fault

theorem exists_thwarted_iff {traits : Traits} {parent : Agent} {random : σ} :
    (∃ fault, Thwarted traits parent random fault) ↔
      Program.Starves traits parent.program random ∨
        ∃ fault, ShareFault parent.energy traits.energyFraction fault := by
  constructor
  · rintro ⟨fault, thwarted⟩
    cases thwarted with
    | program starves => exact .inl starves
    | energy fed unshared => exact .inr ⟨fault, unshared⟩
  · intro reason
    by_cases starves : Program.Starves traits parent.program random
    · exact ⟨.emptyChoice, .program starves⟩
    · rcases reason.resolve_left starves with ⟨fault, unshared⟩
      exact ⟨fault, .energy starves unshared⟩

variable {traits : Traits} {parent : Agent} {childId : Int} {random : σ}

theorem canReproduce_eq_false_iff :
    parent.canReproduce traits = false ↔
      parent.willing = false ∨ parent.energy < traits.reproductionThreshold := by
  rw [canReproduce, Bool.and_eq_false_iff, decide_eq_false_iff_not, Int.not_le]

theorem reproduce_eq_error_iff (able : parent.canReproduce traits = true) {fault : Fault} :
    (parent.reproduce traits childId random).child = .error fault ↔
      Thwarted traits parent random fault := by
  constructor
  · intro failed
    have reproduced := reproduce_reproduced traits parent childId random
    generalize parent.reproduce traits childId random = result at reproduced failed
    cases reproduced with
    | refused unable => cases failed
    | born able program later mutated share shared => cases failed
    | failed able fault later cause =>
        cases failed
        rcases cause with mutated | ⟨program, mutated, unshared⟩
        · rcases Program.mutate_eq_error_iff.mp ⟨later, mutated⟩ with ⟨rfl, starves⟩
          exact .program starves
        · refine .energy (fun starves => ?_) (energyShare_eq_error_iff.mp unshared)
          rcases Program.mutate_of_starves starves with ⟨_, failed⟩
          cases mutated.symm.trans failed
  · intro thwarted
    cases thwarted with
    | program starves =>
        rcases Program.mutate_of_starves starves with ⟨later, mutated⟩
        rw [(Reproduced.failed able .emptyChoice later (.inl mutated)).reproduce_eq]
    | energy fed unshared =>
        rcases Program.mutate_of_not_starves fed with ⟨program, later, mutated⟩
        have failed := energyShare_eq_error_iff.mpr unshared
        rw [(Reproduced.failed able fault later
          (.inr ⟨program, mutated, failed⟩)).reproduce_eq]

namespace Reproduced

variable {result : Reproduction σ}

theorem parent_of_childless (reproduced : Reproduced traits parent childId random result)
    (childless : result.child = .ok none ∨ ∃ fault, result.child = .error fault) :
    result.parent = parent := by
  cases reproduced with
  | refused unable => rfl
  | failed able fault later cause => rfl
  | born able program later mutated share shared =>
      rcases childless with refused | ⟨fault, failed⟩
      · cases refused
      · cases failed

theorem random_of_refused (reproduced : Reproduced traits parent childId random result)
    (refused : result.child = .ok none) : result.random = random := by
  cases reproduced with
  | refused unable => rfl
  | failed able fault later cause => cases refused
  | born able program later mutated share shared => cases refused

theorem refused_iff (reproduced : Reproduced traits parent childId random result) :
    result.child = .ok none ↔ parent.canReproduce traits = false := by
  cases reproduced with
  | refused unable => simp [unable]
  | failed able fault later cause => simp [able]
  | born able program later mutated share shared => simp [able]

theorem exists_child (reproduced : Reproduced traits parent childId random result)
    (able : parent.canReproduce traits = true)
    (unfailing : ∀ fault, result.child ≠ .error fault) :
    ∃ child, result.child = .ok (some child) ∧
      result.parent = { parent with energy := parent.energy - child.energy } := by
  cases reproduced with
  | refused unable =>
      rw [able] at unable
      cases unable
  | failed able fault later cause => exact absurd rfl (unfailing fault)
  | born able program later mutated share shared => exact ⟨_, rfl, rfl⟩

end Reproduced

/-- An attempt that is refused or fails leaves the parent as it was, and a refused one the
source too. It is refused for want of will or energy. It fails when there is no instruction
to choose, or else no share of the energy: the energy is too large, or it has no product
with the fraction, or an infinite one. Otherwise there is a child, and the parent has what
is left of its energy. -/
theorem attempt_leaves_parent (traits : Traits) (parent : Agent) (childId : Int)
    (random : σ) :
    let attempt := parent.reproduce traits childId random
    (attempt.child = .ok none ∨ (∃ fault, attempt.child = .error fault) →
      attempt.parent = parent) ∧
    (attempt.child = .ok none → attempt.random = random) ∧
    (attempt.child = .ok none ↔
      parent.willing = false ∨ parent.energy < traits.reproductionThreshold) ∧
    (parent.canReproduce traits = true →
      ((∃ fault, attempt.child = .error fault) ↔
        Program.Starves traits parent.program random ∨
          ∃ fault, ShareFault parent.energy traits.energyFraction fault) ∧
      (∀ fault, attempt.child = .error fault ↔ Thwarted traits parent random fault) ∧
      ((∀ fault, attempt.child ≠ .error fault) → ∃ child, attempt.child = .ok (some child) ∧
        attempt.parent = { parent with energy := parent.energy - child.energy })) ∧
    ∀ nearest, Binary64.ofInt? parent.energy = some nearest →
      ((nearest.mul traits.energyFraction).IsNaN ↔ traits.energyFraction.IsNaN ∨
        parent.energy = 0 ∧ traits.energyFraction.IsInfinite) ∧
      ((nearest.mul traits.energyFraction).IsInfinite ↔
        parent.energy ≠ 0 ∧ traits.energyFraction.IsInfinite ∨
          ∃ amount part, nearest.amount? = some amount ∧
            traits.energyFraction.amount? = some part ∧
              Binary64.limit ≤ |amount * part|) := by
  have reproduced := reproduce_reproduced traits parent childId random
  rw [← canReproduce_eq_false_iff]
  refine ⟨reproduced.parent_of_childless, reproduced.random_of_refused,
    reproduced.refused_iff,
    fun able => ⟨?_, fun _ => reproduce_eq_error_iff able, reproduced.exists_child able⟩,
    fun nearest found => ⟨Binary64.mul_isNaN_iff found, Binary64.mul_isInfinite_iff found⟩⟩
  rw [← exists_thwarted_iff]
  exact exists_congr fun _ => reproduce_eq_error_iff able

/-- Traits by which a child is to get more than any parent has. -/
def boundlessShare : Traits :=
  { wholeShare with energyFraction := .infinite false }

theorem generous_thwarted :
    (generous 20).canReproduce boundlessShare = true ∧
      ((generous 20).reproduce boundlessShare 1 Zeros.mk).child = .error .tooLarge ∧
      ((generous 20).reproduce boundlessShare 1 Zeros.mk).parent = generous 20 := by
  have able : (generous 20).canReproduce boundlessShare = true := by decide +kernel
  have fed : ¬Program.Starves boundlessShare (generous 20).program Zeros.mk :=
    fun starves => absurd starves.pool_eq_nil (by decide)
  have finite : (Binary64.ofInt? 20).isSome = true := by decide +kernel
  rcases Option.isSome_iff_exists.mp finite with ⟨nearest, found⟩
  rcases attempt_leaves_parent boundlessShare (generous 20) 1 Zeros.mk with
    ⟨intact, _, _, attempts, products⟩
  have unbounded : (nearest.mul boundlessShare.energyFraction).IsInfinite :=
    (products nearest found).2.mpr (.inl ⟨by decide, false, rfl⟩)
  have failed := ((attempts able).2.1 .tooLarge).mpr (.energy fed (.unbounded found unbounded))
  exact ⟨able, failed, intact (.inr ⟨.tooLarge, failed⟩)⟩

end Agent

end Foragers
