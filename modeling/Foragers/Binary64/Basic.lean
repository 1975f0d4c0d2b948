import Foragers.Binary64.Rounding

namespace Foragers

/-! Numbers of the binary64 format. A finite number is a sign and a count of
units, where one unit is the smallest positive number 2^-1074, so that every
comparison and every rounding is one of natural numbers. -/

namespace Binary64

/-- The number of units in one. -/
def unitsPerOne : Nat := 1 <<< 1074

/-- The first power of two beyond the largest finite number, in units. -/
def overflowUnits : Nat := 1 <<< 2098

/-- There is a finite number with the given count of units. -/
structure Representable (units : Nat) : Prop where
  significant : IsSignificant units
  bounded : units < overflowUnits

/-- Digits in front of a shift are representable unless the shift is beyond that
of the largest finite number. -/
theorem representable_shifted {digits shift : Nat} (short : digits < 1 <<< 53)
    (small : shift ≤ 2045) : Representable (digits <<< shift) where
  significant := isSignificant_shifted shift (Nat.le_of_lt short)
  bounded := by
    have productLt : digits * 2 ^ shift < 2 ^ (53 + shift) := by
      rw [Nat.one_shiftLeft] at short
      rw [Nat.pow_add]
      exact Nat.mul_lt_mul_of_pos_right short (Nat.two_pow_pos shift)
    have exponentLe : 53 + shift ≤ 2098 := by omega
    rw [overflowUnits]
    generalize 2098 = exponent at exponentLe
    rw [Nat.one_shiftLeft, Nat.shiftLeft_eq]
    exact Nat.lt_of_lt_of_le productLt (Nat.pow_le_pow_right (by decide) exponentLe)

theorem representable_zero : Representable 0 := by
  have shifted : Representable (0 <<< 0) :=
    representable_shifted (by decide) (by decide)
  exact shifted

theorem representable_unitsPerOne : Representable unitsPerOne := by
  have small : 1074 ≤ 2045 := by decide
  rw [unitsPerOne]
  generalize 1074 = shift at small
  exact representable_shifted (by decide) small

-- Numbers of this size must not be unfolded by the way.
attribute [irreducible] unitsPerOne overflowUnits

end Binary64

inductive Binary64 where
  | nan (negative : Bool)
  | infinite (negative : Bool)
  | finite (negative : Bool) (units : Nat) (representable : Binary64.Representable units)
  deriving DecidableEq, Repr, Inhabited

namespace Binary64

def zero : Binary64 := .finite false 0 representable_zero

def one : Binary64 := .finite false unitsPerOne representable_unitsPerOne

def signed (negative : Bool) (magnitude : Nat) : Int :=
  if negative then -(magnitude : Int) else magnitude

/-- The nearest number to a quotient of units, ties to even, infinite when the
nearest one with unbounded exponents would not be below `overflowUnits`. -/
def ofQuotient (negative : Bool) (numerator denominator : Nat) : Binary64 :=
  let units := roundSignificant numerator denominator
  if bounded : units < overflowUnits then
    .finite negative units ⟨isSignificant_roundSignificant numerator denominator, bounded⟩
  else .infinite negative

def isFinite : Binary64 → Bool
  | finite _ _ _ => true
  | _ => false

/-- Both zeros are. -/
def isZero : Binary64 → Bool
  | finite _ units _ => units = 0
  | _ => false

def finite? (value : Binary64) : Option Binary64 :=
  if value.isFinite then some value else none

/-- Strict order of values; the two zeros are equal and NaN is unordered. -/
def lt : Binary64 → Binary64 → Bool
  | nan _, _ => false
  | _, nan _ => false
  | infinite left, infinite right => left && !right
  | infinite left, finite _ _ _ => left
  | finite _ _ _, infinite right => !right
  | finite left units _, finite right others _ => signed left units < signed right others

def le : Binary64 → Binary64 → Bool
  | nan _, _ => false
  | _, nan _ => false
  | infinite left, infinite right => left || !right
  | infinite left, finite _ _ _ => left
  | finite _ _ _, infinite right => !right
  | finite left units _, finite right others _ => signed left units ≤ signed right others

/-- The encoding in 64 bits: sign, eleven bits of exponent, 52 of fraction. -/
def bits : Binary64 → Nat
  | nan negative => signBit negative + 0x7ff8000000000000
  | infinite negative => signBit negative + 0x7ff0000000000000
  | finite negative units _ =>
      if units < 1 <<< 53 then signBit negative + units
      else
        let exponent := units.log2 - 52
        signBit negative + exponent <<< 52 + units >>> exponent
where
  signBit (negative : Bool) : Nat := if negative then 1 <<< 63 else 0

end Binary64

end Foragers
