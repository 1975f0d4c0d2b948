import Foragers.Binary64.Basic

namespace Foragers.Binary64

/-! Correctly rounded operations: the exact result is taken first and rounded
once, to nearest with ties to even. -/

/-- The nearest number to an integer, or `none` when the integer is too large
to have a finite one. -/
def ofInt? (value : Int) : Option Binary64 :=
  (ofQuotient (value < 0) (value.natAbs * unitsPerOne) 1).finite?

/-- The nearest number to an exact quotient, or `none` when it is too large. -/
def ofRatio? (numerator : Int) (denominator : Nat) : Option Binary64 :=
  (ofQuotient (numerator < 0) (numerator.natAbs * unitsPerOne) denominator).finite?

def neg : Binary64 → Binary64
  | nan negative => nan !negative
  | infinite negative => infinite !negative
  | finite negative units representable => finite (!negative) units representable

def mul : Binary64 → Binary64 → Binary64
  | nan negative, _ => nan negative
  | _, nan negative => nan negative
  | infinite left, infinite right => infinite (left != right)
  | infinite left, finite right units _ =>
      if units = 0 then nan false else infinite (left != right)
  | finite left units _, infinite right =>
      if units = 0 then nan false else infinite (left != right)
  | finite left units _, finite right others _ =>
      ofQuotient (left != right) (units * others) unitsPerOne

/-- A sum of opposite numbers is the positive zero. -/
def add : Binary64 → Binary64 → Binary64
  | nan negative, _ => nan negative
  | _, nan negative => nan negative
  | infinite left, infinite right => if left = right then infinite left else nan false
  | infinite left, finite _ _ _ => infinite left
  | finite _ _ _, infinite right => infinite right
  | finite left units _, finite right others _ =>
      let total := signed left units + signed right others
      let negative := total < 0 || (left && right)
      ofQuotient negative total.natAbs 1

/-- The value of a finite number, in units. -/
def units? : Binary64 → Option Int
  | finite negative units _ => some (signed negative units)
  | _ => none

/-- The integer part of the value, the fraction being dropped. -/
def truncate? (value : Binary64) : Option Int :=
  value.units?.map fun units => units.tdiv (unitsPerOne : Int)

end Foragers.Binary64
