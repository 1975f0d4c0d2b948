import Foragers.Binary64.Basic
import Foragers.Text.Digit

namespace Foragers.Binary64

/-! Decimal numbers: the nearest binary64 number to a decimal, and decimals
with a fixed number of places for a binary64 number. -/

/-- The number nearest to `digits * 10 ^ exponent`. A large positive exponent
gives infinity and a large negative one gives zero without the power of ten
being computed. -/
def ofDecimal (negative : Bool) (digits : Nat) (exponent : Int) : Binary64 :=
  if digits = 0 then .finite negative 0 representable_zero
  else if 400 < exponent then .infinite negative
  else if (digits.log2 : Int) + 1200 + 3 * exponent < 0 then .finite negative 0 representable_zero
  else
    ofQuotient negative
      (digits * unitsPerOne * Nat.pow 10 exponent.toNat)
      (Nat.pow 10 (-exponent).toNat)

/-- The value with a given number of decimal places, rounded half to even. The
sign of a negative number stays when only zeros are left. -/
def fixed (places : Nat) : Binary64 → String
  | nan _ => "nan"
  | infinite negative => if negative then "-inf" else "inf"
  | finite negative units _ =>
      let scaled := roundHalfEven (units * Nat.pow 10 places) unitsPerOne
      let digits := Text.paddedDigits 10 (places + 1) scaled
      let whole := String.ofList (digits.take (digits.length - places))
      let fraction := String.ofList (digits.drop (digits.length - places))
      (if negative then "-" else "") ++ whole ++ (if places = 0 then "" else "." ++ fraction)

end Foragers.Binary64
