import Foragers.Binary64.Decimal

namespace Foragers.Binary64

/-! The shortest decimal of a number: among the decimals with the fewest digits
that are read back as the number, the one nearest to it. -/

structure Decimal where
  digits : Nat
  exponent : Int

/-- The exponent of ten that the first digit of a positive number stands for. -/
def leadingExponent (units : Nat) : Int :=
  if unitsPerOne ≤ units then (Nat.toDigits 10 (units / unitsPerOne)).length - 1
  else
    match (List.range 400).find? fun power => unitsPerOne ≤ units * Nat.pow 10 power with
    | some power => -power
    | none => 0

def scaled (units : Nat) (exponent : Int) : Nat × Nat :=
  (units * Nat.pow 10 (-exponent).toNat, unitsPerOne * Nat.pow 10 exponent.toNat)

def readsBack (units : Nat) (decimal : Decimal) : Bool :=
  match ofDecimal false decimal.digits decimal.exponent with
  | finite _ found _ => found = units
  | _ => false

/-- The nearest decimal that is read back among those of an exponent, a tie
being settled in favour of an even last digit. -/
def nearestWith? (units : Nat) (exponent : Int) : Option Decimal :=
  let (numerator, denominator) := scaled units exponent
  let nearest := roundHalfEven numerator denominator
  let below := numerator / denominator
  let candidates := [nearest, below, below + 1].map fun digits => Decimal.mk digits exponent
  candidates.find? (readsBack units)

/-- The shortest decimal of a positive number. Seventeen digits always suffice. -/
def shortestDecimal (units : Nat) : Decimal :=
  let leading := leadingExponent units
  let found := (List.range 17).findSome? fun (more : Nat) => nearestWith? units (leading - more)
  found.getD ⟨units, 0⟩

/-- The digits without the zeros at their end, and the exponent of the first one. -/
def Decimal.normal (decimal : Decimal) : List Char × Int :=
  let digits := Nat.toDigits 10 decimal.digits
  let exponent := decimal.exponent + digits.length - 1
  ((digits.reverse.dropWhile (· = '0')).reverse, exponent)

/-- Digits with a point behind the one of exponent zero, and at least one digit
at each side of the point. -/
def positional (digits : List Char) (exponent : Int) : List Char :=
  if exponent < 0 then '0' :: '.' :: List.replicate (-exponent - 1).toNat '0' ++ digits
  else
    let width := exponent.toNat + 1
    let whole := digits.take width
    let fraction := digits.drop width
    whole ++ List.replicate (width - digits.length) '0' ++ '.' ::
      (if fraction.isEmpty then ['0'] else fraction)

/-- Digits with a point behind the first one, and an exponent of at least two
digits with its sign. -/
def scientific (digits : List Char) (exponent : Int) : List Char :=
  let fraction := digits.drop 1
  digits.take 1 ++ (if fraction.isEmpty then [] else '.' :: fraction) ++
    'e' :: (if exponent < 0 then '-' else '+') :: Text.paddedDigits 10 2 exponent.natAbs

/-- The shortest decimal as text. It is positional for numbers from 1e-4 up to
but not including 1e16. -/
def shortest : Binary64 → String
  | nan _ => "nan"
  | infinite negative => if negative then "-inf" else "inf"
  | finite negative 0 _ => if negative then "-0.0" else "0.0"
  | finite negative units _ =>
      let (digits, exponent) := (shortestDecimal units).normal
      let text :=
        if -4 ≤ exponent && exponent < 16 then positional digits exponent
        else scientific digits exponent
      (if negative then "-" else "") ++ String.ofList text

end Foragers.Binary64
