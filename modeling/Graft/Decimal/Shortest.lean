import Graft.Text.Basic

/-! # Shortest decimals

A double-precision number as the decimal of fewest digits that reads back as the same number, and of
those the nearest.  All comparisons are exact, in natural numbers. -/

namespace Graft

/-- The number `digits * 10 ^ exponent`. -/
structure Decimal where
  digits : Nat
  exponent : Int
  deriving DecidableEq, Repr

/-- A positive number `value * 2 ^ scale` with the bounds of what reads back as it, in the same
unit.  The bounds belong to it when `closed` holds. -/
structure Rounded where
  low : Nat
  value : Nat
  high : Nat
  closed : Bool
  scale : Int
  deriving Repr

/-- The positive finite number of given bits. -/
def Rounded.ofBits (bits : Nat) : Rounded :=
  let fraction := bits % Nat.pow 2 52
  let power := bits / Nat.pow 2 52 % Nat.pow 2 11
  let mantissa := if power = 0 then fraction else fraction + Nat.pow 2 52
  let scale : Int := (max power 1 : Nat) - 1077
  let isLowest := fraction = 0 ∧ 1 < power
  { low := if isLowest then 4 * mantissa - 1 else 4 * mantissa - 2
    value := 4 * mantissa
    high := 4 * mantissa + 2
    closed := mantissa % 2 = 0
    scale }

/-- What `a * 2 ^ scale` and `d * 10 ^ exponent` are to be multiplied with to compare them: the
factors of `a` and of `d`. -/
def Decimal.factors (scale exponent : Int) : Nat × Nat :=
  (Nat.pow 2 scale.toNat * Nat.pow 10 (-exponent).toNat,
    Nat.pow 2 (-scale).toNat * Nat.pow 10 exponent.toNat)

/-- Whether `digits * 10 ^ exponent` reads back as the number. -/
def Rounded.admits (number : Rounded) (exponent : Int) (digits : Nat) : Bool :=
  let (a, d) := Decimal.factors number.scale exponent
  if number.closed then number.low * a ≤ digits * d && digits * d ≤ number.high * a
  else number.low * a < digits * d && digits * d < number.high * a

/-- The multiple of `10 ^ exponent` that reads back as the number and is nearest to it. -/
def Rounded.onGrid? (number : Rounded) (exponent : Int) : Option Decimal :=
  let (a, d) := Decimal.factors number.scale exponent
  let below := number.value * a / d
  let rest := number.value * a - below * d
  let nearer := if 2 * rest < d then [below, below + 1] else [below + 1, below]
  (nearer.find? (number.admits exponent)).map fun digits => { digits, exponent }

/-- The exponent of the first digit of the number. -/
def Rounded.leading (number : Rounded) : Int :=
  let candidates := (List.range 640).map fun i : Nat => (310 : Int) - i
  let fits (exponent : Int) : Bool :=
    let (a, d) := Decimal.factors number.scale exponent
    d ≤ number.value * a
  (candidates.find? fits).getD 0

/-- The shortest decimal that reads back as the number. -/
def Rounded.shortest (number : Rounded) : Decimal :=
  let first := number.leading
  let grids := (List.range 17).map fun i : Nat => first - i
  (grids.findSome? number.onGrid?).getD { digits := 0, exponent := 0 }

/-! ## Writing -/

/-- The decimal without zeros at the end of its digits; at most `fuel` of them. -/
def Decimal.stripped (decimal : Decimal) : Nat → Decimal
  | 0 => decimal
  | fuel + 1 =>
    if decimal.digits ≠ 0 ∧ decimal.digits % 10 = 0 then
      stripped { digits := decimal.digits / 10, exponent := decimal.exponent + 1 } fuel
    else decimal

/-- A decimal in positional notation, with at least one digit on either side of the point. -/
def Decimal.positional (decimal : Decimal) : Text :=
  let { digits, exponent } := decimal.stripped 20
  let shown := Nat.toDigits 10 digits
  if 0 ≤ exponent then shown ++ List.replicate exponent.toNat '0' ++ ".0"
  else
    let places := (-exponent).toNat
    if places < shown.length then
      shown.take (shown.length - places) ++ "." ++ shown.drop (shown.length - places)
    else "0." ++ List.replicate (places - shown.length) '0' ++ shown

/-- A number as the shortest decimal that reads back, never with an exponent. -/
def Decimal.floatText (x : Float) : Text :=
  let bits := x.toBits.toNat
  let sign : Text := if Nat.pow 2 63 ≤ bits then "-" else ""
  let size := bits % Nat.pow 2 63
  if x.isNaN then "NaN"
  else if x.isInf then sign ++ "inf"
  else if size = 0 then sign ++ "0.0"
  else sign ++ (Rounded.ofBits size).shortest.positional

/-- The double-precision number nearest to a decimal; none when it would be infinite. -/
def Decimal.toFloat? (decimal : Decimal) : Option Float :=
  let { digits, exponent } := decimal
  let magnitude := exponent + (Nat.toDigits 10 digits).length
  if digits = 0 ∨ magnitude < -400 then some 0.0
  else if 400 < magnitude then none
  else
    let x := if exponent < 0 then Float.ofScientific digits true (-exponent).toNat
      else Float.ofScientific digits false exponent.toNat
    if x.isInf then none else some x

end Graft
