import Graft.Decimal.Shortest
import Graft.Text.Search
import Graft.Toml.Value

/-! # Scalars

Booleans, numbers, dates and times: the values that are written without quotes.  A scalar is read as
a whole, from its first character to its last. -/

namespace Graft.Toml

/-! ## Digits -/

/-- The value of a digit in bases up to sixteen. -/
def digitValue? (c : Char) : Option Nat :=
  if c.isDigit then some (c.toNat - 48)
  else if 'a' ≤ c ∧ c ≤ 'f' then some (c.toNat - 87)
  else if 'A' ≤ c ∧ c ≤ 'F' then some (c.toNat - 55)
  else none

/-- The digits of a number, without the underscores that may stand singly between two digits. -/
def digits? (base : Nat) (t : Text) : Option (List Nat) :=
  let runs := t.pieces (· == '_')
  if runs.any List.isEmpty then none
  else runs.flatten.mapM fun c => (digitValue? c).filter (· < base)

/-- The number with the given digits, the highest first. -/
def ofDigits (base : Nat) (digits : List Nat) : Nat :=
  digits.foldl (fun n digit => n * base + digit) 0

/-- The digits of a decimal number, which starts with zero only when it is zero. -/
def decimalDigits? (t : Text) : Option (List Nat) := do
  let digits ← digits? 10 t
  match digits with
  | 0 :: _ :: _ => none
  | _ => some digits

/-- A text without its sign, and whether the sign was a minus. -/
def splitSign : Text → Bool × Text
  | '-' :: rest => (true, rest)
  | '+' :: rest => (false, rest)
  | t => (false, t)

/-! ## Numbers -/

/-- An integer of 64 bits: decimal with an optional sign, or hexadecimal, octal or binary. -/
def integer? (t : Text) : Option Int := do
  let n : Int ←
    match t with
    | '0' :: 'x' :: rest => (digits? 16 rest).map fun digits => (ofDigits 16 digits : Int)
    | '0' :: 'o' :: rest => (digits? 8 rest).map fun digits => (ofDigits 8 digits : Int)
    | '0' :: 'b' :: rest => (digits? 2 rest).map fun digits => (ofDigits 2 digits : Int)
    | _ => do
      let (isNegative, rest) := splitSign t
      let digits ← decimalDigits? rest
      let n : Int := ofDigits 10 digits
      some (if isNegative then -n else n)
  if Int64.minValue.toInt ≤ n ∧ n ≤ Int64.maxValue.toInt then some n else none

/-- A signed exponent. -/
def exponent? (t : Text) : Option Int := do
  let (isNegative, rest) := splitSign t
  let n : Int := ofDigits 10 (← digits? 10 rest)
  some (if isNegative then -n else n)

/-- A number with a fraction, an exponent or both. -/
def fractional? (t : Text) : Option Float := do
  let mantissa := t.takeWhile fun c => c ≠ 'e' ∧ c ≠ 'E'
  let power := t.drop mantissa.length
  let exponent ←
    match power with
    | [] => some 0
    | _ :: rest => exponent? rest
  match Text.pieces (· == '.') mantissa with
  | [whole] =>
    if power = [] then none
    else Decimal.toFloat? { digits := ofDigits 10 (← decimalDigits? whole), exponent }
  | [whole, fraction] =>
    let places ← digits? 10 fraction
    let digits := ofDigits 10 ((← decimalDigits? whole) ++ places)
    Decimal.toFloat? { digits, exponent := exponent - places.length }
  | _ => none

/-- A floating-point number. -/
def float? (t : Text) : Option Float := do
  let (isNegative, rest) := splitSign t
  let x ←
    if rest = "inf" then some (1.0 / 0.0)
    else if rest = "nan" then some (0.0 / 0.0)
    else fractional? rest
  some (if isNegative then -x else x)

/-! ## Dates and times -/

/-- The number that `count` decimal digits at the front of a text make, and what follows them. -/
def fixedDigits? (count : Nat) (t : Text) : Option (Nat × Text) := do
  let front := t.take count
  if front.length = count ∧ front.all Char.isDigit then
    some (ofDigits 10 (front.filterMap digitValue?), t.drop count)
  else none

/-- The rest of a text that starts with `c`. -/
def afterChar? (c : Char) : Text → Option Text
  | [] => none
  | d :: rest => if c = d then some rest else none

/-- The number of days of a month. -/
def daysOf (year month : Nat) : Nat :=
  if month = 2 then
    if year % 4 = 0 ∧ (year % 100 ≠ 0 ∨ year % 400 = 0) then 29 else 28
  else if month ∈ [4, 6, 9, 11] then 30
  else 31

/-- What follows a date. -/
def afterDate? (t : Text) : Option Text := do
  let (year, t) ← fixedDigits? 4 t
  let (month, t) ← fixedDigits? 2 (← afterChar? '-' t)
  let (day, t) ← fixedDigits? 2 (← afterChar? '-' t)
  if 1 ≤ month ∧ month ≤ 12 ∧ 1 ≤ day ∧ day ≤ daysOf year month then some t else none

/-- What follows hours and minutes. -/
def afterMinutes? (t : Text) : Option Text := do
  let (hour, t) ← fixedDigits? 2 t
  let (minute, t) ← fixedDigits? 2 (← afterChar? ':' t)
  if hour ≤ 23 ∧ minute ≤ 59 then some t else none

/-- What follows a time.  Seconds may be left out, and a second may be a leap second. -/
def afterTime? (t : Text) : Option Text := do
  let t ← afterMinutes? t
  match t with
  | ':' :: t =>
    let (second, t) ← fixedDigits? 2 t
    if 60 < second then none
    else match t with
      | '.' :: t =>
        let places := t.takeWhile Char.isDigit
        if places = [] then none else some (t.drop places.length)
      | _ => some t
  | _ => some t

/-- Whether a text is an offset from universal time. -/
def isOffset : Text → Bool
  | ['Z'] | ['z'] => true
  | '+' :: t | '-' :: t => (afterMinutes? t).any List.isEmpty
  | _ => false

/-- Whether a text is a date, a time, or both with an optional offset. -/
def isMoment (t : Text) : Bool :=
  match afterDate? t with
  | some [] => true
  | some (separator :: t) =>
    (separator == 'T' || separator == 't' || separator == ' ') &&
      (afterTime? t).any fun rest => rest.isEmpty || isOffset rest
  | none => (afterTime? t).any List.isEmpty

/-! ## Any scalar -/

/-- A character of a scalar. -/
def isScalarChar (c : Char) : Bool :=
  c.isAlphanum || c == '_' || c == '+' || c == '-' || c == '.' || c == ':'

/-- The value that a scalar denotes. -/
def scalarValue? (t : Text) : Option Value :=
  if t = "true" then some (.boolean true)
  else if t = "false" then some (.boolean false)
  else if isMoment t then some .moment
  else match integer? t with
    | some n => some (.integer n)
    | none => (float? t).map .float

/-- The scalar at the front of a text.  A space belongs to it only between a date and a time. -/
def scalar? (t : Text) : Option (Value × Text) := do
  let front := t.takeWhile isScalarChar
  let rest := t.drop front.length
  let whole :=
    match rest with
    | ' ' :: time =>
      if afterDate? front = some [] ∧ time.head?.any Char.isDigit then
        front ++ ' ' :: time.takeWhile isScalarChar
      else front
    | _ => front
  let value ← scalarValue? whole
  some (value, t.drop whole.length)

end Graft.Toml
