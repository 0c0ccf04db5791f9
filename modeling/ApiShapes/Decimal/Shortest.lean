import ApiShapes.Decimal.Binary64
import ApiShapes.Decimal.Digits

/-!
# Shortest decimal text of a floating-point number

The digits written for a finite number are the fewest that read back as the same number, and of
those the nearest to it.  A number is written positionally when its decimal exponent lies between
-4 and 15, with an exponent otherwise.
-/

namespace ApiShapes.Decimal

/-- The reals that round to a number, and the number itself, over a common denominator. -/
structure Interval where
  low : Nat
  value : Nat
  high : Nat
  den : Nat
  closed : Bool

/-- Neighbouring numbers lie half a unit away on either side, below a power of two a quarter;
the ends round to the number itself exactly when its significand is even. -/
def roundingInterval (significand : Nat) (exponent : Int) : Interval :=
  let below := if significand = twoTo 52 ∧ -1074 < exponent then 1 else 2
  let e := exponent - 2
  let factor := twoTo e.toNat
  { low := (4 * significand - below) * factor
    value := 4 * significand * factor
    high := (4 * significand + 2) * factor
    den := twoTo (-e).toNat
    closed := significand % 2 = 0 }

/-- The exponent `e` with `10 ^ e ≤ num / den < 10 ^ (e + 1)`, for positive numbers. -/
def floorLog10 (num den : Nat) : Int :=
  let e : Int := ((digits num).length : Int) - (digits den).length
  let reached :=
    if 0 ≤ e then den * tenTo e.toNat ≤ num else den ≤ num * tenTo (-e).toNat
  if reached then e else e - 1

/-- The multiple of `10 ^ unit` in the interval that is nearest to the value, of two equally near
ones the even multiple. -/
def nearestOnGrid? (interval : Interval) (unit : Int) : Option Nat :=
  let up := tenTo (-unit).toNat
  let step := interval.den * tenTo unit.toNat
  let value := interval.value * up
  let low := interval.low * up
  let high := interval.high * up
  let c := value / step
  let lower := if interval.closed then low ≤ c * step else low < c * step
  let upper := if interval.closed then (c + 1) * step ≤ high else (c + 1) * step < high
  let fromBelow := value - c * step
  let fromAbove := (c + 1) * step - value
  if lower ∧ upper then
    if fromBelow < fromAbove then some c
    else if fromAbove < fromBelow then some (c + 1)
    else some (c + c % 2)
  else if lower then some c
  else if upper then some (c + 1)
  else none

/-- The fewest significant digits that read back, with the exponent of the last one.  Seventeen
digits always do. -/
def shortest (significand : Nat) (exponent : Int) : Nat × Int :=
  let interval := roundingInterval significand exponent
  let top := floorLog10 interval.value interval.den
  let found := (List.range 17).findSome? fun n : Nat =>
    (nearestOnGrid? interval (top - n)).map fun c => (c, top - (n : Int))
  found.getD (0, 0)

/-- Digits without the zeros at their end. -/
def significantDigits (n : Nat) : List Char :=
  ((digits n).reverse.dropWhile (· == '0')).reverse

/-- Digits with a point after the first of them and an exponent of at least two digits. -/
def scientific (ds : List Char) (exponent : Int) : List Char :=
  let mantissa :=
    match ds with
    | [] => ['0']
    | [d] => [d]
    | d :: rest => d :: '.' :: rest
  let sign := if exponent < 0 then '-' else '+'
  mantissa ++ 'e' :: sign :: padded 2 exponent.natAbs

/-- Digits with the point where the exponent of the first digit puts it, and at least one digit
on either side of it. -/
def positional (ds : List Char) (exponent : Int) : List Char :=
  if exponent < 0 then
    '0' :: '.' :: (List.replicate (-exponent - 1).toNat '0' ++ ds)
  else
    let whole := exponent.toNat + 1
    let intPart := ds.take whole ++ List.replicate (whole - ds.length) '0'
    let fraction := ds.drop whole
    intPart ++ '.' :: (if fraction.isEmpty then ['0'] else fraction)

/-- The text of a finite number. -/
def finiteText (negative : Bool) (significand : Nat) (exponent : Int) : List Char :=
  let body :=
    if significand = 0 then ['0', '.', '0']
    else
      let (c, unit) := shortest significand exponent
      let ds := significantDigits c
      let first := unit + (digits c).length - 1
      if -4 ≤ first ∧ first < 16 then positional ds first else scientific ds first
  if negative then '-' :: body else body

/-- The texts of the numbers that have no digits. -/
structure SpecialTexts where
  notANumber : String
  infinite : String
  negativeInfinite : String

def floatText (special : SpecialTexts) (x : Binary64) : List Char :=
  match x.reading with
  | .notANumber => special.notANumber.toList
  | .infinite false => special.infinite.toList
  | .infinite true => special.negativeInfinite.toList
  | .finite negative significand exponent => finiteText negative significand exponent

/-- The plain texts `nan`, `inf` and `-inf`. -/
def plainSpecials : SpecialTexts :=
  ⟨"nan", "inf", "-inf"⟩

/-- A decimal text split into its parts: sign, whole digits, fraction digits, exponent. -/
structure Parts where
  negative : Bool
  whole : List Char
  fraction : List Char
  exponent : Int

/-- The number nearest to a decimal text. -/
def Parts.value (parts : Parts) : Binary64 :=
  let n := (ofDigits? 10 (parts.whole ++ parts.fraction)).getD 0
  Binary64.ofDecimal parts.negative n (parts.exponent - parts.fraction.length)

def isDigit (c : Char) : Bool :=
  '0' ≤ c && c ≤ '9'

/-- An optional sign, whether it is negative, and the text after it. -/
def takeSign : List Char → Bool × List Char
  | '-' :: rest => (true, rest)
  | '+' :: rest => (false, rest)
  | s => (false, s)

/-- The digits after a leading point, if there is one, and the text after them. -/
def takePoint : List Char → List Char × List Char
  | '.' :: rest => (rest.takeWhile isDigit, rest.dropWhile isDigit)
  | s => ([], s)

/-- Reads a decimal text: digits with an optional point and an optional exponent. -/
def parts? (s : List Char) : Option Parts :=
  let (negative, s) := takeSign s
  let whole := s.takeWhile isDigit
  let s := s.dropWhile isDigit
  let (fraction, s) := takePoint s
  if whole.isEmpty && fraction.isEmpty then none
  else
    match s with
    | [] => some ⟨negative, whole, fraction, 0⟩
    | e :: rest =>
      if e == 'e' || e == 'E' then
        let (below, rest) := takeSign rest
        (ofDigits? 10 rest).map fun n =>
          ⟨negative, whole, fraction, if below then -(n : Int) else n⟩
      else none

/-- Reads a decimal text or one of the plain texts of special numbers. -/
def float? (s : List Char) : Option Binary64 :=
  let (negative, unsigned) := takeSign s
  if unsigned = "nan".toList then some .nan
  else if unsigned = "inf".toList ∨ unsigned = "infinity".toList then some (.infinity negative)
  else (parts? s).map Parts.value

end ApiShapes.Decimal
