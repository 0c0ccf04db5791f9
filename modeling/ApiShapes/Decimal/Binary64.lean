/-!
# Binary floating-point numbers

A number of the 64-bit format is its word.  Words are taken apart into sign, significand and
exponent, and a quotient of natural numbers is rounded to the nearest word, ties to the even
significand, in exact arithmetic.
-/

namespace ApiShapes

def twoTo (n : Nat) : Nat :=
  Nat.pow 2 n

def tenTo (n : Nat) : Nat :=
  Nat.pow 10 n

structure Binary64 where
  bits : UInt64
  deriving DecidableEq, Inhabited

namespace Binary64

/-- What a word stands for; a finite one for `significand * 2 ^ exponent`. -/
inductive Reading where
  | notANumber
  | infinite (negative : Bool)
  | finite (negative : Bool) (significand : Nat) (exponent : Int)
  deriving DecidableEq

def isNegative (x : Binary64) : Bool :=
  twoTo 63 ≤ x.bits.toNat

def exponentField (x : Binary64) : Nat :=
  x.bits.toNat / twoTo 52 % twoTo 11

def fractionField (x : Binary64) : Nat :=
  x.bits.toNat % twoTo 52

def reading (x : Binary64) : Reading :=
  if x.exponentField = 2047 then
    if x.fractionField = 0 then .infinite x.isNegative else .notANumber
  else if x.exponentField = 0 then .finite x.isNegative x.fractionField (-1074)
  else .finite x.isNegative (twoTo 52 + x.fractionField) (x.exponentField - 1075)

/-- The word with the given sign and the given remaining 63 bits. -/
def ofMagnitude (negative : Bool) (magnitude : Nat) : Binary64 :=
  ⟨UInt64.ofNat ((if negative then twoTo 63 else 0) + magnitude)⟩

def infinity (negative : Bool) : Binary64 :=
  ofMagnitude negative (2047 * twoTo 52)

def nan : Binary64 :=
  ofMagnitude false (2047 * twoTo 52 + twoTo 51)

def zero (negative : Bool) : Binary64 :=
  ofMagnitude negative 0

/-- The natural number nearest to `a / b`, of two the even one. -/
def roundQuotient (a b : Nat) : Nat :=
  let q := a / b
  let r := a % b
  if 2 * r < b then q
  else if b < 2 * r then q + 1
  else q + q % 2

/-- The exponent `e` with `2 ^ e ≤ num / den < 2 ^ (e + 1)`, for positive numbers. -/
def floorLog2 (num den : Nat) : Int :=
  let e : Int := (num.log2 : Int) - den.log2
  let reached :=
    if 0 ≤ e then den * twoTo e.toNat ≤ num else den ≤ num * twoTo (-e).toNat
  if reached then e else e - 1

/-- The word nearest to `num / den`.  A significand that rounds up to the next power of two
carries into the exponent field, and one that carries past the last exponent is infinite. -/
def ofQuotient (negative : Bool) (num den : Nat) : Binary64 :=
  if num = 0 then zero negative
  else
    let exponent := max (floorLog2 num den - 52) (-1074)
    let significand :=
      if 0 ≤ exponent then roundQuotient num (den * twoTo exponent.toNat)
      else roundQuotient (num * twoTo (-exponent).toNat) den
    let magnitude := (exponent + 1074).toNat * twoTo 52 + significand
    if magnitude < 2047 * twoTo 52 then ofMagnitude negative magnitude else infinity negative

/-- The word nearest to `digits * 10 ^ exponent`. -/
def ofDecimal (negative : Bool) (digits : Nat) (exponent : Int) : Binary64 :=
  if digits = 0 then zero negative
  else
    let leading : Int := (digits.log2 : Int) * 3 / 10 + exponent
    if 400 < leading then infinity negative
    else if leading < -500 - digits.log2 then zero negative
    else if 0 ≤ exponent then ofQuotient negative (digits * tenTo exponent.toNat) 1
    else ofQuotient negative digits (tenTo (-exponent).toNat)

/-- A finite number as a quotient. -/
def quotient? (x : Binary64) : Option (Int × Nat) :=
  match x.reading with
  | .finite negative significand exponent =>
    let signed : Int := if negative then -(significand : Int) else significand
    if 0 ≤ exponent then some (signed * twoTo exponent.toNat, 1)
    else some (signed, twoTo (-exponent).toNat)
  | _ => none

def add (x y : Binary64) : Binary64 :=
  match x.quotient?, y.quotient? with
  | some (a, b), some (c, d) =>
    let sum := a * d + c * b
    ofQuotient (sum < 0) sum.natAbs (b * d)
  | some _, none => y
  | none, some _ => x
  | none, none => if x = y then x else nan

/-- A number times the word nearest to a positive natural number. -/
def scale (x : Binary64) (n : Nat) : Binary64 :=
  match x.quotient?, (ofQuotient false n 1).quotient? with
  | some (a, b), some (c, d) => ofQuotient (a < 0) (a * c).natAbs (b * d)
  | _, _ => x

def negate (x : Binary64) : Binary64 :=
  ⟨x.bits ^^^ UInt64.ofNat (twoTo 63)⟩

/-- Whether two numbers compare as equal: a not-a-number differs from everything and the two
zeros are equal. -/
def numericallyEqual (x y : Binary64) : Bool :=
  match x.reading, y.reading with
  | .notANumber, _ => false
  | _, .notANumber => false
  | .finite _ 0 _, .finite _ 0 _ => true
  | _, _ => x.bits == y.bits

/-- The integer that a word stands for exactly. -/
def int? (x : Binary64) : Option Int :=
  match x.reading with
  | .finite negative significand exponent =>
    let magnitude : Option Nat :=
      if 0 ≤ exponent then some (significand * twoTo exponent.toNat)
      else if significand % twoTo (-exponent).toNat = 0 then
        some (significand / twoTo (-exponent).toNat)
      else none
    magnitude.map fun n => if negative then -(n : Int) else n
  | _ => none

end Binary64

end ApiShapes
