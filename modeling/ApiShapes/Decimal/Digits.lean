/-!
# Digits of natural numbers

Reading and writing natural numbers in bases up to sixteen, as lists of characters.
-/

namespace ApiShapes.Decimal

/-- The value of a digit, a letter counting from ten. -/
def digitValue? (c : Char) : Option Nat :=
  if '0' ≤ c ∧ c ≤ '9' then some (c.toNat - '0'.toNat)
  else if 'a' ≤ c ∧ c ≤ 'f' then some (c.toNat - 'a'.toNat + 10)
  else if 'A' ≤ c ∧ c ≤ 'F' then some (c.toNat - 'A'.toNat + 10)
  else none

/-- The number that a list of digits of the base denotes; none if it is empty or another
character occurs. -/
def ofDigits? (base : Nat) (digits : List Char) : Option Nat :=
  if digits.isEmpty then none
  else
    digits.foldlM
      (fun n c => do
        let d ← digitValue? c
        if d < base then some (n * base + d) else none)
      0

/-- The decimal digits of a number, without leading zeros. -/
def digits (n : Nat) : List Char :=
  Nat.toDigits 10 n

/-- A number written with at least `width` decimal digits. -/
def padded (width n : Nat) : List Char :=
  List.replicate (width - (digits n).length) '0' ++ digits n

def intDigits (n : Int) : List Char :=
  if n < 0 then '-' :: digits n.natAbs else digits n.natAbs

/-- A number written with at least `width` hexadecimal digits, the letters small. -/
def hexPadded (width n : Nat) : List Char :=
  let text := Nat.toDigits 16 n
  List.replicate (width - text.length) '0' ++ text

end ApiShapes.Decimal
