import ApiShapes.Decimal.Digits
import ApiShapes.Text.Lines
import ApiShapes.Text.Piece

/-!
# Brace balance of a TypeSpec source

A structural check: a source has content, and its braces open as often as they close.  Lines that
start with a comment are not counted.
-/

namespace ApiShapes.TypeSpec

inductive BalanceFault where
  | empty
  | missing (braces : Nat)
  | extra (braces : Nat)
  deriving DecidableEq

def BalanceFault.message : BalanceFault → String
  | .empty => "TypeSpec source is empty"
  | .missing n =>
    "Unbalanced braces: " ++ String.ofList (Decimal.digits n) ++ " missing closing brace(s)"
  | .extra n =>
    "Unbalanced braces: " ++ String.ofList (Decimal.digits n) ++ " extra closing brace(s)"

/-- How far the braces of a line open more than they close; a comment line has none. -/
def braceExcess (line : List Char) : Int :=
  if Text.startsWith ['/', '/'] (Text.trim line) then 0
  else (line.count '\x7b' : Int) - line.count '\x7d'

/-- How far the braces of all lines open more than they close. -/
def braceDepth (lines : List (List Char)) : Int :=
  lines.foldl (fun depth line => depth + braceExcess line) 0

def balanceFault? (source : String) : Option BalanceFault :=
  let text := source.toList
  if (Text.trim text).isEmpty then some .empty
  else
    let depth := braceDepth (Text.lines text)
    if 0 < depth then some (.missing depth.toNat)
    else if depth < 0 then some (.extra (-depth).toNat)
    else none

/-- The messages about a source. -/
def validateSource (source : String) : List String :=
  ((balanceFault? source).map BalanceFault.message).toList

end ApiShapes.TypeSpec
