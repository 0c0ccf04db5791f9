import ApiShapes.Yaml.Style

/-!
# Writing YAML texts

Values are written in block style: an entry of a record or an item of a list a line, nested
collections two blanks further in, the items of a list that is an entry's value not further in
than its key.  Every node ends its last line.
-/

namespace ApiShapes.Yaml

/-- A scalar to be written: the short form of its tag, whether that is shown, its text and
style.  Bytes are written as lines of their own. -/
inductive Written where
  | styled (tagName : String) (tagShown : Bool) (style : Style) (text : List Char)
  | lines (tagName : String) (parts : List (List Char))

def specialFloatTexts : Decimal.SpecialTexts :=
  ⟨".nan", ".inf", "-.inf"⟩

/-- The text of a float; an exponent goes with a point. -/
def floatText (x : Binary64) : List Char :=
  let s := Decimal.floatText specialFloatTexts x
  if s.contains '.' then s
  else
    match Text.cut? ['e'] s with
    | some (mantissa, exponent) => mantissa ++ '.' :: '0' :: 'e' :: exponent
    | none => s

def base64Digit (n : Nat) : Char :=
  if n < 26 then Char.ofNat ('A'.toNat + n)
  else if n < 52 then Char.ofNat ('a'.toNat + (n - 26))
  else if n < 62 then Char.ofNat ('0'.toNat + (n - 52))
  else if n = 62 then '+'
  else '/'

/-- Octets in base 64, three to four digits, filled up with `=`. -/
def base64 : List UInt8 → List Char
  | a :: b :: c :: rest =>
    let n := a.toNat * 65536 + b.toNat * 256 + c.toNat
    base64Digit (n / 262144) :: base64Digit (n / 4096 % 64) :: base64Digit (n / 64 % 64) ::
      base64Digit (n % 64) :: base64 rest
  | [a, b] =>
    let n := a.toNat * 1024 + b.toNat * 4
    [base64Digit (n / 4096), base64Digit (n / 64 % 64), base64Digit (n % 64), '=']
  | [a] =>
    let n := a.toNat * 16
    [base64Digit (n / 64), base64Digit (n % 64), '=', '=']
  | [] => []

/-- Parts of a length, the last one perhaps shorter. -/
def chunks (size : Nat) (s : List Char) : List (List Char) :=
  if _ : s.isEmpty ∨ size = 0 then []
  else s.take size :: chunks size (s.drop size)
termination_by s.length
decreasing_by
  cases s <;> simp_all
  omega

def plainScalar (tagName : String) (text : List Char) : Written :=
  .styled tagName false .plain text

/-- How a value that is no collection is written. -/
def written? : Value → Option Written
  | .null => some (plainScalar "!!null" "null".toList)
  | .bool true => some (plainScalar "!!bool" "true".toList)
  | .bool false => some (plainScalar "!!bool" "false".toList)
  | .int n => some (plainScalar "!!int" (Decimal.intDigits n))
  | .float x => some (plainScalar "!!float" (floatText x))
  | .date d => some (plainScalar "!!timestamp" d.isoText)
  | .moment t => some (plainScalar "!!timestamp" (t.isoText ' '))
  | .text s => some (.styled "!!str" false (textStyle s.toList) s.toList)
  | .bytes [] => some (.styled "!!binary" true .double [])
  | .bytes octets => some (.lines "!!binary" (chunks 76 (base64 octets)))
  | .list _ | .record _ | .set _ | .pair _ _ => none

/-- Keys of this length and longer are marked. -/
def keyLimit : Nat := 128

/-- Whether a scalar can be a key without a mark: it is short and fits on one line. -/
def Written.isSimpleKey : Written → Bool
  | .styled tagName _ _ text =>
    tagName.length + text.length < keyLimit && !text.isEmpty && !text.any isWrittenBreak
  | .lines .. => false

/-- A scalar from a column on, with the end of its line; later lines are indented. -/
def Written.text (indent column : Nat) : Written → List Char
  | .styled tagName shown style text =>
    let tag := if shown then tagName.toList ++ [' '] else []
    tag ++ styledText style true indent (column + tag.length) text ++ ['\n']
  | .lines tagName parts =>
    tagName.toList ++ ' ' :: '|' :: parts.flatMap (freshLine indent ++ ·) ++ ['\n']

/-- A scalar as a key without a mark, on one line. -/
def Written.keyText : Written → List Char
  | .styled tagName shown style text =>
    (if shown then tagName.toList ++ [' '] else []) ++ styledText style false 0 0 text
  | .lines .. => []

/-- Parts that start at a column, each on lines of its own. -/
def stacked (indent : Nat) (parts : List (List Char)) : List Char :=
  (List.replicate indent ' ').intercalate parts

/-- Parts on the line after a tag or a key. -/
def below (indent : Nat) (parts : List (List Char)) : List Char :=
  freshLine indent ++ stacked indent parts

mutual

/-- What follows the mark of an item or entry that stands at a column. -/
def afterMark (indent : Nat) (v : Value) : List Char :=
  match v with
  | .list items =>
    if items.isEmpty then " []\n".toList
    else ' ' :: stacked (indent + 2) (itemParts (indent + 2) items)
  | .pair a b =>
    ' ' :: stacked (indent + 2)
      ['-' :: afterMark (indent + 2) a, '-' :: afterMark (indent + 2) b]
  | .record entries =>
    if entries.isEmpty then " \x7b\x7d\n".toList
    else ' ' :: stacked (indent + 2) (entryParts (indent + 2) entries)
  | .set items =>
    if items.isEmpty then " !!set \x7b\x7d\n".toList
    else " !!set".toList ++ below (indent + 2) (memberParts (indent + 2) items)
  | v =>
    match written? v with
    | some scalar => ' ' :: scalar.text (indent + 2) (indent + 2)
    | none => ['\n']

/-- What follows a key and its colon, given the column that they reach. -/
def afterKey (indent column : Nat) (v : Value) : List Char :=
  match v with
  | .list items =>
    if items.isEmpty then " []\n".toList else below indent (itemParts indent items)
  | .pair a b => below indent ['-' :: afterMark indent a, '-' :: afterMark indent b]
  | .record entries =>
    if entries.isEmpty then " \x7b\x7d\n".toList
    else below (indent + 2) (entryParts (indent + 2) entries)
  | .set items =>
    if items.isEmpty then " !!set \x7b\x7d\n".toList
    else " !!set".toList ++ below (indent + 2) (memberParts (indent + 2) items)
  | v =>
    match written? v with
    | some scalar => ' ' :: scalar.text (indent + 2) (column + 1)
    | none => ['\n']

/-- The items of a list at a column. -/
def itemParts (indent : Nat) : List Value → List (List Char)
  | [] => []
  | v :: rest => ('-' :: afterMark indent v) :: itemParts indent rest

/-- The entries of a record at a column; a key that is not simple is marked, and so is its
value. -/
def entryParts (indent : Nat) : List (Value × Value) → List (List Char)
  | [] => []
  | (key, v) :: rest =>
    let marked := '?' :: afterMark indent key ++ List.replicate indent ' ' ++
      ':' :: afterMark indent v
    let part :=
      match written? key with
      | some scalar =>
        if scalar.isSimpleKey then
          let text := scalar.keyText
          text ++ ':' :: afterKey indent (indent + text.length + 1) v
        else marked
      | none => marked
    part :: entryParts indent rest

/-- The members of a set: keys without values. -/
def memberParts (indent : Nat) : List Value → List (List Char)
  | [] => []
  | key :: rest =>
    let marked := '?' :: afterMark indent key ++ List.replicate indent ' ' ++ ": null\n".toList
    let part :=
      match written? key with
      | some scalar =>
        if scalar.isSimpleKey then scalar.keyText ++ ": null\n".toList else marked
      | none => marked
    part :: memberParts indent rest

end

/-- A plain scalar at the root is followed by the mark of a document's end. -/
def Written.rootText (scalar : Written) : List Char :=
  let s := scalar.text 2 0
  match scalar with
  | .styled _ _ .plain _ => s ++ "...\n".toList
  | _ => s

/-- The lines of a value that is a document. -/
def documentText (v : Value) : List Char :=
  match v with
  | .list items => if items.isEmpty then "[]\n".toList else stacked 0 (itemParts 0 items)
  | .pair a b => stacked 0 ['-' :: afterMark 0 a, '-' :: afterMark 0 b]
  | .record entries =>
    if entries.isEmpty then "\x7b\x7d\n".toList else stacked 0 (entryParts 0 entries)
  | .set items =>
    if items.isEmpty then "!!set \x7b\x7d\n".toList
    else "!!set".toList ++ below 0 (memberParts 0 items)
  | v => (written? v).elim [] Written.rootText

/-- A value as a document. -/
def write (v : Value) : String :=
  String.ofList (documentText v)

end ApiShapes.Yaml
