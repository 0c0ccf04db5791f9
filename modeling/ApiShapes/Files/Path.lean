import ApiShapes.Codec
import ApiShapes.Text.Case
import ApiShapes.Text.Piece

/-!
# Paths of files

A path is a list of names.  Empty names and single dots do not count, so `./a//b` is `a/b`.  The
suffix of a name starts at its last dot, unless the name starts or ends there.
-/

namespace ApiShapes

structure Path where
  rooted : Bool
  names : List String
  deriving DecidableEq

namespace Path

def ofText (s : String) : Path :=
  { rooted := s.toList.head? == some '/'
    names := ((Text.splitAt '/' s.toList).map String.ofList).filter fun n => n != "" && n != "." }

/-- The names joined by slashes; the path without names is written as a dot. -/
def text (p : Path) : String :=
  let joined := "/".intercalate p.names
  if p.rooted then "/" ++ joined else if p.names.isEmpty then "." else joined

def name (p : Path) : String :=
  p.names.getLast?.getD ""

def parent (p : Path) : Path :=
  { p with names := p.names.dropLast }

/-- The suffix of the last name with its dot, or nothing. -/
def suffix (p : Path) : String :=
  let name := p.name.toList
  match Text.beforeLast? ['.'] name with
  | some stem => if stem.isEmpty || stem.length + 1 = name.length then "" else
      String.ofList (name.drop stem.length)
  | none => ""

/-- The suffix in small letters. -/
def smallSuffix (p : Path) : String :=
  String.ofList (Text.lower p.suffix.toList)

def isYaml (p : Path) : Bool :=
  p.smallSuffix == ".yml" || p.smallSuffix == ".yaml"

def isTypeSpec (p : Path) : Bool :=
  p.smallSuffix == ".tsp"

/-- The codec of a file follows from its suffix: everything that is not YAML is JSON. -/
def codec (p : Path) : Codec :=
  if p.isYaml then .yaml else .json

/-- Whether a path lies below another one. -/
def isBelow (p q : Path) : Bool :=
  p.rooted == q.rooted && q.names.length < p.names.length && q.names.isPrefixOf p.names

end Path

end ApiShapes
