import ApiShapes.Entries
import ApiShapes.Text.Blank
import ApiShapes.Text.Piece

/-!
# Environment files

A file of variables has one binding `KEY=value` a line, perhaps after the word `export`.  Values
may stand in quotes, comments start with a number sign, and a name in braces after a dollar sign
stands for the value of a variable.  Lines of another form are passed over.
-/

namespace ApiShapes.CommandLine

/-- A variable with its value; one without an equals sign has none. -/
abbrev Binding := String × Option String

/-- Something read, with the text left, or the text left where reading failed. -/
abbrev Taken (α : Type) := Except (List Char) (α × List Char)

def isLineEnd (c : Char) : Bool :=
  c == '\n' || c == '\r'

/-- Blanks within a line. -/
def isInlineBlank (c : Char) : Bool :=
  Text.isBlank c && !isLineEnd c

def skipInline (s : List Char) : List Char :=
  s.dropWhile isInlineBlank

/-- A text in quotes after the opening one; a backslash keeps a quote from closing it if another
quote follows. -/
def takeQuoted? (quote : Char) : List Char → Option (List Char × List Char)
  | [] => none
  | c :: rest =>
    if c = quote then some ([], rest)
    else if c = '\\' then
      match rest with
      | [] => none
      | d :: after =>
        if d = quote then
          match takeQuoted? quote after with
          | some (s, left) => some (c :: d :: s, left)
          | none => some ([c], after)
        else (takeQuoted? quote (d :: after)).map fun (s, left) => (c :: s, left)
    else (takeQuoted? quote rest).map fun (s, left) => (c :: s, left)

/-- The escapes known between double quotes. -/
def letterEscapes : List (Char × Char) :=
  [('\\', '\\'), ('\'', '\''), ('"', '"'), ('a', '\x07'), ('b', '\x08'), ('f', '\x0c'),
    ('n', '\n'), ('r', '\r'), ('t', '\t'), ('v', '\x0b')]

/-- Replaces the escapes of the given characters. -/
def unescape (known : List (Char × Char)) : List Char → List Char
  | '\\' :: c :: rest =>
    match known.lookup c with
    | some d => d :: unescape known rest
    | none => '\\' :: unescape known (c :: rest)
  | c :: rest => c :: unescape known rest
  | [] => []

/-- A value without quotes: the line up to a comment that follows a blank. -/
def unquotedValue (line : List Char) : List Char :=
  Text.trimEnd (beforeComment line)
where
  beforeComment : List Char → List Char
    | [] => []
    | c :: rest =>
      if Text.isBlank c && (Text.trimStart rest).head? == some '#' then []
      else c :: beforeComment rest

/-- A value in quotes, its escapes replaced. -/
def takeQuotedValue (quote : Char) (known : List (Char × Char)) (rest : List Char) :
    Taken (List Char) :=
  match takeQuoted? quote rest with
  | some (value, left) => .ok (unescape known value, left)
  | none => .error rest

def takeValue (s : List Char) : Taken (List Char) :=
  match s with
  | '\'' :: rest => takeQuotedValue '\'' (letterEscapes.take 2) rest
  | '"' :: rest => takeQuotedValue '"' letterEscapes rest
  | s => .ok (unquotedValue (s.takeWhile (!isLineEnd ·)), s.dropWhile (!isLineEnd ·))

def isKeyChar (c : Char) : Bool :=
  c != '=' && c != '#' && !Text.isBlank c

/-- A key in single quotes or without quotes; a comment has none. -/
def takeKey (s : List Char) : Taken (Option (List Char)) :=
  match s with
  | '#' :: _ => .ok (none, s)
  | '\'' :: rest =>
    let key := rest.takeWhile (· != '\'')
    match rest.dropWhile (· != '\'') with
    | _ :: left => if key.isEmpty then .error s else .ok (some key, left)
    | [] => .error s
  | s =>
    let key := s.takeWhile isKeyChar
    if key.isEmpty then .error s else .ok (some key, s.dropWhile isKeyChar)

/-- The text after the word `export` and a blank, if it starts with them. -/
def skipExport (s : List Char) : List Char :=
  match Text.afterPrefix? "export".toList s with
  | some rest => if rest.head?.any isInlineBlank then skipInline rest else s
  | none => s

def skipLine (s : List Char) : List Char :=
  (s.dropWhile (!isLineEnd ·)).drop 1

/-- The text after the end of the line, before which only a comment may stand. -/
def takeLineEnd (s : List Char) : Except (List Char) (List Char) :=
  match skipInline s with
  | [] => .ok []
  | c :: rest =>
    if c = '#' then .ok (skipLine rest) else if isLineEnd c then .ok rest else .error (c :: rest)

/-- One binding, or a line without one. -/
def takeBinding (s : List Char) : Except (List Char) (Option Binding × List Char) := do
  let (key, s) ← takeKey (skipExport s)
  let (value, s) ←
    match skipInline s with
    | '=' :: rest => (takeValue (skipInline rest)).map fun (v, left) => (some v, left)
    | s => pure (none, s)
  let s ← takeLineEnd s
  return (key.map fun key => (String.ofList key, value.map String.ofList), s)

/-- The bindings of a text; the fuel bounds the number of lines. -/
def bindingsFrom : Nat → List Char → List Binding
  | 0, _ => []
  | fuel + 1, s =>
    let s := Text.trimStart s
    if s.isEmpty then []
    else
      match takeBinding s with
      | .ok (binding, left) => binding.toList ++ bindingsFrom fuel left
      | .error left => bindingsFrom fuel (skipLine left)

/-- The value of a variable that a text names, or the default after `:-`. -/
def variableValue (bound : Entries String) (inside : List Char) : List Char :=
  let name := inside.takeWhile (· != ':')
  let default := (Text.afterPrefix? [':', '-'] (inside.dropWhile (· != ':'))).getD []
  match bound.get? (String.ofList name) with
  | some value => value.toList
  | none => default

/-- Whether the text between braces names a variable, perhaps with a default. -/
def namesVariable (inside : List Char) : Bool :=
  let rest := inside.dropWhile (· != ':')
  rest.isEmpty || Text.startsWith [':', '-'] rest

/-- Replaces the variables in a text; the fuel bounds its length. -/
def expand (bound : Entries String) : Nat → List Char → List Char
  | 0, s => s
  | _ + 1, [] => []
  | fuel + 1, '$' :: '\x7b' :: rest =>
    let inside := rest.takeWhile (· != '\x7d')
    match rest.dropWhile (· != '\x7d') with
    | _ :: left =>
      if namesVariable inside then variableValue bound inside ++ expand bound fuel left
      else '$' :: expand bound fuel ('\x7b' :: rest)
    | [] => '$' :: '\x7b' :: rest
  | fuel + 1, c :: rest => c :: expand bound fuel rest

/-- Expands the values one after the other; earlier bindings hide the outer variables. -/
def expandBindings (outer : Entries String) (done : Entries String) :
    List Binding → List Binding
  | [] => []
  | (key, none) :: rest => (key, none) :: expandBindings outer (done.put key "") rest
  | (key, some value) :: rest =>
    let expanded := String.ofList (expand (done ++ outer) value.length value.toList)
    (key, some expanded) :: expandBindings outer (done.put key expanded) rest

/-- The bindings of an environment file; of several with one key the last one counts. -/
def readEnvFile (outer : Entries String) (text : String) : Entries (Option String) :=
  let bindings := bindingsFrom (text.length + 1) text.toList
  .ofList (expandBindings outer [] bindings)

end ApiShapes.CommandLine
