import ApiShapes.Files.Path

/-!
# Trees of files

The files that a run sees, each with its text, in the order of creation.  A directory exists
where a file lies below it; writing a file creates the directories above it.  A file is emptied
before its text is written, and stays empty if the text holds what no file can hold.
-/

namespace ApiShapes

structure Files where
  entries : List (Path × String)

/-- Why a file cannot be read or written. -/
inductive FileFault where
  | missing (path : Path)
  | isDirectory (path : Path)
  | notDirectory (path : Path)
  | exists (path : Path)
  | unencodable (text : String)
  deriving DecidableEq

def FileFault.message : FileFault → String
  | .missing path => "No such file or directory: " ++ quoted path.text
  | .isDirectory path => "Is a directory: " ++ quoted path.text
  | .notDirectory path => "Not a directory: " ++ quoted path.text
  | .exists path => "File exists: " ++ quoted path.text
  | .unencodable text => Text.unencodableMessage text.toList

namespace Files

def empty : Files :=
  ⟨[]⟩

def get? (files : Files) (path : Path) : Option String :=
  files.entries.lookup path

def isFile (files : Files) (path : Path) : Bool :=
  (files.get? path).isSome

def isDirectory (files : Files) (path : Path) : Bool :=
  path.names.isEmpty || files.entries.any fun (p, _) => p.isBelow path

/-- Whether a path as written leads to something; one that ends in a slash has to lead to a
directory. -/
def leadsSomewhere (files : Files) (written : String) : Bool :=
  let path := Path.ofText written
  if written.isEmpty then false
  else if written.toList.getLast? == some '/' then files.isDirectory path
  else files.isFile path || files.isDirectory path

def putEntry (path : Path) (text : String) : List (Path × String) → List (Path × String)
  | [] => [(path, text)]
  | (p, t) :: rest => if p = path then (path, text) :: rest else (p, t) :: putEntry path text rest

def put (files : Files) (path : Path) (text : String) : Files :=
  ⟨putEntry path text files.entries⟩

/-- Reads every line end as a line feed. -/
def unifyLineEnds : List Char → List Char
  | '\r' :: '\n' :: rest => '\n' :: unifyLineEnds rest
  | '\r' :: rest => '\n' :: unifyLineEnds rest
  | c :: rest => c :: unifyLineEnds rest
  | [] => []

/-- Whether one of the names above a path is that of a file. -/
def isBelowFile (files : Files) (path : Path) : Bool :=
  files.entries.any fun (p, _) => path.isBelow p

def read (files : Files) (path : Path) : Except FileFault String :=
  match files.get? path with
  | some text => .ok (String.ofList (unifyLineEnds text.toList))
  | none =>
    .error
      (if files.isDirectory path then .isDirectory path
      else if files.isBelowFile path then .notDirectory path
      else .missing path)

/-- What stands in the way of a directory: a file in its place or above it. -/
def directoryFault? (files : Files) (path : Path) : Option FileFault :=
  if files.isFile path then some (.exists path)
  else if files.isBelowFile path then some (.notDirectory path)
  else none

/-- What stands in the way of a file: a file where a directory has to be, or a directory in its
place. -/
def obstacle? (files : Files) (path : Path) : Option FileFault :=
  match files.directoryFault? path.parent with
  | some fault => some fault
  | none =>
    if !files.isFile path && files.isDirectory path then some (.isDirectory path) else none

/-- Writes a file, creating the directories above it.  The files are given back as the attempt
leaves them. -/
def write (files : Files) (path : Path) (text : String) : Except FileFault Unit × Files :=
  match files.obstacle? path with
  | some fault => (.error fault, files)
  | none =>
    if Text.isEncodable text.toList then (.ok (), files.put path text)
    else (.error (.unencodable text), files.put path "")

theorem lookup_entry (path p : Path) (text : String) (rest : List (Path × String)) :
    ((p, text) :: rest).lookup path = if path = p then some text else rest.lookup path := by
  rw [List.lookup_cons]
  by_cases h : path = p
  · simp [h]
  · simp [h, beq_eq_false_iff_ne.2 h]

theorem lookup_putEntry (path other : Path) (text : String) (entries : List (Path × String)) :
    (putEntry path text entries).lookup other =
      if other = path then some text else entries.lookup other := by
  induction entries with
  | nil => rw [putEntry, lookup_entry]
  | cons entry rest ih =>
    obtain ⟨p, t⟩ := entry
    rw [putEntry, lookup_entry]
    by_cases hp : p = path
    · rw [if_pos hp, lookup_entry]
      by_cases h : other = path
      · simp [h]
      · simp [h, hp]
    · rw [if_neg hp, lookup_entry, ih]
      by_cases h : other = p
      · simp [h, hp]
      · simp [h]

/-- A file that has been put reads as its text, and the other files are untouched. -/
theorem get?_put (files : Files) (path other : Path) (text : String) :
    (files.put path text).get? other = if other = path then some text else files.get? other :=
  lookup_putEntry path other text files.entries

end Files

end ApiShapes
