import ApiShapes.TypeSpec.Statement

/-!
# Reading TypeSpec sources

Reads the models of a TypeSpec source back.  Reading is tolerant: lines without meaning are
passed over, a header closes the block that is still open, and what is open at the end of the
source is closed there.  Operations and decorators are not read.
-/

namespace ApiShapes.TypeSpec

/-- A namespace whose closing brace has not been read, with the model that is open in it. -/
structure OpenNamespace where
  name : String
  models : List Model
  model? : Option Model

/-- What has been read of a source. -/
structure Progress where
  imports : List String
  namespaces : List Namespace
  open? : Option OpenNamespace
  title : Option String
  version : Option String
  /-- The lines passed over. -/
  ignored : List String

def Progress.start : Progress :=
  ⟨[], [], none, none, none, []⟩

/-- Closes the open model, if there is one. -/
def OpenNamespace.closeModel (n : OpenNamespace) : OpenNamespace :=
  { n with models := n.models ++ n.model?.toList, model? := none }

def OpenNamespace.close (n : OpenNamespace) : Namespace :=
  ⟨n.name, n.closeModel.models, [], [], none⟩

/-- Closes the open namespace, if there is one. -/
def Progress.close (p : Progress) : Progress :=
  { p with
    namespaces := p.namespaces ++ (p.open?.map OpenNamespace.close).toList
    open? := none }

def Progress.ignore (p : Progress) (text : List Char) : Progress :=
  { p with ignored := p.ignored ++ [String.ofList text] }

def OpenNamespace.addProperty (n : OpenNamespace) (m : Model) (property : Property) :
    OpenNamespace :=
  { n with model? := some { m with properties := m.properties ++ [property] } }

/-- Takes in one statement. -/
def Progress.step (p : Progress) (s : Statement) : Progress :=
  match s.meaning, p.open? with
  | .importPath path, _ => { p with imports := p.imports ++ path.toList }
  | .service title version, _ => { p with title, version }
  | .namespaceHeader none, _ => p
  | .namespaceHeader (some name), _ => { p.close with open? := some ⟨name, [], none⟩ }
  | .modelHeader none, some _ => p
  | .modelHeader (some m), some n => { p with open? := some { n.closeModel with model? := some m } }
  | .property property, some n =>
    match n.model? with
    | some m => { p with open? := some (n.addProperty m property) }
    | none => p.ignore s.text
  | .closing, some n =>
    if n.model?.isSome then { p with open? := some n.closeModel } else p.close
  | _, _ => p.ignore s.text

/-- Puts the content of a namespace behind that of an earlier one with its name. -/
def addNamespace (n : Namespace) : List Namespace → List Namespace
  | [] => [n]
  | m :: rest =>
    if m.name = n.name then
      { m with models := m.models ++ n.models, operations := m.operations ++ n.operations } :: rest
    else m :: addNamespace n rest

/-- Joins namespaces of one name in the place of the first. -/
def mergeNamespaces (namespaces : List Namespace) : List Namespace :=
  namespaces.foldl (fun merged n => addNamespace n merged) []

def readStatements (ss : List Statement) : Progress :=
  (ss.foldl Progress.step .start).close

def Progress.definition (p : Progress) : Definition :=
  ⟨mergeNamespaces p.namespaces, p.imports, p.title, p.version, none⟩

/-- What has been read of a source text at its end. -/
def readSource (source : String) : Progress :=
  readStatements (statements (Text.trimmedLines source.toList))

/-- The definition that a source text declares. -/
def Definition.read (source : String) : Checked Definition :=
  let d := (readSource source).definition
  d.checkNamespaces d.dump

end ApiShapes.TypeSpec
