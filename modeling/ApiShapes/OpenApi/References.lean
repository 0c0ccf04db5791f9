import ApiShapes.OpenApi.Document
import ApiShapes.OpenApi.Lowering

/-!
# References in a document

Collects the references of a document in the order of a depth-first walk and finds those that
point to no component schema.
-/

namespace ApiShapes.OpenApi

mutual

/-- The texts under the key `$ref` at any depth.  A `$ref` that is no text is walked like any
other entry. -/
def referencesIn : Value → List String
  | .record entries => referencesInEntries entries
  | .list items => referencesInItems items
  | _ => []

def referencesInEntries : List (Value × Value) → List String
  | [] => []
  | (.text "$ref", .text target) :: rest => target :: referencesInEntries rest
  | (_, v) :: rest => referencesIn v ++ referencesInEntries rest

def referencesInItems : List Value → List String
  | [] => []
  | v :: rest => referencesIn v ++ referencesInItems rest

end

/-- The value of a field, or an empty record where it is absent. -/
def fieldOrEmpty (key : String) (v : Value) : Except Value.AccessFault Value :=
  match v with
  | .record entries => .ok ((Value.lookup key entries).getD (.record []))
  | v => .error (.noFields v.kind)

/-- The names of the component schemas of a document. -/
def knownNames (document : Value) : Except Value.AccessFault (List Value) := do
  let components ← fieldOrEmpty "components" document
  let schemas ← fieldOrEmpty "schemas" components
  (← schemas.elements).mapM Value.asKey

/-- The schema name of a reference: the text after the common prefix, or the text itself. -/
def targetName (ref : String) : String :=
  match Text.afterPrefix? referencePrefix.toList ref.toList with
  | some name => String.ofList name
  | none => ref

/-- The references without a schema of their name, each once, in the order of first
occurrence. -/
def unresolvedAmong (known : List Value) (refs : List String) : List String :=
  (refs.filter fun ref => !known.any (Value.sameKey (.text (targetName ref)))).foldl
    (fun found ref => if found.contains ref then found else found ++ [ref]) []

/-- The references of a document value that point to no component schema. -/
def unresolvedIn (document : Value) : Except Value.AccessFault (List String) :=
  (knownNames document).map fun known => unresolvedAmong known (referencesIn document)

/-- The references of a generated document that point to no component schema. -/
def Document.unresolvedReferences (d : Document) : List String :=
  unresolvedAmong (d.schemas.keys.map .text) (referencesIn d.dump)

end ApiShapes.OpenApi
