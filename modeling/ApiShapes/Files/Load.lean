import ApiShapes.Files.Tree
import ApiShapes.JsonApi.Strict
import ApiShapes.TypeSpec.Reading

/-!
# Loading and saving documents

Reads documents and schemas from texts and files, writes them, and detects which representation a
file holds.  Texts are loaded with decoders of the two formats, whose faults of the syntax are
reported as load errors; their other faults are passed on.
-/

namespace ApiShapes

/-- The representations of an API's shape. -/
inductive Representation where
  | jsonApi
  | typeSpec
  | openApi
  deriving DecidableEq

def Representation.name : Representation → String
  | .jsonApi => "jsonapi"
  | .typeSpec => "typespec"
  | .openApi => "openapi"

/-- The complaint about a refused document, in which the faults of its fields are described by
the given function. -/
def JsonApi.Refusal.message (describe : Faults → String) : JsonApi.Refusal → String
  | .notAnObject => "Invalid JSON:API schema: must be an object"
  | .noSerializerList => "Invalid JSON:API schema: serializers must be a list"
  | .faulty faults => describe faults

/-- Why nothing could be loaded, from a file if a path is given: the decoder found the syntax at
fault, the reader refused the document, or the decoder failed for another reason. -/
inductive LoadFault (ε : Type) where
  | file (fault : FileFault)
  | malformed (path : Option Path) (fault : ε)
  | refused (path : Option Path) (refusal : JsonApi.Refusal)
  | escaped (fault : ε)

namespace LoadFault

variable {ε : Type}

/-- Whether a fault is reported as a load error. -/
def isLoadError : LoadFault ε → Bool
  | .malformed .. | .refused .. => true
  | .file _ | .escaped _ => false

/-- The fault of a text that stands in a file. -/
def inFile (path : Path) : LoadFault ε → LoadFault ε
  | .malformed _ fault => .malformed (some path) fault
  | .refused _ refusal => .refused (some path) refusal
  | fault => fault

def message (describe : Faults → String) : LoadFault DecodeFault → String
  | .file fault => fault.message
  | .malformed path fault =>
    match path with
    | some path => "Failed to load \"" ++ path.text ++ "\": " ++ fault.message
    | none => fault.message
  | .refused path refusal =>
    match path with
    | some path =>
      "Invalid JSON:API schema in \"" ++ path.text ++ "\": " ++ refusal.message describe
    | none => refusal.message describe
  | .escaped fault => fault.message

end LoadFault

namespace Decoders

variable {ε : Type}

/-- Loads a text with decoders. -/
def load (d : Decoders ε) (codec : Codec) (text : String) : Except (LoadFault ε) Value :=
  match d.decode codec text with
  | .ok document => .ok document
  | .error fault => .error (if d.isSyntax fault then .malformed none fault else .escaped fault)

theorem load_eq_ok_iff {d : Decoders ε} {codec : Codec} {text : String} {document : Value} :
    d.load codec text = .ok document ↔ d.decode codec text = .ok document := by
  unfold load
  cases d.decode codec text <;> simp

theorem load_eq_error_iff {d : Decoders ε} {codec : Codec} {text : String} {fault : LoadFault ε} :
    d.load codec text = .error fault ↔
      ∃ cause, d.decode codec text = .error cause ∧
        (if d.isSyntax cause then .malformed none cause else .escaped cause) = fault := by
  unfold load
  cases d.decode codec text <;> simp

/-- Reads a schema from a YAML text; JSON texts are YAML texts too. -/
def loadSchema (d : Decoders ε) (text : String) : Except (LoadFault ε) JsonApi.Schema := do
  let document ← d.load .yaml text
  (JsonApi.Schema.read document).mapError (.refused none)

end Decoders

def loadSchemaText (text : String) : Except (LoadFault DecodeFault) JsonApi.Schema :=
  Codec.decoders.loadSchema text

def loadDocument (files : Files) (path : Path) : Except (LoadFault DecodeFault) Value := do
  let text ← (files.read path).mapError .file
  (Codec.decoders.load path.codec text).mapError (.inFile path)

/-- A file that can be read loads as the document that its text denotes. -/
theorem loadDocument_eq_ok_iff {files : Files} {path : Path} {text : String} {document : Value}
    (hread : files.read path = .ok text) :
    loadDocument files path = .ok document ↔ path.codec.decode text = .ok document := by
  have hload : loadDocument files path =
      (Codec.decoders.load path.codec text).mapError (.inFile path) := by
    rw [loadDocument, hread]
    -- the decoders themselves are not to be unfolded
    generalize Codec.decoders = d
    rfl
  rw [hload, ← Codec.decoders_decode, ← Decoders.load_eq_ok_iff]
  cases Codec.decoders.load path.codec text with
  | ok document => exact Iff.rfl
  | error fault => exact iff_of_false nofun nofun

def loadSchema (files : Files) (path : Path) : Except (LoadFault DecodeFault) JsonApi.Schema := do
  let document ← loadDocument files path
  (JsonApi.Schema.read document).mapError (.refused (some path))

/-- The YAML text of a schema; the fields that are not set are left out. -/
def dumpSchemaText (s : JsonApi.Schema) : String :=
  Codec.yaml.encode (s.dump .hidden)

def saveDocument (files : Files) (path : Path) (document : Value) : Except FileFault Unit × Files :=
  files.write path (path.codec.encode document)

def saveSchema (files : Files) (path : Path) (s : JsonApi.Schema) : Except FileFault Unit × Files :=
  saveDocument files path (s.dump .hidden)

/-- The representation that a document is in; what is no record of a known form counts as
source text. -/
def representationOf (document : Value) : Representation :=
  if (document.get? "serializers").isSome then .jsonApi
  else if (document.get? "openapi").isSome || (document.get? "swagger").isSome then .openApi
  else .typeSpec

/-- Detects the representation of a file.  The suffix of source files decides; the content of
other files is read as YAML, whatever their suffix. -/
def detectRepresentation (files : Files) (path : Path) :
    Except (LoadFault DecodeFault) Representation :=
  if path.isTypeSpec then .ok .typeSpec
  else do
    let text ← (files.read path).mapError .file
    match Codec.yaml.decode text with
    | .ok document => return representationOf document
    | .error fault => if fault.isSyntax then return .typeSpec else throw (.escaped fault)

end ApiShapes
