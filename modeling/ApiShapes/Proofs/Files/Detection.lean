import ApiShapes.Files.Load
import ApiShapes.Proofs.Document.StepResults
import ApiShapes.Proofs.Document.ValueEquality
import ApiShapes.Proofs.Json.FlowReading
import Mathlib.Tactic

/-!
# Detection of representations

The representation of a file is detected from its content as YAML, whatever its suffix, while other
files than YAML files are loaded as JSON.  The two agree on the JSON texts that YAML reads as well.
-/

namespace ApiShapes

/-- The document that a text denotes in a format has serializers. -/
def Codec.FindsSerializers (codec : Codec) (text : String) : Prop :=
  ∃ document, codec.decode text = .ok document ∧ (document.get? "serializers").isSome = true

variable {files : Files} {path : Path} {text : String}

theorem representationOf_eq_jsonApi_iff (document : Value) :
    representationOf document = .jsonApi ↔ (document.get? "serializers").isSome = true := by
  unfold representationOf
  split_ifs <;> simp_all

/-- The representation of a file is that of its document; a text of another syntax counts as
source text. -/
theorem detectRepresentation_of_read (hsource : path.isTypeSpec = false)
    (hread : files.read path = .ok text) :
    detectRepresentation files path =
      match Codec.yaml.decode text with
      | .ok document => .ok (representationOf document)
      | .error fault => if fault.isSyntax then .ok .typeSpec else .error (.escaped fault) := by
  rw [detectRepresentation, hsource, hread]
  rfl

theorem detectRepresentation_eq_jsonApi_iff (hsource : path.isTypeSpec = false)
    (hread : files.read path = .ok text) :
    detectRepresentation files path = .ok .jsonApi ↔ Codec.yaml.FindsSerializers text := by
  rw [detectRepresentation_of_read hsource hread, Codec.FindsSerializers]
  cases Codec.yaml.decode text with
  | ok document => simp [representationOf_eq_jsonApi_iff]
  | error fault =>
      dsimp only
      split <;> simp

theorem loadDocument_finds_iff (hyaml : path.isYaml = false) (hread : files.read path = .ok text) :
    (∃ document, loadDocument files path = .ok document ∧
      (document.get? "serializers").isSome = true) ↔ Codec.json.FindsSerializers text := by
  have hcodec : path.codec = .json := by simp [Path.codec, hyaml]
  simp only [loadDocument_eq_ok_iff hread, hcodec, Codec.FindsSerializers]

theorem isSome_get?_of_fitsYaml (hfits : Json.fitsYaml text.toList = true) {document : Value}
    (hdecode : Codec.json.decode text = .ok document) :
    ∃ found, Codec.yaml.decode text = .ok found ∧
      ∀ key ∈ ["serializers", "openapi", "swagger"],
        ((found.get? key).isSome = true ↔ (document.get? key).isSome = true) := by
  have hread : Json.read text = .ok document := mapError_eq_ok_iff.1 hdecode
  obtain ⟨found, hfound, hkeys⟩ := Json.read_yaml_of_read hfits hread
  have hplain : ∀ key ∈ ["serializers", "openapi", "swagger"], ∀ ch ∈ key.toList,
      ch.toNat < 0xD800 := by decide
  exact ⟨found, mapError_eq_ok_iff.2 hfound, fun key hkey => hkeys key (hplain key hkey)⟩

/-- What YAML finds in a JSON text is of the same representation. -/
theorem representationOf_of_fitsYaml (hfits : Json.fitsYaml text.toList = true) {document : Value}
    (hdecode : Codec.json.decode text = .ok document) :
    ∃ found, Codec.yaml.decode text = .ok found ∧
      representationOf found = representationOf document := by
  obtain ⟨found, hfound, hkeys⟩ := isSome_get?_of_fitsYaml hfits hdecode
  have hserializers := hkeys "serializers" (by decide)
  have hopenapi := hkeys "openapi" (by decide)
  have hswagger := hkeys "swagger" (by decide)
  refine ⟨found, hfound, ?_⟩
  simp only [representationOf, Bool.or_eq_true, hserializers, hopenapi, hswagger]

/-- Of a file that loads, detection tells the representation, unless its text holds what only JSON
allows; and in general detection agrees with loading exactly on the texts in which both formats find
serializers, or neither does. -/
theorem detection_agrees (hsource : path.isTypeSpec = false) (hyaml : path.isYaml = false)
    (hread : files.read path = .ok text) :
    (Json.fitsYaml text.toList = true → ∀ document, loadDocument files path = .ok document →
        detectRepresentation files path = .ok (representationOf document)) ∧
      ((detectRepresentation files path = .ok .jsonApi ↔
          ∃ document, loadDocument files path = .ok document ∧
            (document.get? "serializers").isSome = true) ↔
        (Codec.yaml.FindsSerializers text ↔ Codec.json.FindsSerializers text)) := by
  constructor
  · intro hfits document hload
    have hdecode : Codec.json.decode text = .ok document := by
      have hcodec : path.codec = .json := by simp [Path.codec, hyaml]
      rw [loadDocument_eq_ok_iff hread, hcodec] at hload
      exact hload
    obtain ⟨found, hfound, hsame⟩ := representationOf_of_fitsYaml hfits hdecode
    rw [detectRepresentation_of_read hsource hread, hfound]
    exact congrArg Except.ok hsame
  · rw [detectRepresentation_eq_jsonApi_iff hsource hread, loadDocument_finds_iff hyaml hread]

def schemaText : String :=
  "\x7b\n  \"serializers\": [],\n  \"version\": 1.5e3\n\x7d\n"

/-- A schema in a file without a known suffix. -/
def schemaFiles : Files :=
  Files.empty.put (.ofText "schema.txt") schemaText

theorem detection_agrees_schemaFiles :
    detectRepresentation schemaFiles (.ofText "schema.txt") = .ok .jsonApi ∧
      ∃ document, loadDocument schemaFiles (.ofText "schema.txt") = .ok document ∧
        (document.get? "serializers").isSome = true := by
  have hsource : (Path.ofText "schema.txt").isTypeSpec = false := by decide
  have hyaml : (Path.ofText "schema.txt").isYaml = false := by decide
  have hread : schemaFiles.read (.ofText "schema.txt") = .ok schemaText := by decide
  have hdecode : Codec.json.decode schemaText = .ok (.record [(.text "serializers", .list []),
      (.text "version", .float (Binary64.ofDecimal false 15 2))]) := by decide +kernel
  obtain ⟨document, hload, hkey⟩ := (loadDocument_finds_iff hyaml hread).2 ⟨_, hdecode, rfl⟩
  have hfits : Json.fitsYaml schemaText.toList = true := by decide +kernel
  have hdetects := (detection_agrees hsource hyaml hread).1 hfits document hload
  rw [(representationOf_eq_jsonApi_iff document).2 hkey] at hdetects
  exact ⟨hdetects, document, hload, hkey⟩

/-- A schema that is indented by a tab, in which the YAML reader finds no token. -/
def tabbedFiles : Files :=
  Files.empty.put (.ofText "a.json") "\x7b\n\t\"serializers\": []\n\x7d"

theorem tabbedFiles_read :
    tabbedFiles.read (.ofText "a.json") = .ok "\x7b\n\t\"serializers\": []\n\x7d" := by
  decide

theorem decode_json_tabbed :
    Codec.json.decode "\x7b\n\t\"serializers\": []\n\x7d" =
      .ok (.record [(.text "serializers", .list [])]) := by
  decide +kernel

theorem decode_yaml_tabbed :
    Codec.yaml.decode "\x7b\n\t\"serializers\": []\n\x7d" =
      .error (.malformedYaml .token) := by
  decide

/-- The tabbed schema is taken for source text, although it loads with its serializers. -/
theorem tabbedFiles_detected_as_source :
    detectRepresentation tabbedFiles (.ofText "a.json") = .ok .typeSpec ∧
      loadDocument tabbedFiles (.ofText "a.json") =
        .ok (.record [(.text "serializers", .list [])]) := by
  have hsource : (Path.ofText "a.json").isTypeSpec = false := by decide
  have hyaml : (Path.ofText "a.json").codec = .json := by decide
  constructor
  · rw [detectRepresentation_of_read hsource tabbedFiles_read, decode_yaml_tabbed]
    rfl
  · rw [loadDocument_eq_ok_iff tabbedFiles_read, hyaml]
    exact decode_json_tabbed

end ApiShapes
