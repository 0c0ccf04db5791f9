import ApiShapes.Json.Reader
import ApiShapes.Json.Writer
import ApiShapes.Yaml.Content
import ApiShapes.Yaml.Writer

/-!
# Codecs

The two text formats of documents.  A text can be malformed, which is a fault of its syntax, or
well-formed and yet denote no value: a date that the calendar lacks, an integer that is too long, or
a list that holds itself.
-/

namespace ApiShapes

inductive Codec where
  | json
  | yaml
  deriving DecidableEq

inductive DecodeFault where
  | malformedJson (fault : Json.Malformed)
  | malformedYaml (what : Yaml.Malformation)
  | oversized (digits : Nat)
  | misfit (what : Yaml.Misfit)
  | endless
  deriving DecidableEq

/-- Whether the syntax of the text is at fault. -/
def DecodeFault.isSyntax : DecodeFault → Bool
  | .malformedJson _ | .malformedYaml _ => true
  | .oversized _ | .misfit _ | .endless => false

def DecodeFault.message : DecodeFault → String
  | .malformedJson fault => "Failed to parse JSON content: " ++ fault.message
  | .malformedYaml what => "Failed to parse YAML content: " ++ what.message
  | .oversized digits => Json.oversizedMessage digits
  | .misfit what => what.message
  | .endless => "a value holds itself"

def DecodeFault.ofJson : Json.Fault → DecodeFault
  | .malformed fault => .malformedJson fault
  | .oversized digits => .oversized digits

def DecodeFault.ofYaml : Yaml.Fault → DecodeFault
  | .malformed what => .malformedYaml what
  | .misfit what => .misfit what
  | .endless => .endless

namespace Codec

/-- The value that a text denotes. -/
def decode (codec : Codec) (text : String) : Except DecodeFault Value :=
  match codec with
  | json => (Json.read text).mapError .ofJson
  | yaml => (Yaml.read text).mapError .ofYaml

/-- The text of a value; entries keep their order. -/
def encode (codec : Codec) (v : Value) : String :=
  match codec with
  | json => Json.write v
  | yaml => Yaml.write v

end Codec

/-- Decoders of the two formats: the value that a text denotes, and which faults are of the
syntax. -/
structure Decoders (ε : Type) where
  decode : Codec → String → Except ε Value
  isSyntax : ε → Bool

def Codec.decoders : Decoders DecodeFault :=
  ⟨decode, DecodeFault.isSyntax⟩

theorem Codec.decoders_decode (codec : Codec) (text : String) :
    decoders.decode codec text = codec.decode text :=
  rfl

end ApiShapes
