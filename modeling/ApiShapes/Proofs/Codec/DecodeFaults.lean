import ApiShapes.Files.Load
import ApiShapes.Proofs.Document.StepResults
import ApiShapes.Proofs.Document.ValueEquality
import ApiShapes.Proofs.Json.OversizedIntegers
import ApiShapes.Proofs.Yaml.ComposedNodes
import ApiShapes.Proofs.Yaml.NodeFaults
import ApiShapes.Proofs.Yaml.PlainScalars
import ApiShapes.Proofs.Yaml.ScannedText

/-!
# Faults of decoding

Loading a text reports that its syntax is at fault, or that its document is refused; every other
fault of the decoder passes through.  Of JSON texts only integers that are too long have such a
fault.  In YAML texts there are escapes and versions that a scanner cannot take, nodes that hold
themselves, and scalars that have no value.
-/

namespace ApiShapes

/-! ## Faults of the decoders -/

/-- The faults of decoding that are none of the syntax, with what is in the text. -/
inductive Codec.Valueless : Codec → String → DecodeFault → Prop where
  | longInteger {text : String} {n : Nat} (run : Json.HasLongRun text.toList n) :
      Valueless .json text (.oversized n)
  | unscannable {text : String} {what : Yaml.Misfit}
      (part : Yaml.Unscannable text.toList what) : Valueless .yaml text (.misfit what)
  | node {text : String} {tokens : List Yaml.Token} {node : Yaml.Node} {fault : Yaml.Fault}
      (cut : Yaml.tokensOf text.toList = .ok tokens)
      (composed : Yaml.Node.ofTokens? tokens = .ok (some node)) (held : node.Holds fault) :
      Valueless .yaml text (.ofYaml fault)

theorem Json.hasLongRun_of_decode {text : String} {fault : DecodeFault}
    (h : Codec.json.decode text = .error fault) :
    fault.isSyntax = true ∨ ∃ n, fault = .oversized n ∧ HasLongRun text.toList n := by
  obtain ⟨cause, hread, rfl⟩ := mapError_eq_error_iff.1 h
  cases cause with
  | malformed place => exact .inl rfl
  | oversized n => exact .inr ⟨n, rfl, hasLongRun_of_read hread⟩

theorem Yaml.valueless_of_read {text : String} {fault : Fault} (h : read text = .error fault) :
    (∃ what, fault = .malformed what) ∨ Codec.Valueless .yaml text (.ofYaml fault) := by
  unfold read at h
  cases hcut : tokensOf text.toList with
  | error reason =>
      rw [hcut] at h
      cases h
      refine (unscannable_of_tokensOf hcut).imp_right ?_
      rintro ⟨what, rfl, hpart⟩
      exact .unscannable hpart
  | ok tokens =>
      rw [hcut] at h
      cases hnode : Node.ofTokens? tokens with
      | error reason =>
          simp only [bind, Except.bind, hnode, Except.error.injEq] at h
          exact .inl (ofTokens?_syntaxOnly tokens _ (h ▸ hnode))
      | ok root =>
          simp only [bind, Except.bind, hnode] at h
          cases root with
          | none => cases h
          | some node => exact (holds_of_valueOf h).imp_right (.node hcut hnode)

/-- A fault of decoding is one of the syntax, or its cause stands in the text. -/
theorem Codec.valueless_of_decode {codec : Codec} {text : String} {fault : DecodeFault}
    (h : codec.decode text = .error fault) :
    fault.isSyntax = true ∨ codec.Valueless text fault := by
  cases codec with
  | json =>
      refine (Json.hasLongRun_of_decode h).imp_right ?_
      rintro ⟨n, rfl, hrun⟩
      exact .longInteger hrun
  | yaml =>
      obtain ⟨cause, hread, rfl⟩ := mapError_eq_error_iff.1 h
      refine (Yaml.valueless_of_read hread).imp_left ?_
      rintro ⟨what, rfl⟩
      rfl

/-! ## Faults of loading -/

/-- A failure that is no load error. -/
def Escapes {ε α : Type} (r : Except (LoadFault ε) α) : Prop :=
  ∃ fault, r = .error fault ∧ fault.isLoadError = false

theorem escapes_error_iff {ε α : Type} {fault : LoadFault ε} :
    Escapes (.error fault : Except (LoadFault ε) α) ↔ fault.isLoadError = false := by
  simp [Escapes]

namespace Decoders

variable {ε : Type} {d : Decoders ε} {text : String}

theorem escapes_load_iff {codec : Codec} :
    Escapes (d.load codec text) ↔
      ∃ cause, d.decode codec text = .error cause ∧ d.isSyntax cause = false := by
  constructor
  · rintro ⟨fault, hload, hfault⟩
    obtain ⟨cause, hdecode, rfl⟩ := load_eq_error_iff.1 hload
    refine ⟨cause, hdecode, ?_⟩
    by_contra hkind
    rw [if_pos (by simpa using hkind)] at hfault
    cases hfault
  · rintro ⟨cause, hdecode, hkind⟩
    have hescaped : (if d.isSyntax cause then .malformed none cause else .escaped cause) =
        LoadFault.escaped cause := if_neg (by simp [hkind])
    exact ⟨_, load_eq_error_iff.2 ⟨cause, hdecode, hescaped⟩, rfl⟩

/-- A refused document is a load error. -/
theorem escapes_loadSchema_iff : Escapes (d.loadSchema text) ↔ Escapes (d.load .yaml text) := by
  unfold loadSchema
  cases hload : d.load .yaml text with
  | error fault => exact escapes_error_iff.trans escapes_error_iff.symm
  | ok document =>
      refine iff_of_false ?_ fun ⟨_, h, _⟩ => nomatch h
      rintro ⟨fault, hschema, hfault⟩
      obtain ⟨refusal, -, rfl⟩ := mapError_eq_error_iff.1 hschema
      cases hfault

end Decoders

/-- What escapes from loading a text or a schema is exactly what the decoder fails with besides
faults of the syntax, whatever the decoders are.  From JSON texts only integers that are too long
escape; and of the scalars that go by their form exactly the listed ones have no value. -/
theorem loading_escapes_iff {ε : Type} (d : Decoders ε) (text : String) :
    (∀ codec, Escapes (d.load codec text) ↔
        ∃ cause, d.decode codec text = .error cause ∧ d.isSyntax cause = false) ∧
      (Escapes (d.loadSchema text) ↔
        ∃ cause, d.decode .yaml text = .error cause ∧ d.isSyntax cause = false) ∧
      (Escapes (Codec.decoders.load .json text) → ∃ n, Json.HasLongRun text.toList n) ∧
      ∀ s : List Char,
        (∃ what, Yaml.scalarValue (Yaml.plainTag s) s = .error (.misfit what)) ↔
          Yaml.PlainMisfit s := by
  refine ⟨fun codec => Decoders.escapes_load_iff, ?_, fun h => ?_, Yaml.misfit_plainTag_iff⟩
  · exact Decoders.escapes_loadSchema_iff.trans Decoders.escapes_load_iff
  · obtain ⟨cause, hdecode, hkind⟩ := Decoders.escapes_load_iff.1 h
    rw [Codec.decoders_decode] at hdecode
    rcases Codec.valueless_of_decode hdecode with hfault | hvalueless
    · exact absurd (hkind.symm.trans hfault) (by decide)
    · cases hvalueless with
      | longInteger run => exact ⟨_, run⟩

theorem Codec.decode_monthThirteen :
    Codec.yaml.decode "v: 2001-13-45" = .error (.misfit (.calendar .month)) := by
  decide +kernel

theorem Codec.decoders_monthThirteen :
    decoders.decode .yaml "v: 2001-13-45" = .error (.misfit (.calendar .month)) :=
  (decoders_decode .yaml _).trans decode_monthThirteen

theorem loading_escapes_monthThirteen :
    Escapes (Codec.decoders.load .yaml "v: 2001-13-45") ∧
      Escapes (Codec.decoders.loadSchema "v: 2001-13-45") ∧
      Yaml.PlainMisfit "2001-13-45".toList := by
  obtain ⟨hload, hschema, -, hplain⟩ := loading_escapes_iff Codec.decoders "v: 2001-13-45"
  have hscalar : Yaml.scalarValue (Yaml.plainTag "2001-13-45".toList) "2001-13-45".toList =
      .error (.misfit (.calendar .month)) := by decide
  refine ⟨(hload .yaml).2 ?_, hschema.2 ?_, (hplain _).1 ⟨_, hscalar⟩⟩
  · exact ⟨_, Codec.decoders_monthThirteen, rfl⟩
  · exact ⟨_, Codec.decoders_monthThirteen, rfl⟩

/-- A date of the thirteenth month is written as the syntax demands, and yet it is not loaded; the
fault is no load error. -/
theorem Codec.monthThirteen_escapes :
    ∃ fault, decoders.load .yaml "v: 2001-13-45" = .error fault ∧ fault.isLoadError = false :=
  ⟨.escaped (.misfit (.calendar .month)),
    Decoders.load_eq_error_iff.2 ⟨_, decoders_monthThirteen, rfl⟩, rfl⟩

end ApiShapes
