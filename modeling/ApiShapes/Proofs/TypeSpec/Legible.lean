import ApiShapes.Proofs.TypeSpec.RenderedLine
import ApiShapes.Proofs.TypeSpec.ServiceBlock
import Mathlib.Tactic

/-!
# Legible definitions

A definition is legible if each line of its source declares what the line was rendered from.  That
is a condition on each text by itself, put by the syntax of the line around it.  It is weaker than
what one would write by hand: names may hold blanks, may be empty, and may be keywords.

What reading keeps of a legible definition is its imports, the names, bases and properties of its
models, and its title with the version.  Comments, decorators and operations are not read, and
imports of namespaces become imports of the definition.
-/

namespace ApiShapes.TypeSpec

open Text

/-! ## What reading keeps -/

def Property.kept (p : Property) : Property :=
  { p with description := none, format := none }

def Model.kept (m : Model) : Model :=
  { m with properties := m.properties.map Property.kept, description := none, decorators := [] }

def Namespace.kept (n : Namespace) : Namespace :=
  ⟨n.name, n.models.map Model.kept, [], [], none⟩

/-- An empty text counts as absent. -/
def filled (s : Option String) : Option String :=
  s.filter (!·.isEmpty)

/-- What is left of a definition in its source: the version only if there is a title. -/
def Definition.kept (d : Definition) : Definition :=
  { namespaces := d.namespaces.map Namespace.kept
    imports := d.imports ++ d.namespaces.flatMap (·.imports)
    title := filled d.title
    version := (filled d.title).bind fun _ => filled d.version
    description := none }

/-! ## Texts of a definition -/

/-- A condition on the texts among document values. -/
instance (p : String → Prop) [DecidablePred p] (v : Value) : Decidable (∃ s, v = .text s ∧ p s) :=
  match v with
  | .text s => decidable_of_iff (p s) (by simp)
  | .null | .bool _ | .int _ | .float _ | .list _ | .record _ | .bytes _ | .date _ | .moment _
  | .set _ | .pair _ _ => isFalse (by simp)

theorem resultType_induction {P : String → Prop} {o : Operation} (hvoid : P "void")
    (h : ∀ r ∈ o.responses, ∀ type ∈ r.type, P type) : P o.resultType := by
  rw [Operation.resultType]
  split
  · next r hr =>
    cases htype : r.type with
    | none => exact hvoid
    | some type =>
        split
        · exact h r (List.mem_of_find?_eq_some hr) type htype
        · exact hvoid
  · exact hvoid

/-! ## Legible parts -/

/-- A description that fits on a comment line. -/
def LegibleComment (description : Option String) : Prop :=
  ∀ s ∈ description, OneLine s.toList

instance (description : Option String) : Decidable (LegibleComment description) :=
  inferInstanceAs (Decidable (∀ s ∈ description, OneLine s.toList))

def LegibleImport (path : String) : Prop :=
  path ≠ "" ∧ OneLine path.toList

instance (path : String) : Decidable (LegibleImport path) :=
  inferInstanceAs (Decidable (_ ∧ _))

/-- The name of a property with the mark of an optional one. -/
def Property.label (p : Property) : List Char :=
  p.name.toList ++ if p.optional then ['?'] else []

structure Property.Legible (p : Property) : Prop where
  label_trim : trim p.label = p.label
  label_colon : ':' ∉ p.label
  label_oneLine : OneLine p.label
  label_unclaimed : ∀ start ∈ claimedStarts, ¬ start <+: p.label
  mark : p.optional = false → p.label.getLast? ≠ some '?'
  type_trim : trim p.type.toList = p.type.toList
  type_oneLine : OneLine p.type.toList
  comment : LegibleComment p.description

/-- A decorator on one line that starts no service block. -/
structure Decorator.Legible (d : Decorator) : Prop where
  oneLine : OneLine d.source.toList
  noService : ¬ "@service(".toList <+: d.source.toList

/-- A name in a header runs to the brace, and blanks around it are lost. -/
structure LegibleName (name : String) : Prop where
  trim : trim name.toList = name.toList
  noBrace : '\x7b' ∉ name.toList
  oneLine : OneLine name.toList

structure LegibleBase (base : String) : Prop extends LegibleName base where
  filled : base ≠ ""
  noComma : ',' ∉ base.toList

structure Model.Legible (m : Model) : Prop where
  name : LegibleName m.name
  /-- The name does not contain the word that introduces the bases or end in it. -/
  name_extends : ¬ extendsKey <:+: m.name.toList ++ [' ']
  bases : ∀ b ∈ m.bases, LegibleBase b
  /-- Bases cannot stand alone. -/
  named : m.bases ≠ [] → m.name ≠ ""
  properties : ∀ p ∈ m.properties, p.Legible
  comment : LegibleComment m.description
  decorators : ∀ d ∈ m.decorators, d.Legible

structure Operation.Legible (o : Operation) : Prop where
  comment : LegibleComment o.description
  decorators : ∀ d ∈ o.decorators, d.Legible
  path : ∀ c ∈ o.path.toList, c ∉ literalBoundaries
  name : OneLine o.name.toList
  parameters : ∀ p ∈ o.parameters, OneLine p.name.toList ∧ OneLine p.type.toList
  result : OneLine o.resultType.toList

structure Namespace.Legible (n : Namespace) : Prop where
  name : LegibleName n.name
  models : ∀ m ∈ n.models, m.Legible
  operations : ∀ o ∈ n.operations, o.Legible
  imports : ∀ path ∈ n.imports, LegibleImport path
  comment : LegibleComment n.description

structure Definition.Legible (d : Definition) : Prop where
  namespaces : ∀ n ∈ d.namespaces, n.Legible
  names : (d.namespaces.map (·.name)).Nodup
  imports : ∀ path ∈ d.imports, LegibleImport path
  title : ∀ t ∈ d.title, FitsService t
  title_end : ∀ t ∈ d.title, ¬ versionKey <:+ trimEnd t.toList
  version : ∀ v ∈ d.version, FitsService v

end ApiShapes.TypeSpec
