import ApiShapes.Conversion.Schema
import ApiShapes.Proofs.OpenApi.DocumentReferences
import ApiShapes.Proofs.OpenApi.LoweredTypes
import Mathlib.Tactic

/-!
# The grammar of lowered types

A type expression is lowered by what stands at its end: null goes first, then one pair of brackets
after the other, and what is left is a name.  So an atom with brackets and null behind it is lowered
to nested arrays around the schema of the atom.  A model reference is a type whose name is that of a
model with at most one pair of brackets; it is exactly such a type that is lowered to a reference,
or to an array of references, to the component of a model.
-/

namespace ApiShapes

namespace TypeExpr

open Text

/-! ## Parts of an expression -/

theorem nullSuffix_eq : nullSuffix = separator ++ "null".toList := rfl

theorem separator_infix_of_nullSuffix {s : List Char} (h : nullSuffix <:+ s) : separator <:+: s :=
  (nullSuffix_eq ▸ List.prefix_append ..).isInfix.trans h.isInfix

/-- No separator reaches into brackets. -/
theorem separator_infix_of_array {s : List Char} (h : separator <:+: s ++ arraySuffix) :
    separator <:+: s := by
  have hlast : ∀ {t : List Char} {c : Char}, c ≠ ' ' → separator <:+: t ++ [c] →
      separator <:+: t := by
    intro t c hc h
    rw [List.infix_concat_iff] at h
    refine h.resolve_left ?_
    rintro ⟨before, hbefore⟩
    have hsplit : (before ++ [' ', '|']) ++ [' '] = t ++ [c] := by
      rw [← hbefore]
      simp [separator]
    exact hc (List.cons.inj (List.append_inj' hsplit rfl).2).1.symm
  have hbrackets : s ++ arraySuffix = s ++ ['['] ++ [']'] := by simp [arraySuffix]
  rw [hbrackets] at h
  exact hlast (by decide) (hlast (by decide) h)

theorem eq_append_of_element? {base element : List Char} (h : element? base = some element) :
    base = element ++ arraySuffix :=
  beforeSuffix?_eq_some_iff.1 h

/-- An expression without null is a part of it, without blanks around. -/
theorem splitNull_base (t : List Char) :
    trim (splitNull t).1 = (splitNull t).1 ∧ (splitNull t).1 <:+: t := by
  unfold splitNull
  split
  · next before hbefore =>
    have htext : trim t = before ++ nullSuffix := beforeSuffix?_eq_some_iff.1 hbefore
    have hwithin : before <:+: trim t := htext ▸ (List.prefix_append ..).isInfix
    exact ⟨trim_trim before, (trim_isInfix before).trans (hwithin.trans (trim_isInfix t))⟩
  · exact ⟨trim_trim t, trim_isInfix t⟩

end TypeExpr

namespace OpenApi

open Conversion Text TypeExpr TypeSpec

/-! ## Arrays -/

/-- A type with pairs of array brackets behind it. -/
def arrayType (t : String) : Nat → String
  | 0 => t
  | n + 1 => arrayType t n ++ "[]"

/-- Arrays of arrays, and so on, of what a schema describes. -/
def arraySchema (s : Schema) : Nat → Schema
  | 0 => s
  | n + 1 => { Schema.any with type := some "array", items := some (arraySchema s n) }

/-- An expression that is no array and no union, and has no blanks around it. -/
@[mk_iff]
structure Atom (t : String) : Prop where
  filled : t ≠ ""
  trimmed : trim t.toList = t.toList
  notArray : ¬ arraySuffix <:+ t.toList
  notUnion : ¬ separator <:+: t.toList

instance (t : String) : Decidable (Atom t) :=
  decidable_of_iff' _ (atom_iff t)

theorem toList_arrayType_succ (t : String) (n : Nat) :
    (arrayType t (n + 1)).toList = (arrayType t n).toList ++ arraySuffix :=
  String.toList_append

section

variable {atom : String} (h : Atom atom)

include h

theorem Atom.arrayType_not_union (n : Nat) : ¬ separator <:+: (arrayType atom n).toList := by
  induction n with
  | zero => exact h.notUnion
  | succ n ih =>
      rw [toList_arrayType_succ]
      exact fun hunion => ih (separator_infix_of_array hunion)

theorem Atom.arrayType_trimmed (n : Nat) :
    (arrayType atom n).toList ≠ [] ∧
      trim (arrayType atom n).toList = (arrayType atom n).toList := by
  induction n with
  | zero => exact ⟨by simpa [arrayType] using h.filled, h.trimmed⟩
  | succ n ih =>
      obtain ⟨hne, htrim⟩ := ih
      have hbrackets : trimEnd arraySuffix = arraySuffix := by decide
      rw [toList_arrayType_succ, trim_append_of_trim htrim hne, hbrackets]
      exact ⟨by simp [hne], rfl⟩

theorem Atom.arrayType_plain (n : Nat) : Plain (arrayType atom n).toList where
  trim := (h.arrayType_trimmed n).2
  noNull hnull := h.arrayType_not_union n (separator_infix_of_nullSuffix hnull)

theorem lowerType_arrayType (n : Nat) :
    lowerType (arrayType atom n) = arraySchema (lowerPrimitive atom) n := by
  have hunion : ∀ n, isUnion (arrayType atom n).toList = false := by
    intro n
    rw [← Bool.not_eq_true, isUnion_iff]
    exact h.arrayType_not_union n
  induction n with
  | zero =>
      exact lowerType_name (h.arrayType_plain 0) (hunion 0) (beforeSuffix?_eq_none_iff.2 h.notArray)
  | succ n ih =>
      rw [arrayType, lowerType_array (h.arrayType_plain (n + 1)) (hunion (n + 1)), ih]
      rfl

/-- Brackets behind an atom are lowered to as many arrays around its schema, of which only the
outermost allows null if the type does. -/
theorem lowerType_nested (n : Nat) (nullable : Bool) :
    lowerType (withNull nullable (arrayType atom n)) =
        { arraySchema (lowerPrimitive atom) n with nullable } ∧
      (lowerPrimitive atom).nullable = false := by
  have hfilled : arrayType atom n ≠ "" := by simpa using (h.arrayType_trimmed n).1
  refine ⟨?_, congrArg Schema.nullable (lowerName_nullable atom.toList).symm⟩
  rw [lowerType_withNull (h.arrayType_plain n) fun _ => hfilled, lowerType_arrayType h]

end

/-- An atom that has brackets and bars in it. -/
theorem lowerType_nested_recordType :
    Atom "Record<string, Shelf[] |null>" ∧
      lowerType "Record<string, Shelf[] |null>[][] | null" =
        { Schema.any with
          type := some "array"
          items := some
            { Schema.any with
              type := some "array"
              items := some { Schema.any with type := some "object" } }
          nullable := true } := by
  have hatom : Atom "Record<string, Shelf[] |null>" := by decide
  have hschema : lowerPrimitive "Record<string, Shelf[] |null>" =
      { Schema.any with type := some "object" } := by
    have hlookup : primitives.lookup "Record<string, Shelf[] |null>" = none := by decide
    have hrecord : isRecord "Record<string, Shelf[] |null>".toList = true := by decide
    rw [lowerPrimitive, lowerName, String.ofList_toList, hlookup, hrecord]
    rfl
  have htype : withNull true (arrayType "Record<string, Shelf[] |null>" 2) =
      "Record<string, Shelf[] |null>[][] | null" := by
    decide
  have hnested := (lowerType_nested hatom 2 true).1
  rw [htype, hschema] at hnested
  exact ⟨hatom, hnested⟩

/-! ## References -/

/-- No blank stands right before a pair of array brackets. -/
def TightBrackets (t : String) : Prop :=
  ∀ c ∈ t.toList, isBlank c = true → ¬ c :: arraySuffix <:+: t.toList

instance (t : String) : Decidable (TightBrackets t) :=
  inferInstanceAs (Decidable (∀ c ∈ t.toList, isBlank c = true → ¬ c :: arraySuffix <:+: t.toList))

/-- The schema of a reference to the component of a name, or of an array of such references. -/
def referenceSchema (name : String) (many nullable : Bool) : Schema :=
  let one := { Schema.any with ref := some (reference name) }
  if many then { Schema.any with type := some "array", items := some one, nullable }
  else { one with nullable }

theorem lowerName_of_isModelName {name : List Char} (h : isModelName name = true) :
    lowerName name = { Schema.any with ref := some (reference (String.ofList name)) } := by
  have hprimitives : primitives.map (·.1) = primitiveNames := rfl
  have hlookup : primitives.lookup (String.ofList name) = none := by
    rw [List.lookup_eq_none_iff]
    intro p hp
    rw [bne_iff_ne]
    intro hname
    have hnot := not_primitive_of_isModelName h
    rw [hname, ← hprimitives, ← Bool.not_eq_true, List.contains_iff_mem] at hnot
    exact hnot (List.mem_map_of_mem hp)
  unfold lowerName
  rw [hlookup, not_record_of_isModelName h]
  rfl

theorem reference_injective : Function.Injective reference :=
  Function.LeftInverse.injective targetName_reference

theorem eq_of_lowerName_ref {name : List Char} {target : String}
    (h : (lowerName name).ref = some (reference target)) : String.ofList name = target := by
  unfold lowerName at h
  split at h
  · cases h
  · split at h
    · cases h
    · exact reference_injective (Option.some.inj h)

theorem lowerName_items (name : List Char) : (lowerName name).items = none := by
  unfold lowerName
  split
  · rfl
  · split <;> rfl

section

variable {t base : List Char} {nullable : Bool} (hsplit : splitNull t = (base, nullable))

include hsplit

theorem lowerExpr_of_modelName (h : isModelName base = true) :
    lowerExpr t = referenceSchema (String.ofList base) false nullable := by
  rw [lowerExpr_of_splitNull hsplit, not_union_of_isModelName h, not_array_of_isModelName h,
    if_neg Bool.false_ne_true]
  simp only [lowerName_of_isModelName h]
  rfl

theorem base_of_lowerExpr {name : String} {allows : Bool}
    (h : lowerExpr t = referenceSchema name false allows) :
    element? base = none ∧ String.ofList base = name := by
  rw [lowerExpr_of_splitNull hsplit] at h
  split at h
  · cases congrArg Schema.enum h
  · split at h
    · cases congrArg Schema.type h
    · next hnone => exact ⟨hnone, eq_of_lowerName_ref (congrArg Schema.ref h)⟩

theorem element_of_lowerExpr {name : String} {allows : Bool}
    (h : lowerExpr t = referenceSchema name true allows) :
    isUnion base = false ∧ ∃ element, element? base = some element ∧
      lowerExpr element = referenceSchema name false false := by
  rw [lowerExpr_of_splitNull hsplit] at h
  split at h
  · cases congrArg Schema.enum h
  · next hunion =>
    split at h
    · next element helement =>
      exact ⟨by simpa using hunion, element, helement, Option.some.inj (congrArg Schema.items h)⟩
    · have hitems := congrArg Schema.items h
      rw [lowerName_items] at hitems
      cases hitems

end

/-! ## Elements -/

/-- The elements of an array are trimmed if the brackets behind them are tight. -/
theorem plain_element {t : String} (h : TightBrackets t) {element : List Char}
    (hunion : isUnion (splitNull t.toList).1 = false)
    (helement : element? (splitNull t.toList).1 = some element) : Plain element := by
  obtain ⟨htrim, hwithin⟩ := splitNull_base t.toList
  have hbase := eq_append_of_element? helement
  rw [hbase] at htrim hwithin hunion
  constructor
  · rw [trim_eq_self_iff]
    constructor
    · intro c hc
      refine ((trim_eq_self_iff _).1 htrim).1 c ?_
      rw [List.head?_append, hc]
      rfl
    · intro c hc
      obtain ⟨front, rfl⟩ := List.getLast?_eq_some_iff.1 hc
      have hlast : c :: arraySuffix <:+: t.toList := by
        refine List.IsInfix.trans ?_ hwithin
        rw [List.append_assoc]
        exact (List.suffix_append ..).isInfix
      by_contra hblank
      exact h c (hlast.subset List.mem_cons_self) (by simpa using hblank) hlast
  · intro hnull
    have hseparator := (separator_infix_of_nullSuffix hnull).trans
      (List.prefix_append element arraySuffix).isInfix
    rw [← isUnion_iff, hunion] at hseparator
    cases hseparator

/-! ## References in both directions -/

theorem referenceBase_eq (t : String) :
    referenceBase t = (element? (splitNull t.toList).1).getD (splitNull t.toList).1 :=
  rfl

theorem lowerType_of_modelName {t : String} (h : TightBrackets t)
    (hname : isModelName (referenceBase t) = true) :
    lowerType t =
      referenceSchema (String.ofList (referenceBase t))
        (element? (splitNull t.toList).1).isSome (splitNull t.toList).2 := by
  have hsplit : splitNull t.toList = ((splitNull t.toList).1, (splitNull t.toList).2) := rfl
  unfold lowerType
  rw [referenceBase_eq] at hname ⊢
  cases helement : element? (splitNull t.toList).1 with
  | none =>
      rw [helement] at hname
      exact lowerExpr_of_modelName hsplit hname
  | some element =>
      rw [helement, Option.getD_some] at hname
      have hunion : isUnion (splitNull t.toList).1 = false := by
        rw [← Bool.not_eq_true, isUnion_iff, eq_append_of_element? helement]
        intro hseparator
        have hinner := separator_infix_of_array hseparator
        rw [← isUnion_iff, not_union_of_isModelName hname] at hinner
        cases hinner
      have hplain := plain_element h hunion helement
      rw [lowerExpr_of_splitNull hsplit, hunion, if_neg Bool.false_ne_true]
      simp only [helement, lowerExpr_of_modelName (splitNull_of_plain hplain) hname]
      rfl

theorem referenceBase_of_lowerType {t name : String} {many nullable : Bool} (h : TightBrackets t)
    (hlowered : lowerType t = referenceSchema name many nullable) :
    String.ofList (referenceBase t) = name ∧ (element? (splitNull t.toList).1).isSome = many := by
  have hsplit : splitNull t.toList = ((splitNull t.toList).1, (splitNull t.toList).2) := rfl
  rw [referenceBase_eq]
  cases many with
  | false =>
      obtain ⟨hnone, hname⟩ := base_of_lowerExpr hsplit hlowered
      rw [hnone]
      exact ⟨hname, rfl⟩
  | true =>
      obtain ⟨hunion, element, helement, hinner⟩ := element_of_lowerExpr hsplit hlowered
      have hplain := plain_element h hunion helement
      rw [helement]
      exact ⟨(base_of_lowerExpr (splitNull_of_plain hplain) hinner).2, rfl⟩

/-- A type names a model exactly if it is lowered to a reference to the component of a model, or to
an array of such references.  A relationship of this type has the resource type of that model, and
is to many exactly if the type is lowered to an array. -/
theorem isModelReference_iff_lowered {t : String} (h : TightBrackets t) :
    (isModelReference t = true ↔ ∃ name many nullable,
        isModelName name.toList = true ∧ lowerType t = referenceSchema name many nullable) ∧
      ∀ name many nullable, lowerType t = referenceSchema name many nullable →
        ∀ p : Property, p.type = t → (relationshipOf p).resource = snakeCase name ∧
          (relationshipOf p).kind = if many then .hasMany else .hasOne := by
  rw [isModelReference_eq]
  refine ⟨⟨fun hname => ?_, ?_⟩, ?_⟩
  · exact ⟨_, _, _, by rwa [String.toList_ofList], lowerType_of_modelName h hname⟩
  · rintro ⟨name, many, nullable, hname, hlowered⟩
    rw [← (referenceBase_of_lowerType h hlowered).1, String.toList_ofList] at hname
    exact hname
  · rintro name many nullable hlowered p rfl
    obtain ⟨hname, hmany⟩ := referenceBase_of_lowerType h hlowered
    rw [← hname, ← hmany, referenceBase_eq, relationshipOf]
    dsimp only
    exact ⟨rfl, rfl⟩

/-- An array of references that allows null, with blanks around it. -/
theorem isModelReference_iff_lowered_blogPosts :
    TightBrackets " Blog_Posts2[] | null" ∧ isModelReference " Blog_Posts2[] | null" = true ∧
      lowerType " Blog_Posts2[] | null" = referenceSchema "Blog_Posts2" true true ∧
      (relationshipOf ⟨"posts", " Blog_Posts2[] | null", false, none, none⟩).kind = .hasMany := by
  have htight : TightBrackets " Blog_Posts2[] | null" := by decide
  have hbase : referenceBase " Blog_Posts2[] | null" = "Blog_Posts2".toList := by decide
  have hname : isModelName "Blog_Posts2".toList = true := by decide
  have hmany : (element? (splitNull " Blog_Posts2[] | null".toList).1).isSome = true := by
    decide
  have hnull : (splitNull " Blog_Posts2[] | null".toList).2 = true := by decide
  have hlowered := lowerType_of_modelName htight (hbase ▸ hname)
  rw [hbase, String.ofList_toList, hmany, hnull] at hlowered
  obtain ⟨hiff, hrelationship⟩ := isModelReference_iff_lowered htight
  exact ⟨htight, hiff.2 ⟨_, _, _, hname, hlowered⟩, hlowered,
    (hrelationship _ _ _ hlowered _ rfl).2⟩

end OpenApi

end ApiShapes
