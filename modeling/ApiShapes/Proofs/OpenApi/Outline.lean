import ApiShapes.OpenApi.Generation
import ApiShapes.Proofs.TypeSpec.Legible
import Mathlib.Tactic

/-!
# Outlines of OpenAPI documents

The outline of a document is what is left without descriptions and paths.  Lowering a type adds no
description, so the document of what reading keeps of a definition is the outline of the document of
the definition itself.
-/

namespace ApiShapes

namespace Entries

variable {α β : Type}

def mapValues (f : α → β) (entries : Entries α) : Entries β :=
  entries.map fun (k, v) => (k, f v)

theorem mapValues_put (f : α → β) (key : String) (value : α) (entries : Entries α) :
    (entries.put key value).mapValues f = (entries.mapValues f).put key (f value) := by
  induction entries with
  | nil => rfl
  | cons entry rest ih =>
      obtain ⟨k, v⟩ := entry
      unfold mapValues at ih ⊢
      rw [List.map_cons, put, put]
      by_cases hk : k = key
      · rw [if_pos hk, if_pos hk, List.map_cons]
      · rw [if_neg hk, if_neg hk, List.map_cons, ih]

theorem mapValues_ofList (f : α → β) (pairs : List (String × α)) :
    (ofList pairs).mapValues f = ofList (pairs.map fun (k, v) => (k, f v)) := by
  rw [ofList, ofList, List.foldl_map]
  symm
  refine @List.foldl_hom _ _ _ (mapValues f) _ _ pairs [] fun entries pair => ?_
  exact (mapValues_put f pair.1 pair.2 entries).symm

end Entries

namespace OpenApi

open TypeSpec (Definition Model Property filled)

/-! ## Outlines -/

def Schema.undescribed : Schema → Schema
  | ⟨ref, type, format, _, enum, some items, nullable⟩ =>
    ⟨ref, type, format, none, enum, some items.undescribed, nullable⟩
  | ⟨ref, type, format, _, enum, none, nullable⟩ =>
    ⟨ref, type, format, none, enum, none, nullable⟩

def ObjectSchema.undescribed (s : ObjectSchema) : ObjectSchema :=
  { s with properties := s.properties.mapValues Schema.undescribed, description := none }

/-- A document without its paths and without descriptions in its information and schemas. -/
def Document.outline (d : Document) : Document :=
  { info := { d.info with description := none }
    servers := d.servers
    paths := []
    schemas := d.schemas.mapValues ObjectSchema.undescribed }

/-! ## Lowered types -/

theorem undescribed_lowerName (name : List Char) (nullable : Bool) :
    Schema.undescribed { lowerName name with nullable } = { lowerName name with nullable } := by
  unfold lowerName
  split
  · rfl
  · split <;> rfl

theorem undescribed_lowerExpr (t : List Char) : (lowerExpr t).undescribed = lowerExpr t := by
  induction t using lowerExpr.induct with
  | case1 t base hunion =>
      rw [lowerExpr, if_pos hunion]
      rfl
  | case2 t base hunion element helement ih =>
      rw [lowerExpr, if_neg hunion]
      split
      · next e he =>
        obtain rfl : element = e := Option.some.inj (helement.symm.trans he)
        rw [Schema.undescribed, ih]
        rfl
      · next hnone =>
        rw [helement] at hnone
        cases hnone
  | case3 t base hunion helement =>
      rw [lowerExpr, if_neg hunion]
      split
      · next e he =>
        rw [helement] at he
        cases he
      · apply undescribed_lowerName

theorem undescribed_with (s : Schema) (description : Option String) :
    Schema.undescribed { s with description } = s.undescribed := by
  obtain ⟨ref, type, format, _, enum, items, nullable⟩ := s
  cases items with
  | none => rfl
  | some items => rfl

theorem undescribed_with_none (s : Schema) :
    { s.undescribed with description := none } = s.undescribed := by
  obtain ⟨ref, type, format, _, enum, items, nullable⟩ := s
  cases items with
  | none => rfl
  | some items => rfl

theorem with_none_lowerExpr (t : List Char) :
    { lowerExpr t with description := none } = lowerExpr t := by
  have hnone := undescribed_with_none (lowerExpr t)
  rwa [undescribed_lowerExpr] at hnone

/-! ## The parts of a document -/

theorem undescribed_propertySchema (p : Property) :
    (propertySchema p).undescribed = propertySchema p.kept := by
  unfold propertySchema lowerType
  rw [undescribed_with, undescribed_lowerExpr]
  exact (with_none_lowerExpr p.type.toList).symm

theorem undescribed_modelSchema (m : Model) :
    (modelSchema m).undescribed = modelSchema m.kept := by
  have hproperties : (m.properties.map fun p => (p.name, propertySchema p)).map
      (fun (k, v) => (k, v.undescribed)) =
        (m.properties.map Property.kept).map fun p => (p.name, propertySchema p) := by
    rw [List.map_map, List.map_map]
    apply List.map_congr_left
    intro p _
    exact congrArg (Prod.mk p.name) (undescribed_propertySchema p)
  have hrequired : (m.properties.map Property.kept).filter (!·.optional) =
      (m.properties.filter (!·.optional)).map Property.kept := by
    rw [List.filter_map]
    rfl
  unfold modelSchema ObjectSchema.undescribed
  simp only [Entries.mapValues_ofList, hproperties, Model.kept, hrequired, List.map_map]
  rfl

theorem schemasOf_kept (d : Definition) :
    schemasOf d.kept = (schemasOf d).mapValues ObjectSchema.undescribed := by
  have hmodels : d.kept.models = d.models.map Model.kept := by
    unfold Definition.models Definition.kept
    rw [List.flatMap_map, List.map_flatMap]
    rfl
  unfold schemasOf
  rw [hmodels, Entries.mapValues_ofList, List.map_map, List.map_map]
  congr 1
  apply List.map_congr_left
  intro m _
  exact congrArg (Prod.mk m.name) (undescribed_modelSchema m).symm

theorem pathsOf_kept (d : Definition) : pathsOf d.kept = [] := by
  have hoperations : d.kept.namespaces.flatMap (·.operations) = [] := by
    rw [List.flatMap_eq_nil_iff]
    intro n hn
    obtain ⟨n, -, rfl⟩ := List.mem_map.1 hn
    rfl
  rw [pathsOf, hoperations, List.foldl_nil]

theorem filled_of_ne_empty {t : String} (h : t ≠ "") : filled (some t) = some t := by
  simp [filled, h]

theorem textOr_filled (default : String) (s : Option String) :
    textOr default (filled s) = textOr default s := by
  cases s with
  | none => rfl
  | some t =>
      by_cases ht : t = ""
      · subst ht
        rfl
      · rw [filled_of_ne_empty ht]

theorem textOr_some (default t : String) :
    textOr default (some t) = if t = "" then default else t := by
  unfold textOr
  simp only [String.isEmpty_iff]

theorem textOr_ne_empty {default : String} (h : default ≠ "") (s : Option String) :
    textOr default s ≠ "" := by
  cases s with
  | none => exact h
  | some t =>
      rw [textOr_some]
      split
      · exact h
      · next ht => exact ht

/-- What reading keeps of a definition with a title gives the outline of its document. -/
theorem generate_kept {d : Definition} (htitle : filled d.title ≠ none)
    (servers : Option (List Server)) : generate d.kept servers = (generate d servers).outline := by
  have hversion : d.kept.version = filled d.version := by
    cases hfilled : filled d.title with
    | none => exact absurd hfilled htitle
    | some t => simp [Definition.kept, hfilled]
  have htitleKept : d.kept.title = filled d.title := rfl
  unfold generate Document.outline
  rw [schemasOf_kept, pathsOf_kept, hversion, htitleKept, textOr_filled, textOr_filled]
  rfl

end OpenApi

end ApiShapes
