import ApiShapes.Proofs.TypeSpec.OpenBlocks
import ApiShapes.Proofs.TypeSpec.SourceReading
import Mathlib.Tactic

/-!
# What a statement changes

All that one statement can do to what has been read: import, set title and version, open or close a
block, or add a property to the open model.  Every other statement is passed over.
-/

namespace ApiShapes.TypeSpec

/-- What a statement of some meaning makes of what has been read. -/
inductive Change (p : Progress) : Meaning → Progress → Prop where
  | imports (path : Option String) :
      Change p (.importPath path) { p with imports := p.imports ++ path.toList }
  | informs (title version : Option String) :
      Change p (.service title version) { p with title, version }
  | opensNamespace (name : String) :
      Change p (.namespaceHeader (some name)) (p.close.inside ⟨name, [], none⟩)
  | opensModel {n : OpenNamespace} (m : Model) (hopen : p.open? = some n) :
      Change p (.modelHeader (some m)) (p.inside { n.closeModel with model? := some m })
  | addsProperty {n : OpenNamespace} {m : Model} (property : Property) (hopen : p.open? = some n)
      (hinside : n.model? = some m) :
      Change p (.property property) (p.inside (n.addProperty m property))
  | closesModel {n : OpenNamespace} (hopen : p.open? = some n) (hinside : n.model?.isSome) :
      Change p .closing (p.inside n.closeModel)
  | closesNamespace {n : OpenNamespace} (hopen : p.open? = some n) (hinside : n.model? = none) :
      Change p .closing p.close
  | passes {meaning : Meaning} (ignored : List String) (hnone : meaning.namespace? = none) :
      Change p meaning { p with ignored }

theorem change_step (p : Progress) (s : Statement) : Change p s.meaning (p.step s) := by
  obtain ⟨text, meaning⟩ := s
  cases meaning with
  | importPath path => exact .imports path
  | service title version => exact .informs title version
  | namespaceHeader name =>
      cases name with
      | none => exact .passes p.ignored rfl
      | some name => exact .opensNamespace name
  | modelHeader model =>
      cases hopen : p.open? with
      | none =>
          simp only [Progress.step, hopen]
          exact .passes _ rfl
      | some n =>
          cases model with
          | none =>
              simp only [Progress.step, hopen]
              exact .passes p.ignored rfl
          | some m =>
              simp only [Progress.step, hopen]
              exact .opensModel m hopen
  | property property =>
      cases hopen : p.open? with
      | none =>
          simp only [Progress.step, hopen]
          exact .passes _ rfl
      | some n =>
          cases hinside : n.model? with
          | none =>
              simp only [Progress.step, hopen, hinside]
              exact .passes _ rfl
          | some m =>
              simp only [Progress.step, hopen, hinside]
              exact .addsProperty property hopen hinside
  | closing =>
      cases hopen : p.open? with
      | none =>
          simp only [Progress.step, hopen]
          exact .passes _ rfl
      | some n =>
          cases hinside : n.model? with
          | none =>
              simp only [Progress.step, hopen, hinside]
              exact .closesNamespace hopen hinside
          | some m =>
              simp only [Progress.step, hopen, hinside]
              exact .closesModel hopen (by simp [hinside])
  | other => exact .passes _ rfl

end ApiShapes.TypeSpec
