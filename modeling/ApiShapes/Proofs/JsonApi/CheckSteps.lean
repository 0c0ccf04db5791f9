import ApiShapes.JsonApi.Check
import ApiShapes.Proofs.Document.StepResults
import Mathlib.Tactic

/-!
# Steps of the check

What the structural check makes of a member, of a group of members and of a whole record, each from
what it makes of the parts.
-/

namespace ApiShapes.JsonApi

/-! ## Members -/

/-- The check of one member. -/
def checkMember (group : Group) (index : Nat) (names : List Value) (member : Value) :
    Except Value.AccessFault (List Defect × List Value) :=
  match member with
  | .record _ =>
    let name := (member.get? "name").getD .null
    (checkName group index names name).map fun (defects, names) =>
      (defects ++ (if hasField "type" member then [] else [.memberWithoutType group name]) ++
        (if group = .relationships && !hasField "resource" member then
          [.memberWithoutResource group name] else []), names)
  | _ => .ok ([.notAnObject group index], names)

theorem checkFrom_eq_bind (group : Group) (index : Nat) (names : List Value) (member : Value)
    (rest : List Value) :
    checkFrom group index names (member :: rest) = do
      let (defects, names) ← checkMember group index names member
      let (more, names) ← checkFrom group (index + 1) names rest
      return (defects ++ more, names) := by
  cases member with
  | record entries =>
      rw [checkFrom, checkMember]
      cases checkName group index names (((Value.record entries).get? "name").getD .null) with
      | error fault => rfl
      | ok found => rfl
  | _ => rfl

theorem checkFrom_cons_eq_ok_iff (group : Group) (index : Nat) (names : List Value) (member : Value)
    (rest : List Value) (defects : List Defect) (after : List Value) :
    checkFrom group index names (member :: rest) = .ok (defects, after) ↔
      ∃ first used more, checkMember group index names member = .ok (first, used) ∧
        checkFrom group (index + 1) used rest = .ok (more, after) ∧ first ++ more = defects := by
  rw [checkFrom_eq_bind, bind_eq_ok_iff]
  constructor
  · rintro ⟨⟨first, used⟩, hfirst, h⟩
    rw [bind_eq_ok_iff] at h
    obtain ⟨⟨more, last⟩, hmore, h⟩ := h
    cases h
    exact ⟨first, used, more, hfirst, hmore, rfl⟩
  · rintro ⟨first, used, more, hfirst, hmore, rfl⟩
    refine ⟨(first, used), hfirst, ?_⟩
    rw [bind_eq_ok_iff]
    exact ⟨(more, after), hmore, rfl⟩

/-! ## Records -/

theorem checkResource_eq_ok_iff (resource : Value) (defects : List Defect) :
    checkResource resource = .ok defects ↔
      ∃ attributes first names relationships second after,
        groupElements .attributes resource = .ok attributes ∧
        checkFrom .attributes 0 [] attributes = .ok (first, names) ∧
        groupElements .relationships resource = .ok relationships ∧
        checkFrom .relationships 0 names relationships = .ok (second, after) ∧
        (if hasField "type" resource then [] else [.noType]) ++ first ++ second = defects := by
  rw [checkResource]
  simp only [bind_eq_ok_iff, Prod.exists, pure, Except.pure, Except.ok.injEq]
  constructor
  · rintro ⟨attributes, hattributes, first, names, hfirst, relationships, hrelationships, second,
      after, hsecond, heq⟩
    exact ⟨attributes, first, names, relationships, second, after, hattributes, hfirst,
      hrelationships, hsecond, heq⟩
  · rintro ⟨attributes, first, names, relationships, second, after, hattributes, hfirst,
      hrelationships, hsecond, heq⟩
    exact ⟨attributes, hattributes, first, names, hfirst, relationships, hrelationships, second,
      after, hsecond, heq⟩

theorem checkSerializer_record (entries : List (Value × Value)) :
    checkSerializer (.record entries) =
      match (Value.record entries).get? "resource" with
      | some (.record fields) =>
        (checkResource (.record fields)).map
          ((if hasField "name" (.record entries) then [] else [.noName]) ++ ·)
      | _ => .ok ((if hasField "name" (.record entries) then [] else [.noName]) ++ [.noResource]) :=
  rfl

end ApiShapes.JsonApi
