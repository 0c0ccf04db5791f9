import ApiShapes.TypeSpec.Definition
import Mathlib.Tactic

/-!
# The first property of each name

Of several properties with one name the first counts.  What is left when the others are dropped has
distinct names, keeps its order, and gives the same property for each name.
-/

namespace ApiShapes.TypeSpec

/-- The properties whose name no earlier one has. -/
def firstOfEachName (ps : List Property) : List Property :=
  ps.eraseDupsBy fun p q => p.name == q.name

@[simp] theorem firstOfEachName_nil : firstOfEachName [] = [] :=
  List.eraseDupsBy_nil

theorem firstOfEachName_cons (p : Property) (ps : List Property) :
    firstOfEachName (p :: ps) = p :: firstOfEachName (ps.filter fun q => q.name ≠ p.name) := by
  unfold firstOfEachName
  rw [List.eraseDupsBy_cons]
  simp only [beq_eq_false_iff_ne]

/-- A property whose name is not taken counts, and takes its name from those behind it. -/
theorem firstOfEachName_filter_cons_of_new {taken : List String} {p : Property}
    (hp : p.name ∉ taken) (ps : List Property) :
    firstOfEachName ((p :: ps).filter fun q => q.name ∉ taken) =
      p :: firstOfEachName (ps.filter fun q => q.name ∉ p.name :: taken) := by
  rw [List.filter_cons_of_pos (by simpa using hp), firstOfEachName_cons, List.filter_filter]
  congr 2
  apply List.filter_congr
  intro q _
  simp

/-- Each property is followed by those of other names, of which there are fewer. -/
theorem firstOfEachName_induction {motive : List Property → Prop} (nil : motive [])
    (cons : ∀ p ps, motive (ps.filter fun q => q.name ≠ p.name) → motive (p :: ps)) :
    ∀ ps, motive ps
  | [] => nil
  | p :: ps => cons p ps (firstOfEachName_induction nil cons _)
termination_by ps => ps.length
decreasing_by exact Nat.lt_succ_of_le (List.length_filter_le _ _)

theorem firstOfEachName_sublist (ps : List Property) : (firstOfEachName ps).Sublist ps := by
  induction ps using firstOfEachName_induction with
  | nil => simp
  | cons p ps ih =>
      rw [firstOfEachName_cons]
      apply List.Sublist.cons_cons
      exact ih.trans List.filter_sublist

theorem nodup_firstOfEachName (ps : List Property) :
    ((firstOfEachName ps).map (·.name)).Nodup := by
  induction ps using firstOfEachName_induction with
  | nil => simp
  | cons p ps ih =>
      rw [firstOfEachName_cons, List.map_cons, List.nodup_cons]
      refine ⟨?_, ih⟩
      intro hmem
      obtain ⟨q, hq, hname⟩ := List.mem_map.1 hmem
      have hfilter := (firstOfEachName_sublist _).subset hq
      rw [List.mem_filter, decide_eq_true_eq] at hfilter
      exact hfilter.2 hname

theorem firstOfEachName_of_nodup {ps : List Property} (h : (ps.map (·.name)).Nodup) :
    firstOfEachName ps = ps := by
  induction ps with
  | nil => exact firstOfEachName_nil
  | cons p ps ih =>
      obtain ⟨hp, hps⟩ := List.nodup_cons.1 h
      have hothers : ps.filter (fun q => q.name ≠ p.name) = ps := by
        rw [List.filter_eq_self]
        intro q hq
        rw [decide_eq_true_eq]
        intro hname
        exact hp (List.mem_map.2 ⟨q, hq, hname⟩)
      rw [firstOfEachName_cons, hothers, ih hps]

theorem find?_firstOfEachName (name : String) (ps : List Property) :
    (firstOfEachName ps).find? (·.name = name) = ps.find? (·.name = name) := by
  induction ps using firstOfEachName_induction with
  | nil => rfl
  | cons p ps ih =>
      rw [firstOfEachName_cons]
      by_cases hp : p.name = name
      · simp [hp]
      · rw [List.find?_cons_of_neg (by simpa using hp), List.find?_cons_of_neg (by simpa using hp),
          ih, List.find?_filter]
        congr 1
        funext q
        by_cases hq : q.name = name
        · simp [hq, Ne.symm hp]
        · simp [hq]

theorem mem_names_firstOfEachName {name : String} {ps : List Property} :
    name ∈ (firstOfEachName ps).map (·.name) ↔ name ∈ ps.map (·.name) := by
  have hfind : ∀ qs : List Property, name ∈ qs.map (·.name) ↔
      (qs.find? (·.name = name)).isSome = true := by
    intro qs
    rw [List.find?_isSome, List.mem_map]
    simp only [decide_eq_true_eq]
  rw [hfind, hfind, find?_firstOfEachName]

/-- Properties that follow others count if their names are new. -/
theorem firstOfEachName_append (ps qs : List Property) :
    firstOfEachName (ps ++ qs) =
      firstOfEachName ps ++ firstOfEachName (qs.filter fun q => q.name ∉ ps.map (·.name)) := by
  induction ps using firstOfEachName_induction generalizing qs with
  | nil => simp
  | cons p ps ih =>
      have hnew : (qs.filter fun q => q.name ≠ p.name).filter
          (fun q => q.name ∉ (ps.filter fun q => q.name ≠ p.name).map (·.name)) =
            qs.filter fun q => q.name ∉ (p :: ps).map (·.name) := by
        rw [List.filter_filter]
        apply List.filter_congr
        intro q _
        by_cases hq : q.name = p.name
        · simp [hq]
        · have hmem : q.name ∈ (ps.filter fun r => r.name ≠ p.name).map (·.name) ↔
              q.name ∈ ps.map (·.name) := by
            simp only [List.mem_map, List.mem_filter, decide_eq_true_eq]
            constructor
            · rintro ⟨r, ⟨hr, -⟩, hname⟩
              exact ⟨r, hr, hname⟩
            · rintro ⟨r, hr, hname⟩
              exact ⟨r, ⟨hr, hname ▸ hq⟩, hname⟩
          simp only [hmem, hq, List.map_cons, List.mem_cons, false_or, ne_eq, not_false_eq_true,
            decide_true, Bool.and_true]
      rw [List.cons_append, firstOfEachName_cons, firstOfEachName_cons, List.filter_append, ih,
        hnew, List.cons_append]

end ApiShapes.TypeSpec
