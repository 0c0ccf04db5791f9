import ApiShapes.TypeSpec.Reading
import Mathlib.Tactic

/-!
# Joined namespaces

Joining the namespaces of one name leaves each name once, in the order of first occurrence, so a
definition that has been read is never refused for a repeated name, and keeps the models of each
name in their order.  Namespaces whose names are distinct already are left as they are.
-/

namespace ApiShapes.TypeSpec

def namespaceNames (ns : List Namespace) : List String :=
  ns.map (·.name)

@[simp] theorem namespaceNames_nil : namespaceNames [] = [] := rfl

@[simp] theorem namespaceNames_cons (n : Namespace) (ns : List Namespace) :
    namespaceNames (n :: ns) = n.name :: namespaceNames ns := rfl

theorem namespaceNames_addNamespace (n : Namespace) (ns : List Namespace) :
    namespaceNames (addNamespace n ns) =
      if n.name ∈ namespaceNames ns then namespaceNames ns else namespaceNames ns ++ [n.name] := by
  induction ns with
  | nil => rfl
  | cons m ns ih =>
      rw [addNamespace]
      by_cases hm : m.name = n.name
      · rw [if_pos hm]
        simp [hm]
      · have hne : n.name ≠ m.name := fun h => hm h.symm
        rw [if_neg hm, namespaceNames_cons, ih]
        simp only [namespaceNames_cons, List.mem_cons, hne, false_or]
        split <;> rfl

theorem addNamespace_of_not_mem {n : Namespace} {ns : List Namespace}
    (h : n.name ∉ namespaceNames ns) : addNamespace n ns = ns ++ [n] := by
  induction ns with
  | nil => rfl
  | cons m ns ih =>
      rw [namespaceNames_cons, List.mem_cons, not_or] at h
      rw [addNamespace, if_neg (fun heq => h.1 heq.symm), ih h.2, List.cons_append]

/-- What holds of the parts and of every two of them joined holds of the joined list. -/
theorem addNamespace_forall {P : Namespace → Prop} {n : Namespace} {ns : List Namespace}
    (hjoin : ∀ m, P m → P n →
      P { m with models := m.models ++ n.models, operations := m.operations ++ n.operations })
    (hn : P n) (hns : ∀ m ∈ ns, P m) : ∀ m ∈ addNamespace n ns, P m := by
  induction ns with
  | nil => simpa [addNamespace] using hn
  | cons m ns ih =>
      have hm := hns m (by simp)
      have hrest : ∀ k ∈ ns, P k := fun k hk => hns k (by simp [hk])
      rw [addNamespace]
      split
      · simp only [List.forall_mem_cons]
        exact ⟨hjoin m hm hn, hrest⟩
      · simp only [List.forall_mem_cons]
        exact ⟨hm, ih hrest⟩

theorem nodup_addNamespace (n : Namespace) {ns : List Namespace}
    (h : (namespaceNames ns).Nodup) : (namespaceNames (addNamespace n ns)).Nodup := by
  rw [namespaceNames_addNamespace]
  split
  · exact h
  · next hn =>
    rw [List.nodup_append]
    refine ⟨h, by simp, ?_⟩
    intro a ha b hb
    obtain rfl : b = n.name := by simpa using hb
    rintro rfl
    exact hn ha

theorem nodup_mergeNamespaces (ns : List Namespace) :
    (namespaceNames (mergeNamespaces ns)).Nodup :=
  List.foldlRecOn (motive := fun merged => (namespaceNames merged).Nodup) ns _ List.nodup_nil
    fun _ h n _ => nodup_addNamespace n h

theorem mergeNamespaces_forall {P : Namespace → Prop} {ns : List Namespace}
    (hjoin : ∀ m n, P m → P n →
      P { m with models := m.models ++ n.models, operations := m.operations ++ n.operations })
    (hns : ∀ n ∈ ns, P n) : ∀ n ∈ mergeNamespaces ns, P n :=
  List.foldlRecOn (motive := fun merged => ∀ n ∈ merged, P n) ns _ (by simp) fun _ h n hn =>
    addNamespace_forall (fun m => hjoin m n) (hns n hn) h

theorem foldl_addNamespace_of_nodup (merged : List Namespace) {ns : List Namespace}
    (h : (namespaceNames (merged ++ ns)).Nodup) :
    ns.foldl (fun merged n => addNamespace n merged) merged = merged ++ ns := by
  induction ns generalizing merged with
  | nil => simp
  | cons n ns ih =>
      have hnew : n.name ∉ namespaceNames merged := by
        simp only [namespaceNames, List.map_append, List.map_cons, List.nodup_append] at h
        exact fun hmem => h.2.2 n.name hmem n.name (by simp) rfl
      have hjoin : merged ++ n :: ns = merged ++ [n] ++ ns := by simp
      rw [List.foldl_cons, addNamespace_of_not_mem hnew, hjoin, ih _ (hjoin ▸ h)]

theorem mergeNamespaces_of_nodup {ns : List Namespace} (h : (namespaceNames ns).Nodup) :
    mergeNamespaces ns = ns :=
  foldl_addNamespace_of_nodup [] h

theorem foldl_insert_eq_eraseDups (names found : List String) :
    names.foldl (fun found name => if found.contains name then found else found ++ [name]) found =
      found ++ (names.filter fun name => !found.contains name).eraseDups := by
  induction names generalizing found with
  | nil => simp
  | cons name names ih =>
      rw [List.foldl_cons, ih]
      cases hfound : found.contains name with
      | true => rw [if_pos rfl, List.filter_cons_of_neg (by simpa using hfound)]
      | false =>
          have hothers : (names.filter fun other => !found.contains other).filter
              (fun other => !other == name) =
                names.filter fun other => !(found ++ [name]).contains other := by
            rw [List.filter_filter]
            apply List.filter_congr
            intro other _
            grind
          rw [List.filter_cons_of_pos (by simpa using hfound), List.eraseDups_cons, hothers]
          simp

/-- Joining keeps each name once, in the order of first occurrence. -/
theorem namespaceNames_mergeNamespaces (ns : List Namespace) :
    namespaceNames (mergeNamespaces ns) = (namespaceNames ns).eraseDups := by
  have hnames : namespaceNames (mergeNamespaces ns) = (namespaceNames ns).foldl
      (fun found name => if found.contains name then found else found ++ [name]) [] := by
    symm
    rw [mergeNamespaces, namespaceNames, List.foldl_map]
    refine @List.foldl_hom _ _ _ namespaceNames _ _ ns [] fun merged n => ?_
    rw [namespaceNames_addNamespace]
    simp only [List.contains_iff_mem]
  rw [hnames, foldl_insert_eq_eraseDups]
  simp

/-- The models of all namespaces with a name. -/
def modelsNamed (name : String) (ns : List Namespace) : List Model :=
  (ns.filter (·.name = name)).flatMap (·.models)

@[simp] theorem modelsNamed_nil (name : String) : modelsNamed name [] = [] := rfl

theorem modelsNamed_cons (name : String) (n : Namespace) (ns : List Namespace) :
    modelsNamed name (n :: ns) =
      (if n.name = name then n.models else []) ++ modelsNamed name ns := by
  unfold modelsNamed
  rw [List.filter_cons]
  split
  · next hn => rw [if_pos (of_decide_eq_true hn), List.flatMap_cons]
  · next hn =>
    rw [if_neg (by simpa using hn)]
    rfl

@[simp] theorem modelsNamed_append (name : String) (a b : List Namespace) :
    modelsNamed name (a ++ b) = modelsNamed name a ++ modelsNamed name b := by
  simp [modelsNamed]

theorem modelsNamed_of_not_mem {name : String} {ns : List Namespace}
    (h : name ∉ namespaceNames ns) : modelsNamed name ns = [] := by
  induction ns with
  | nil => rfl
  | cons n ns ih =>
      rw [namespaceNames_cons, List.mem_cons, not_or] at h
      rw [modelsNamed_cons, if_neg (Ne.symm h.1), ih h.2, List.nil_append]

/-- The models of a namespace come behind those of its name. -/
theorem modelsNamed_addNamespace (name : String) (n : Namespace) {ns : List Namespace}
    (h : (namespaceNames ns).Nodup) :
    modelsNamed name (addNamespace n ns) = modelsNamed name (ns ++ [n]) := by
  induction ns with
  | nil => rfl
  | cons m ns ih =>
      obtain ⟨hm, hns⟩ := List.nodup_cons.1 h
      rw [addNamespace]
      split
      · next hjoin =>
        rw [modelsNamed_append, modelsNamed_cons, modelsNamed_cons, modelsNamed_cons]
        by_cases hname : m.name = name
        · have hrest : modelsNamed name ns = [] := modelsNamed_of_not_mem (hname ▸ hm)
          simp [hname, hrest, ← hjoin]
        · simp [hname, ← hjoin]
      · rw [modelsNamed_cons, ih hns, List.cons_append, modelsNamed_cons]

theorem modelsNamed_foldl_addNamespace (name : String) (ns : List Namespace)
    {merged : List Namespace} (h : (namespaceNames merged).Nodup) :
    modelsNamed name (ns.foldl (fun merged n => addNamespace n merged) merged) =
      modelsNamed name (merged ++ ns) := by
  induction ns generalizing merged with
  | nil => simp
  | cons n ns ih =>
      rw [List.foldl_cons, ih (nodup_addNamespace n h), modelsNamed_append,
        modelsNamed_addNamespace name n h, ← modelsNamed_append, List.append_assoc,
        List.singleton_append]

/-- Joining keeps the models of each name in their order. -/
theorem modelsNamed_mergeNamespaces (name : String) (ns : List Namespace) :
    modelsNamed name (mergeNamespaces ns) = modelsNamed name ns :=
  modelsNamed_foldl_addNamespace name ns List.nodup_nil

theorem modelsNamed_of_nodup {ns : List Namespace} (h : (namespaceNames ns).Nodup) {n : Namespace}
    (hn : n ∈ ns) : modelsNamed n.name ns = n.models := by
  obtain ⟨before, after, rfl⟩ := List.append_of_mem hn
  rw [namespaceNames, List.map_append, List.map_cons, List.nodup_middle, List.nodup_cons,
    List.mem_append, not_or] at h
  rw [modelsNamed_append, modelsNamed_cons, if_pos rfl, modelsNamed_of_not_mem h.1.1,
    modelsNamed_of_not_mem h.1.2, List.nil_append, List.append_nil]

theorem repeatedNames_eq_nil_iff (names : List String) :
    repeatedNames names = [] ↔ names.Nodup := by
  rw [repeatedNames, ← List.length_eq_zero_iff, List.length_mergeSort, List.length_eq_zero_iff,
    List.nodup_iff_count_le_one]
  constructor
  · intro h n
    by_cases hn : n ∈ names
    · by_contra hcount
      have hmem : n ∈ (names.filter fun n => 1 < names.count n).eraseDups := by
        rw [List.mem_eraseDups, List.mem_filter]
        exact ⟨hn, by simpa using hcount⟩
      rw [h] at hmem
      exact absurd hmem (by simp)
    · rw [List.count_eq_zero_of_not_mem hn]
      exact Nat.zero_le 1
  · intro h
    have hnone : names.filter (fun n => 1 < names.count n) = [] := by
      rw [List.filter_eq_nil_iff]
      intro n _
      simpa using h n
    rw [hnone]
    rfl

/-- A definition is accepted exactly if the names of its namespaces are distinct. -/
theorem checkNamespaces_eq_valid_iff (d : Definition) (input : Value) :
    d.checkNamespaces input = .valid d ↔ (namespaceNames d.namespaces).Nodup := by
  rw [← repeatedNames_eq_nil_iff, Definition.checkNamespaces, namespaceNames]
  constructor
  · intro h
    split at h
    · next hnames => exact hnames
    · simp [Checked.refuse] at h
  · intro h
    rw [h]

end ApiShapes.TypeSpec
