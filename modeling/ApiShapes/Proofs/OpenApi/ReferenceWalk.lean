import ApiShapes.Proofs.OpenApi.DocumentReferences
import Mathlib.Tactic

/-!
# Walking a document for its references

A document is a tree of records and lists of any depth.  A reference stands at a path, which gives
the position of an entry or an item at each level, and the walk meets the references in the
lexicographic order of their paths.  So what it finds to be missing is what is referred to anywhere
and has no schema of its name, each reference once, ordered by where it stands first.
-/

namespace ApiShapes.OpenApi

open Text

/-! ## Where references stand -/

/-- A text stands under `$ref` at a path: the positions of the entries and items that lead to it.
Any other value under `$ref` is a part of the tree like the values under other keys. -/
inductive RefersAt : Value → List Nat → String → Prop where
  | here {entries : List (Value × Value)} {i : Nat} {ref : String}
      (h : entries[i]? = some (.text "$ref", .text ref)) : RefersAt (.record entries) [i] ref
  | entry {entries : List (Value × Value)} {i : Nat} {key v : Value} {path : List Nat}
      {ref : String} (h : entries[i]? = some (key, v)) (hv : RefersAt v path ref) :
      RefersAt (.record entries) (i :: path) ref
  | item {items : List Value} {i : Nat} {v : Value} {path : List Nat} {ref : String}
      (h : items[i]? = some v) (hv : RefersAt v path ref) :
      RefersAt (.list items) (i :: path) ref

/-- The first place of a reference comes before all places of another one. -/
def Precedes (document : Value) (ref later : String) : Prop :=
  ∃ path, RefersAt document path ref ∧ ∀ other, RefersAt document other later → path < other

/-- What an entry refers to, with the paths below the entry. -/
def EntryRefersAt (entry : Value × Value) (path : List Nat) (ref : String) : Prop :=
  entry = (.text "$ref", .text ref) ∧ path = [] ∨ RefersAt entry.2 path ref

theorem refersAt_record_iff {entries : List (Value × Value)} {path : List Nat} {ref : String} :
    RefersAt (.record entries) path ref ↔
      ∃ part ∈ entries.zipIdx, ∃ below, path = part.2 :: below ∧
        EntryRefersAt part.1 below ref := by
  simp only [List.mem_zipIdx_iff_getElem?]
  constructor
  · intro h
    cases h with
    | here h => exact ⟨(_, _), h, [], rfl, Or.inl ⟨rfl, rfl⟩⟩
    | entry h hv => exact ⟨(_, _), h, _, rfl, Or.inr hv⟩
  · rintro ⟨⟨⟨key, v⟩, i⟩, h, below, rfl, ⟨heq, rfl⟩ | hv⟩
    · exact .here (heq ▸ h)
    · exact .entry h hv

theorem refersAt_list_iff {items : List Value} {path : List Nat} {ref : String} :
    RefersAt (.list items) path ref ↔
      ∃ part ∈ items.zipIdx, ∃ below, path = part.2 :: below ∧ RefersAt part.1 below ref := by
  simp only [List.mem_zipIdx_iff_getElem?]
  constructor
  · intro h
    cases h with
    | item h hv => exact ⟨(_, _), h, _, rfl, hv⟩
  · rintro ⟨⟨v, i⟩, h, below, rfl, hv⟩
    exact .item h hv

/-! ## The order of the walk -/

/-- References with the paths at which they stand, in the order of the paths and with none left
out. -/
structure Tracks (found : List (List Nat × String)) (refers : List Nat → String → Prop) :
    Prop where
  sorted : found.Pairwise (·.1 < ·.1)
  mem_iff : ∀ path ref, (path, ref) ∈ found ↔ refers path ref

/-- The references are those of a relation in the order of their paths. -/
def Walks (refs : List String) (refers : List Nat → String → Prop) : Prop :=
  ∃ found, Tracks found refers ∧ found.map Prod.snd = refs

theorem walks_nil {refers : List Nat → String → Prop} (h : ∀ path ref, ¬ refers path ref) :
    Walks [] refers :=
  ⟨[], ⟨List.Pairwise.nil, fun path ref => iff_of_false (by simp) (h path ref)⟩, rfl⟩

theorem Walks.congr {refs : List String} {refers refers' : List Nat → String → Prop}
    (h : Walks refs refers) (heq : ∀ path ref, refers' path ref ↔ refers path ref) :
    Walks refs refers' := by
  obtain ⟨found, ⟨hsorted, hmem⟩, hrefs⟩ := h
  exact ⟨found, ⟨hsorted, fun path ref => (hmem path ref).trans (heq path ref).symm⟩, hrefs⟩

theorem Tracks.under {found : List (List Nat × String)} {refers : List Nat → String → Prop}
    (h : Tracks found refers) (i : Nat) :
    Tracks (found.map (Prod.map (i :: ·) id)) fun path ref =>
      ∃ below, path = i :: below ∧ refers below ref where
  sorted := by
    rw [List.pairwise_map]
    exact h.sorted.imp fun hlt => List.cons_lt_cons_iff.2 (Or.inr ⟨rfl, hlt⟩)
  mem_iff path ref := by
    rw [List.mem_map]
    constructor
    · rintro ⟨⟨below, ref'⟩, hplace, heq⟩
      obtain ⟨rfl, rfl⟩ := Prod.mk.inj heq
      exact ⟨below, rfl, (h.mem_iff below ref').1 hplace⟩
    · rintro ⟨below, rfl, hrefers⟩
      exact ⟨(below, ref), (h.mem_iff below ref).2 hrefers, rfl⟩

theorem Tracks.append {first last : List (List Nat × String)}
    {refers refers' : List Nat → String → Prop} (hfirst : Tracks first refers)
    (hlast : Tracks last refers')
    (h : ∀ path ref, refers path ref → ∀ path' ref', refers' path' ref' → path < path') :
    Tracks (first ++ last) fun path ref => refers path ref ∨ refers' path ref where
  sorted := by
    refine List.pairwise_append.2 ⟨hfirst.sorted, hlast.sorted, ?_⟩
    rintro ⟨path, ref⟩ hplace ⟨path', ref'⟩ hplace'
    exact h path ref ((hfirst.mem_iff path ref).1 hplace) path' ref'
      ((hlast.mem_iff path' ref').1 hplace')
  mem_iff path ref := by
    rw [List.mem_append, hfirst.mem_iff, hlast.mem_iff]

/-- Walking the parts of a node one after the other keeps to the order of the paths, as the
position of a part stands before the path within it. -/
theorem walks_flatMap {α : Type} {walk : α → List String}
    {refers : α → List Nat → String → Prop} {parts : List α}
    (h : ∀ part ∈ parts, Walks (walk part) (refers part)) (start : Nat) :
    Walks (parts.flatMap walk) fun path ref =>
      ∃ part ∈ parts.zipIdx start, ∃ below, path = part.2 :: below ∧ refers part.1 below ref := by
  induction parts generalizing start with
  | nil => exact walks_nil (by simp)
  | cons part parts ih =>
      obtain ⟨inside, hinside, hrefs⟩ := h part List.mem_cons_self
      obtain ⟨behind, hbehind, hrest⟩ :=
        ih (fun p hp => h p (List.mem_cons_of_mem _ hp)) (start + 1)
      have hall := (hinside.under start).append hbehind (by
        rintro _ _ ⟨below, rfl, -⟩ _ _ ⟨later, hlater, below', rfl, -⟩
        rw [List.mem_zipIdx_iff_le_and_getElem?_sub] at hlater
        exact List.cons_lt_cons_iff.2 (Or.inl hlater.1))
      refine Walks.congr ⟨_, hall, ?_⟩ fun path ref => ?_
      · rw [List.map_append, List.map_map, hrest, List.flatMap_cons, ← hrefs]
        rfl
      · rw [List.zipIdx_cons, List.exists_mem_cons_iff]

theorem referencesInEntries_eq_flatMap (entries : List (Value × Value)) :
    referencesInEntries entries = entries.flatMap fun entry => referencesInEntries [entry] := by
  induction entries with
  | nil => rfl
  | cons entry rest ih => rw [referencesInEntries_cons_eq_append, ih, List.flatMap_cons]

theorem walks_entry {entry : Value × Value}
    (h : Walks (referencesIn entry.2) (RefersAt entry.2)) :
    Walks (referencesInEntries [entry]) (EntryRefersAt entry) := by
  obtain ⟨k, v⟩ := entry
  by_cases hplain : k ≠ .text "$ref" ∨ ∀ t, v ≠ .text t
  · rw [referencesInEntries_cons hplain, referencesInEntries, List.append_nil]
    refine h.congr fun path ref => or_iff_right ?_
    rintro ⟨heq, -⟩
    obtain ⟨rfl, rfl⟩ := Prod.mk.inj heq
    simp at hplain
  · obtain ⟨rfl, t, rfl⟩ : k = .text "$ref" ∧ ∃ t, v = .text t := by
      simpa [not_or] using hplain
    refine ⟨[([], t)], ⟨List.pairwise_singleton _ _, fun path ref => ?_⟩, ?_⟩
    · constructor
      · intro hmem
        obtain ⟨rfl, rfl⟩ := Prod.mk.inj (List.mem_singleton.1 hmem)
        exact Or.inl ⟨rfl, rfl⟩
      · rintro (⟨heq, rfl⟩ | hv)
        · simp_all
        · cases hv
    · simp [referencesInEntries]

mutual

/-- The walk over a value meets the texts under `$ref` in the order of their paths. -/
theorem walks_value : (v : Value) → Walks (referencesIn v) (RefersAt v)
  | .record entries => by
    rw [referencesIn, referencesInEntries_eq_flatMap]
    exact (walks_flatMap (walks_entries entries) 0).congr fun _ _ => refersAt_record_iff
  | .list items => by
    rw [referencesIn_list]
    exact (walks_flatMap (walks_items items) 0).congr fun _ _ => refersAt_list_iff
  | .null | .bool _ | .int _ | .float _ | .text _ | .bytes _ | .date _ | .moment _ | .set _
  | .pair _ _ => walks_nil fun _ _ h => by cases h

theorem walks_entries : (entries : List (Value × Value)) →
    ∀ entry ∈ entries, Walks (referencesInEntries [entry]) (EntryRefersAt entry)
  | [] => by simp
  | (k, v) :: rest => by
    intro entry hentry
    rcases List.mem_cons.1 hentry with rfl | hentry
    · exact walks_entry (walks_value v)
    · exact walks_entries rest entry hentry

theorem walks_items : (items : List Value) → ∀ v ∈ items, Walks (referencesIn v) (RefersAt v)
  | [] => by simp
  | v :: rest => by
    intro item hitem
    rcases List.mem_cons.1 hitem with heq | hitem
    · exact heq ▸ walks_value v
    · exact walks_items rest item hitem

end

/-! ## Missing references -/

/-- Among found places, the first place of a reference comes before all places of another one. -/
def FoundBefore (found : List (List Nat × String)) (ref later : String) : Prop :=
  ∃ path, (path, ref) ∈ found ∧ ∀ other, (other, later) ∈ found → path < other

/-- What is met in the order of paths is kept in the order of the first place of each. -/
theorem pairwise_eraseDups_of_sorted {found : List (List Nat × String)}
    (h : found.Pairwise (·.1 < ·.1)) :
    (found.map Prod.snd).eraseDups.Pairwise (FoundBefore found) := by
  induction found using List.reverseRecOn with
  | nil => exact List.Pairwise.nil
  | append_singleton found last ih =>
      obtain ⟨hsorted, -, hlast⟩ := List.pairwise_append.1 h
      have hmore : ∀ {ref later}, FoundBefore found ref later →
          FoundBefore (found ++ [last]) ref later := by
        rintro ref later ⟨path, hmem, hfirst⟩
        refine ⟨path, List.mem_append_left _ hmem, fun other hother => ?_⟩
        rcases List.mem_append.1 hother with hother | hother
        · exact hfirst other hother
        · rw [← List.mem_singleton.1 hother] at hlast
          exact hlast _ hmem _ List.mem_cons_self
      have hkept := (ih hsorted).imp hmore
      rw [List.map_append, List.map_singleton, List.eraseDups_append]
      by_cases hnew : last.2 ∈ found.map Prod.snd
      · have hnone : [last.2].removeAll (found.map Prod.snd) = [] := by
          simpa [List.removeAll] using hnew
        rw [hnone]
        simpa using hkept
      · have hone : [last.2].removeAll (found.map Prod.snd) = [last.2] := by
          simpa [List.removeAll] using hnew
        rw [hone]
        refine List.pairwise_append.2 ⟨hkept, List.pairwise_singleton _ _, ?_⟩
        intro ref href later hlater
        obtain ⟨⟨path, ref⟩, hmem, rfl⟩ := List.mem_map.1 (List.mem_eraseDups.1 href)
        obtain rfl : later = last.2 := by simpa using hlater
        exact hmore ⟨path, hmem, fun other hother => absurd (List.mem_map_of_mem hother) hnew⟩

/-- The keys of the schemas among the components of a document. -/
def declaredNames (document : Value) : List Value :=
  match (document.get? "components").bind (·.get? "schemas") with
  | some (.record schemas) => schemas.map (·.1)
  | _ => []

/-- A record whose components and their schemas, where it has them, are records as well. -/
structure HoldsSchemas (document : Value) : Prop where
  record : document.kind = .record
  components : ∀ v ∈ document.get? "components", v.kind = .record
  schemas : ∀ v ∈ (document.get? "components").bind (·.get? "schemas"), v.kind = .record
  /-- As in every record, the keys are no collections. -/
  keys : ∀ key ∈ declaredNames document, key.isHashable = true

/-- A reference names a schema by the common prefix and the name, or by the name alone. -/
def Names (ref name : String) : Prop :=
  ref = reference name ∨ ref = name ∧ ¬ referencePrefix.toList <+: ref.toList

theorem targetName_eq_iff (ref name : String) : targetName ref = name ↔ Names ref name := by
  unfold targetName Names
  cases hrest : afterPrefix? referencePrefix.toList ref.toList with
  | some rest =>
      have htext : ref = reference (String.ofList rest) := by
        rw [← String.toList_inj, reference, String.toList_append, String.toList_ofList]
        exact afterPrefix?_eq_some_iff.1 hrest
      have hmarked : referencePrefix.toList <+: ref.toList :=
        ⟨rest, (afterPrefix?_eq_some_iff.1 hrest).symm⟩
      simp only [hmarked, not_true_eq_false, and_false, or_false]
      rw [htext, reference, reference]
      simp [← String.toList_inj]
  | none =>
      have hmarked : ¬ referencePrefix.toList <+: ref.toList := afterPrefix?_eq_none_iff.1 hrest
      have href : ref ≠ reference name := by
        rintro rfl
        exact hmarked (String.toList_append ▸ List.prefix_append ..)
      simp [hmarked, href]

theorem kind_eq_record_iff (v : Value) : v.kind = .record ↔ ∃ entries, v = .record entries := by
  cases v <;> simp [Value.kind]

theorem mapM_asKey {keys : List Value} (h : ∀ key ∈ keys, key.isHashable = true) :
    keys.mapM Value.asKey = .ok keys := by
  induction keys with
  | nil => rfl
  | cons key keys ih =>
      obtain ⟨hkey, hkeys⟩ := List.forall_mem_cons.1 h
      rw [List.mapM_cons, Value.asKey, if_pos hkey, ih hkeys]
      rfl

theorem fieldOrEmpty_eq {v : Value} (h : v.kind = .record) (key : String) :
    fieldOrEmpty key v = .ok ((v.get? key).getD (.record [])) := by
  obtain ⟨entries, rfl⟩ := (kind_eq_record_iff v).1 h
  rfl

theorem knownNames_of_fields {document components : Value} {schemas : List (Value × Value)}
    (hcomponents : fieldOrEmpty "components" document = .ok components)
    (hschemas : fieldOrEmpty "schemas" components = .ok (.record schemas))
    (hkeys : ∀ key ∈ schemas.map (·.1), key.isHashable = true) :
    knownNames document = .ok (schemas.map (·.1)) := by
  have hsteps : knownNames document =
      fieldOrEmpty "components" document >>= fun components =>
        fieldOrEmpty "schemas" components >>= fun schemas =>
          schemas.elements >>= fun names => names.mapM Value.asKey := rfl
  have hnames := mapM_asKey hkeys
  simp only [hsteps, hcomponents, hschemas, bind, Except.bind, Value.elements]
  exact hnames

theorem knownNames_eq {document : Value} (h : HoldsSchemas document) :
    knownNames document = .ok (declaredNames document) := by
  have hkeys := h.keys
  have hschemas := h.schemas
  have hdocument := fieldOrEmpty_eq h.record "components"
  unfold declaredNames at hkeys ⊢
  cases hparts : document.get? "components" with
  | none =>
      rw [hparts] at hdocument
      exact knownNames_of_fields hdocument rfl (by simp)
  | some components =>
      have hfields := fieldOrEmpty_eq (h.components components hparts) "schemas"
      rw [hparts] at hdocument hkeys hschemas
      rw [Option.bind_some] at hkeys hschemas ⊢
      cases hfound : components.get? "schemas" with
      | none =>
          rw [hfound] at hfields
          exact knownNames_of_fields hdocument hfields (by simp)
      | some schemas =>
          obtain ⟨entries, rfl⟩ := (kind_eq_record_iff schemas).1 (hschemas schemas hfound)
          rw [hfound] at hkeys hfields
          exact knownNames_of_fields hdocument hfields hkeys

theorem names_declared_iff (known : List Value) (ref : String) :
    known.any (Value.sameKey (.text (targetName ref))) = true ↔
      ∃ name, Names ref name ∧ .text name ∈ known := by
  simp only [List.any_eq_true, sameKey_text_iff, ← targetName_eq_iff]
  constructor
  · rintro ⟨v, hv, rfl⟩
    exact ⟨targetName ref, rfl, hv⟩
  · rintro ⟨name, rfl, hname⟩
    exact ⟨_, hname, rfl⟩

theorem Precedes.ne {document : Value} {ref later : String} (h : Precedes document ref later) :
    ref ≠ later := by
  rintro rfl
  obtain ⟨path, hpath, hfirst⟩ := h
  exact lt_irrefl path (hfirst path hpath)

/-- Leaving out references keeps the order of the others. -/
theorem Tracks.pairwise_precedes {document : Value} {found : List (List Nat × String)}
    (h : Tracks found (RefersAt document)) (p : String → Bool) :
    ((found.map Prod.snd).filter p).eraseDups.Pairwise (Precedes document) := by
  rw [List.filter_map]
  refine (pairwise_eraseDups_of_sorted (h.sorted.filter _)).imp_of_mem ?_
  rintro ref later - hlater ⟨path, hpath, hfirst⟩
  obtain ⟨place, hplace, rfl⟩ := List.mem_map.1 (List.mem_eraseDups.1 hlater)
  have hshown := (List.mem_filter.1 hplace).2
  refine ⟨path, (h.mem_iff path ref).1 (List.mem_of_mem_filter hpath), fun other hother => ?_⟩
  exact hfirst other (List.mem_filter.2 ⟨(h.mem_iff other _).2 hother, hshown⟩)

/-- The missing references of a document are exactly those that stand anywhere in it and name none
of its schemas, each once, in the order of their first places. -/
theorem unresolvedIn_eq_missing {document : Value} (h : HoldsSchemas document) :
    ∃ missing, unresolvedIn document = .ok missing ∧ missing.Nodup ∧
      (∀ ref, ref ∈ missing ↔ (∃ path, RefersAt document path ref) ∧
        ∀ name, Names ref name → .text name ∉ declaredNames document) ∧
      missing.Pairwise (Precedes document) := by
  obtain ⟨found, hfound, hrefs⟩ := walks_value document
  have hrefers : ∀ ref, ref ∈ referencesIn document ↔ ∃ path, RefersAt document path ref := by
    intro ref
    simp only [← hrefs, ← hfound.mem_iff, List.mem_map, Prod.exists, exists_eq_right]
  have hunknown : ∀ ref, (!(declaredNames document).any
      (Value.sameKey (.text (targetName ref)))) = true ↔
        ∀ name, Names ref name → .text name ∉ declaredNames document := by
    intro ref
    rw [Bool.not_eq_true', ← Bool.not_eq_true, names_declared_iff]
    simp only [not_exists, not_and]
  refine ⟨unresolvedAmong (declaredNames document) (referencesIn document), ?_, ?_⟩
  · rw [unresolvedIn, knownNames_eq h]
    rfl
  rw [unresolvedAmong_eq]
  have horder := hfound.pairwise_precedes fun ref =>
    !(declaredNames document).any (Value.sameKey (.text (targetName ref)))
  rw [hrefs] at horder
  refine ⟨horder.imp Precedes.ne, fun ref => ?_, horder⟩
  rw [List.mem_eraseDups, List.mem_filter, hrefers, hunknown]

/-- A document with a reference in a list, one that is met twice, one by the bare name of a schema,
and one below a `$ref` that is no text. -/
def looseDocument : Value :=
  .ofFields
    [("paths", .list
        [.ofFields [("$ref", .text "#/components/schemas/Shelf")], .int 3,
          .ofFields [("$ref", .text "#/components/schemas/Book")]]),
      ("components", .ofFields
        [("schemas", .ofFields
          [("Book", .ofFields [("$ref", .ofFields [("$ref", .text "Loan")])]),
            ("Cover", .list [.ofFields [("$ref", .text "Book")],
              .ofFields [("$ref", .text "#/components/schemas/Shelf")]])])])]

theorem unresolvedIn_eq_missing_looseDocument :
    HoldsSchemas looseDocument ∧
      unresolvedIn looseDocument = .ok ["#/components/schemas/Shelf", "Loan"] ∧
      Precedes looseDocument "#/components/schemas/Shelf" "Loan" := by
  have h : HoldsSchemas looseDocument :=
    ⟨rfl, by decide, by decide, by decide⟩
  have hfound : unresolvedIn looseDocument = .ok ["#/components/schemas/Shelf", "Loan"] := by
    decide
  obtain ⟨missing, hmissing, -, -, horder⟩ := unresolvedIn_eq_missing h
  obtain rfl : ["#/components/schemas/Shelf", "Loan"] = missing :=
    Except.ok.inj (hfound.symm.trans hmissing)
  exact ⟨h, hfound, by simpa using horder⟩

end ApiShapes.OpenApi
