import ApiShapes.Proofs.Document.StepResults
import ApiShapes.Yaml.Content
import Mathlib.Tactic

/-!
# Faults of nodes

Building the value of a node combines the values of its parts, so what it reports is the fault of
one of them.  Faults other than those of the syntax stand in scalars that the tree holds as it was
written, in mappings that stand for scalars, and in knots.
-/

namespace ApiShapes.Yaml

/-- The fault stands somewhere in a node. -/
inductive Node.Holds (fault : Fault) : Node → Prop where
  | scalar {tag : Tag} {text : List Char} (value : scalarValue tag text = .error fault) :
      Holds fault (.scalar tag text)
  | standsFor {tag : Tag} {entries : List (Node × Node)} {depth : Nat} {text : List Char}
      (default : defaultText depth entries = .ok text)
      (value : scalarValue tag text = .error fault) : Holds fault (.mapping tag entries)
  | timestamp {entries : List (Node × Node)} {depth : Nat} {text : List Char}
      (default : defaultText depth entries = .ok text) (mapped : fault = .misfit .mappedTimestamp) :
      Holds fault (.mapping .timestamp entries)
  | item {tag : Tag} {items : List Node} {node : Node} (mem : node ∈ items)
      (holds : Holds fault node) : Holds fault (.sequence tag items)
  | key {tag : Tag} {entries : List (Node × Node)} {key value : Node}
      (mem : (key, value) ∈ entries) (holds : Holds fault key) : Holds fault (.mapping tag entries)
  | value {tag : Tag} {entries : List (Node × Node)} {key value : Node}
      (mem : (key, value) ∈ entries) (holds : Holds fault value) :
      Holds fault (.mapping tag entries)
  | knot {anchor : String} (endless : fault = .endless) : Holds fault (.knot anchor)

/-- The fault stands in one of several nodes. -/
def ItemHolds (fault : Fault) (items : List Node) : Prop :=
  ∃ node ∈ items, node.Holds fault

/-- The fault stands in a key or a value among entries. -/
def EntryHolds (fault : Fault) (entries : List (Node × Node)) : Prop :=
  ∃ entry ∈ entries, entry.1.Holds fault ∨ entry.2.Holds fault

section Parts

variable {fault : Fault} {tag : Tag} {node key value : Node} {entry : Node × Node}
  {items : List Node} {entries : List (Node × Node)}

theorem Node.Holds.sequence (h : ItemHolds fault items) :
    (Node.sequence tag items).Holds fault := by
  obtain ⟨node, hmem, hnode⟩ := h
  exact .item hmem hnode

theorem Node.Holds.mapping (h : EntryHolds fault entries) :
    (Node.mapping tag entries).Holds fault := by
  obtain ⟨⟨key, value⟩, hmem, hkey | hvalue⟩ := h
  · exact .key hmem hkey
  · exact .value hmem hvalue

theorem itemHolds_of_node (h : node.Holds fault) : ItemHolds fault (node :: items) :=
  ⟨node, List.mem_cons_self, h⟩

theorem itemHolds_of_rest (h : ItemHolds fault items) : ItemHolds fault (node :: items) := by
  obtain ⟨other, hmem, hother⟩ := h
  exact ⟨other, List.mem_cons_of_mem _ hmem, hother⟩

theorem entryHolds_of_key (h : key.Holds fault) : EntryHolds fault ((key, value) :: entries) :=
  ⟨_, List.mem_cons_self, .inl h⟩

theorem entryHolds_of_value (h : value.Holds fault) :
    EntryHolds fault ((key, value) :: entries) :=
  ⟨_, List.mem_cons_self, .inr h⟩

theorem entryHolds_of_rest (h : EntryHolds fault entries) :
    EntryHolds fault (entry :: entries) := by
  obtain ⟨other, hmem, hother⟩ := h
  exact ⟨other, List.mem_cons_of_mem _ hmem, hother⟩

end Parts

variable {fault : Fault}

/-! ## What is reported -/

/-- If the fault is reported, it is one of the syntax or the statement holds. -/
def Reports {α : Type} (fault : Fault) (r : Built α) (p : Prop) : Prop :=
  ∀ depth, r = .error (depth, fault) → (∃ what, fault = .malformed what) ∨ p

section Reports

variable {α β : Type} {p q : Prop}

theorem reports_ok (a : α) : Reports fault (.ok a : Built α) p :=
  nofun

theorem reports_malformed (depth : Nat) (what : Malformation) :
    Reports fault (.error (depth, .malformed what) : Built α) p := by
  rintro _ ⟨⟩
  exact .inl ⟨what, rfl⟩

theorem reports_misplacedTag (depth : Nat) (tag : Tag) :
    Reports fault (.error (misplacedTag depth tag) : Built α) p := by
  cases tag <;> exact reports_malformed _ _

theorem reports_knot (depth : Nat) (anchor : String) :
    Reports fault (.error (depth, .endless) : Built α) ((Node.knot anchor).Holds fault) := by
  rintro _ ⟨⟩
  exact .inr (.knot rfl)

theorem Reports.imp {r : Built α} (h : Reports fault r p) (hpq : p → q) : Reports fault r q :=
  fun depth hr => (h depth hr).imp_right hpq

theorem Reports.bind {r : Built α} {f : α → Built β} (hr : Reports fault r p)
    (hf : ∀ a, r = .ok a → Reports fault (f a) p) : Reports fault (r >>= f) p := by
  cases r with
  | ok a => exact hf a rfl
  | error e => exact fun depth h => hr depth (congrArg _ (Except.error.inj h))

theorem Reports.map {r : Built α} (h : Reports fault r p) (f : α → β) :
    Reports fault (r.map f) p := by
  cases r with
  | ok a => exact reports_ok _
  | error e => exact fun depth hr => h depth (congrArg _ (Except.error.inj hr))

/-- Of two faults the one that is reported is one of the two. -/
theorem Reports.both {a : Built α} {b : Built β} (ha : Reports fault a p)
    (hb : Reports fault b p) : Reports fault (both a b) p := by
  cases a with
  | ok a =>
      cases b with
      | ok b => exact reports_ok _
      | error g => exact fun depth hr => hb depth (congrArg _ (Except.error.inj hr))
  | error f =>
      cases b with
      | ok b => exact fun depth hr => ha depth (congrArg _ (Except.error.inj hr))
      | error g =>
          intro depth hr
          have hreported : (if showsBefore g f then g else f) = (depth, fault) :=
            Except.error.inj hr
          split at hreported
          · exact hb depth (congrArg _ hreported)
          · exact ha depth (congrArg _ hreported)

theorem reports_scalarValue {tag : Tag} {text : List Char} {f : Fault → Nat × Fault}
    (hf : ∀ fault, (f fault).2 = fault) :
    Reports fault ((scalarValue tag text).mapError f) (scalarValue tag text = .error fault) := by
  intro depth hr
  obtain ⟨reason, hvalue, hreason⟩ := mapError_eq_error_iff.1 hr
  have hsame := hf reason
  rw [hreason] at hsame
  exact .inr (hvalue.trans (congrArg _ hsame.symm))

end Reports

/-! ## Scalars -/

mutual

theorem standsFor_reports (depth : Nat) :
    (node : Node) → Reports fault (standsFor depth node) (node.Holds fault)
  | .scalar _ _ => by
    rw [standsFor]
    exact reports_ok _
  | .sequence _ _ => by
    rw [standsFor]
    exact reports_malformed _ _
  | .mapping _ entries => by
    rw [standsFor]
    exact (defaultText_reports depth entries).imp .mapping
  | .knot _ => by
    rw [standsFor]
    exact reports_knot _ _

theorem defaultText_reports (depth : Nat) :
    (entries : List (Node × Node)) →
      Reports fault (defaultText depth entries) (EntryHolds fault entries)
  | [] => by
    rw [defaultText]
    exact reports_malformed _ _
  | (key, value) :: rest => by
    rw [defaultText]
    split
    · exact (standsFor_reports depth value).imp entryHolds_of_value
    · exact (defaultText_reports depth rest).imp entryHolds_of_rest

end

theorem mappedScalar_reports (depth : Nat) (tag : Tag) (entries : List (Node × Node)) :
    Reports fault (mappedScalar depth tag entries) ((Node.mapping tag entries).Holds fault) := by
  refine ((defaultText_reports depth entries).imp .mapping).bind fun text htext => ?_
  have hscalar : Reports fault ((scalarValue tag text).mapError fun fault => (depth, fault))
      ((Node.mapping tag entries).Holds fault) :=
    (reports_scalarValue fun _ => rfl).imp fun hvalue => .standsFor htext hvalue
  split
  · next htag =>
    rintro _ ⟨⟩
    exact .inr (htag ▸ .timestamp htext rfl)
  · exact hscalar

/-! ## Collections -/

/-- A key is built from its node, or from the text that it stands for. -/
theorem asKey_reports {depth : Nat} {key : Node} {built : Built Value}
    (h : Reports fault built (key.Holds fault)) :
    Reports fault (asKey depth key built) (key.Holds fault) := by
  unfold asKey
  split
  · exact (standsFor_reports depth key).map _
  · split
    · exact reports_malformed _ _
    · exact h

theorem allEntries_reports {p : Prop} {depth : Nat} {entries : List (Node × Node)}
    {merged own : Built (List (Value × Value))} (hmerged : Reports fault merged p)
    (hown : Reports fault own p) : Reports fault (allEntries depth entries merged own) p := by
  unfold allEntries
  split
  · exact (hmerged.both hown).map _
  · exact reports_malformed _ _

mutual

theorem build_reports (depth : Nat) :
    (node : Node) → Reports fault (build depth node) (node.Holds fault)
  | .scalar tag text => by
    have hfault : ∀ reason, (faultOf depth tag reason).2 = reason := fun _ => rfl
    rw [build]
    exact (reports_scalarValue hfault).imp .scalar
  | .sequence tag items => by
    have hsequence : ItemHolds fault items → (Node.sequence tag items).Holds fault := .sequence
    have hitems := (buildItems_reports (depth + 1) items).imp hsequence
    have hpairs := (buildPairs_reports (depth + 1) items).imp hsequence
    cases tag with
    | seq => exact hitems.map _
    | orderedMap | pairs => exact hpairs.map _
    | null | bool | int | float | binary | timestamp | set | str | map | merge | value | foreign =>
      exact reports_misplacedTag _ _
  | .mapping tag entries => by
    have hentries : Reports fault
        (allEntries (depth + 1) entries (mergedEntries (depth + 1) entries)
          (ownEntries (depth + 1) entries)) ((Node.mapping tag entries).Holds fault) :=
      (allEntries_reports (mergedEntries_reports (depth + 1) entries)
        (ownEntries_reports (depth + 1) entries)).imp .mapping
    have hscalar : Reports fault (mappedScalar depth tag entries) _ := mappedScalar_reports _ _ _
    cases tag with
    | map | set => exact hentries.map _
    | null | bool | int | float | binary | timestamp | str => exact hscalar
    | seq | orderedMap | pairs | merge | value | foreign => exact reports_misplacedTag _ _
  | .knot _ => by
    rw [build]
    exact reports_knot _ _

theorem buildItems_reports (depth : Nat) :
    (items : List Node) → Reports fault (buildItems depth items) (ItemHolds fault items)
  | [] => by
    rw [buildItems]
    exact reports_ok _
  | node :: rest => by
    have hnode : Reports fault (build depth node) (ItemHolds fault (node :: rest)) :=
      (build_reports depth node).imp itemHolds_of_node
    rw [buildItems]
    exact (hnode.both ((buildItems_reports depth rest).imp itemHolds_of_rest)).map _

theorem buildPairs_reports (depth : Nat) :
    (items : List Node) → Reports fault (buildPairs depth items) (ItemHolds fault items)
  | [] => by
    rw [buildPairs]
    exact reports_ok _
  | .mapping tag [(key, value)] :: rest => by
    have hmapping : (Node.mapping tag [(key, value)]).Holds fault →
        ItemHolds fault (.mapping tag [(key, value)] :: rest) := itemHolds_of_node
    have hkey := (build_reports depth key).imp fun h => hmapping (.key List.mem_cons_self h)
    have hvalue := (build_reports depth value).imp fun h => hmapping (.value List.mem_cons_self h)
    rw [buildPairs]
    exact ((hkey.both hvalue).both ((buildPairs_reports depth rest).imp itemHolds_of_rest)).map _
  | .knot _ :: _ => by
    rw [buildPairs]
    exact (reports_knot _ _).imp itemHolds_of_node
  | .scalar _ _ :: _ => by
    simp only [buildPairs]
    exact reports_malformed _ _
  | .sequence _ _ :: _ => by
    simp only [buildPairs]
    exact reports_malformed _ _
  | .mapping _ [] :: _ => by
    simp only [buildPairs]
    exact reports_malformed _ _
  | .mapping _ (_ :: _ :: _) :: _ => by
    simp only [buildPairs]
    exact reports_malformed _ _

theorem ownEntries_reports (depth : Nat) :
    (entries : List (Node × Node)) →
      Reports fault (ownEntries depth entries) (EntryHolds fault entries)
  | [] => by
    rw [ownEntries]
    exact reports_ok _
  | (key, value) :: rest => by
    have hkey : Reports fault (asKey depth key (build depth key))
        (EntryHolds fault ((key, value) :: rest)) :=
      (asKey_reports (build_reports depth key)).imp entryHolds_of_key
    have hvalue : Reports fault (build depth value) (EntryHolds fault ((key, value) :: rest)) :=
      (build_reports depth value).imp entryHolds_of_value
    have hrest : Reports fault (ownEntries depth rest) (EntryHolds fault ((key, value) :: rest)) :=
      (ownEntries_reports depth rest).imp entryHolds_of_rest
    rw [ownEntries]
    split
    · exact hrest
    · exact ((hkey.both hvalue).both hrest).map _

theorem mergedEntries_reports (depth : Nat) :
    (entries : List (Node × Node)) →
      Reports fault (mergedEntries depth entries) (EntryHolds fault entries)
  | [] => by
    rw [mergedEntries]
    exact reports_ok _
  | (key, value) :: rest => by
    have hvalue : Reports fault (sourceEntries depth value)
        (EntryHolds fault ((key, value) :: rest)) :=
      (sourceEntries_reports depth value).imp entryHolds_of_value
    have hrest : Reports fault (mergedEntries depth rest)
        (EntryHolds fault ((key, value) :: rest)) :=
      (mergedEntries_reports depth rest).imp entryHolds_of_rest
    rw [mergedEntries]
    split
    · exact (hvalue.both hrest).map _
    · exact hrest

theorem sourceEntries_reports (depth : Nat) :
    (node : Node) → Reports fault (sourceEntries depth node) (node.Holds fault)
  | .mapping _ entries => by
    rw [sourceEntries]
    exact (allEntries_reports (mergedEntries_reports depth entries)
      (ownEntries_reports depth entries)).imp .mapping
  | .sequence _ items => by
    rw [sourceEntries]
    exact (sourcesEntries_reports depth items).imp .sequence
  | .scalar _ _ => by
    rw [sourceEntries]
    exact reports_malformed _ _
  | .knot _ => by
    rw [sourceEntries]
    exact reports_knot _ _

theorem sourcesEntries_reports (depth : Nat) :
    (items : List Node) → Reports fault (sourcesEntries depth items) (ItemHolds fault items)
  | [] => by
    rw [sourcesEntries]
    exact reports_ok _
  | node :: rest => by
    have hnode : Reports fault (sourceEntries depth node) (ItemHolds fault (node :: rest)) :=
      (sourceEntries_reports depth node).imp itemHolds_of_node
    rw [sourcesEntries]
    exact (((sourcesEntries_reports depth rest).imp itemHolds_of_rest).both hnode).map _

end

/-- A node without a value holds the fault that is reported, if that is none of the syntax. -/
theorem holds_of_valueOf {node : Node} (h : valueOf node = .error fault) :
    (∃ what, fault = .malformed what) ∨ node.Holds fault := by
  obtain ⟨⟨depth, reason⟩, hbuild, rfl⟩ := mapError_eq_error_iff.1 h
  exact build_reports 0 node depth hbuild

end ApiShapes.Yaml
