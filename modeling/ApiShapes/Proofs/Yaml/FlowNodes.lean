import ApiShapes.Proofs.Document.FieldLookup
import ApiShapes.Proofs.Document.StepResults
import ApiShapes.Proofs.Yaml.FlowText
import ApiShapes.Yaml.Content
import Mathlib.Tactic

/-!
# Values of flow text

The tokens of a flow node are read back as its node, and the node always has a value.
-/

namespace ApiShapes.Yaml

mutual

def Flow.node : Flow → Node
  | .plain word => .scalar (plainTag word.text) word.text
  | .literal text => .scalar .str text
  | .sequence items => .sequence .seq (itemNodes items)
  | .mapping entries => .mapping .map (entryNodes entries)

def itemNodes : List Flow → List Node
  | [] => []
  | item :: items => item.node :: itemNodes items

def entryNodes : List (List Char × Flow) → List (Node × Node)
  | [] => []
  | (key, value) :: entries => (.scalar .str key, value.node) :: entryNodes entries

end

/-! ## Nodes -/

/-- The tokens with which flow nodes start. -/
inductive StartsNode : Token → Prop where
  | scalar (text : List Char) (plain : Bool) : StartsNode (.scalar text plain)
  | sequence : StartsNode .flowSequenceStart
  | mapping : StartsNode .flowMappingStart

theorem Flow.tokens_start (f : Flow) : ∃ t rest, f.tokens = t :: rest ∧ StartsNode t := by
  cases f with
  | plain word => exact ⟨_, _, rfl, .scalar _ _⟩
  | literal text => exact ⟨_, _, rfl, .scalar _ _⟩
  | sequence items => exact ⟨_, _, by rw [tokens], .sequence⟩
  | mapping entries => exact ⟨_, _, by rw [tokens], .mapping⟩

variable {anchors : List (String × Option Node)} {handles : List (String × String)}
  {more : List Token} {block indentless : Bool}

/-- Without properties the content of a node is read. -/
theorem readNode_of_startsNode {t : Token} (ht : StartsNode t) (fuel : Nat) (rest : List Token) :
    readNode (fuel + 1) block indentless ⟨t :: rest, anchors, handles⟩ =
      readContent fuel block indentless ⟨none, none⟩ none ⟨t :: rest, anchors, handles⟩ := by
  rw [readNode]
  cases ht
  all_goals
    simp only [Stream.peek, List.head?_cons, readProperties, tagAddress, bind, Except.bind,
      Option.any_none, Bool.false_eq_true, if_false, Option.elim_none, pure, Except.pure]
    cases readContent fuel block indentless ⟨none, none⟩ none _ <;> rfl

theorem nextIs_of_startsNode {t : Token} (ht : StartsNode t) {ends : List Token}
    (hends : ∀ e ∈ ends, ¬ StartsNode e) (rest : List Token) :
    Stream.nextIs ends ⟨t :: rest, anchors, handles⟩ = false := by
  rw [Stream.nextIs]
  simp only [Stream.peek, List.head?_cons]
  rw [← Bool.not_eq_true, List.contains_iff_mem]
  exact fun hmem => hends t hmem ht

theorem readFlowItems_item {t : Token} (ht : StartsNode t) (first : Bool) (fuel : Nat)
    (rest : List Token) :
    readFlowItems (fuel + 1) first ⟨separator first ++ t :: rest, anchors, handles⟩ =
      (do
        let (item, s) ← readNode fuel false false ⟨t :: rest, anchors, handles⟩
        let (items, s) ← readFlowItems fuel false s
        return (item :: items, s)) := by
  have hend : Stream.nextIs [.flowSequenceEnd] ⟨t :: rest, anchors, handles⟩ = false := by
    apply nextIs_of_startsNode ht
    rintro e he hstarts
    cases List.mem_singleton.1 he
    cases hstarts
  have hkey : Stream.nextIs [.key] ⟨t :: rest, anchors, handles⟩ = false := by
    apply nextIs_of_startsNode ht
    rintro e he hstarts
    cases List.mem_singleton.1 he
    cases hstarts
  cases first with
  | true =>
      rw [readFlowItems, separator, if_pos rfl, List.nil_append]
      simp [hend, hkey]
  | false =>
      have hcomma : Stream.nextIs [.flowSequenceEnd] ⟨.flowEntry :: t :: rest, anchors, handles⟩ =
          false := rfl
      have hcomma' : Stream.nextIs [.flowEntry] ⟨.flowEntry :: t :: rest, anchors, handles⟩ =
          true := rfl
      have hnext : Stream.next ⟨.flowEntry :: t :: rest, anchors, handles⟩ =
          ⟨t :: rest, anchors, handles⟩ := rfl
      rw [readFlowItems, separator, if_neg Bool.false_ne_true, List.singleton_append]
      simp [hcomma, hcomma', hnext, hend, hkey]

theorem readFlowEntries_entry (first : Bool) (fuel : Nat) (rest : List Token) :
    readFlowEntries (fuel + 1) first ⟨separator first ++ .key :: rest, anchors, handles⟩ =
      (do
        let (entry, s) ← readFlowPair fuel [.flowEntry, .flowMappingEnd] ⟨rest, anchors, handles⟩
        let (entries, s) ← readFlowEntries fuel false s
        return (entry :: entries, s)) := by
  cases first with
  | true =>
      rw [readFlowEntries, separator, if_pos rfl, List.nil_append]
      rfl
  | false =>
      rw [readFlowEntries, separator, if_neg Bool.false_ne_true, List.singleton_append]
      rfl

theorem readFlowPair_entry {t : Token} (ht : StartsNode t) (key : List Char) (fuel : Nat)
    (rest : List Token) :
    readFlowPair (fuel + 4) [.flowEntry, .flowMappingEnd]
        ⟨.scalar key false :: .value :: t :: rest, anchors, handles⟩ =
      (do
        let (value, s) ← readNode (fuel + 2) false false ⟨t :: rest, anchors, handles⟩
        return ((.scalar .str key, value), s)) := by
  have hend : Stream.nextIs [.flowEntry, .flowMappingEnd] ⟨t :: rest, anchors, handles⟩ = false := by
    apply nextIs_of_startsNode ht
    rintro e he hstarts
    rcases List.mem_cons.1 he with rfl | he
    · cases hstarts
    · cases List.mem_singleton.1 he
      cases hstarts
  have hkey : readNode (fuel + 2) false false
      ⟨.scalar key false :: .value :: t :: rest, anchors, handles⟩ =
      .ok (.scalar .str key, ⟨.value :: t :: rest, anchors, handles⟩) := by
    rw [readNode_of_startsNode (.scalar key false), readContent]
    rfl
  have hscalar : Stream.nextIs [.value, .flowEntry, .flowMappingEnd]
      ⟨.scalar key false :: .value :: t :: rest, anchors, handles⟩ = false := by
    apply nextIs_of_startsNode (.scalar key false)
    intro e he hstarts
    simp only [List.mem_cons, List.not_mem_nil, or_false] at he
    rcases he with rfl | rfl | rfl <;> cases hstarts
  have hvalue : Stream.nextIs [.value] ⟨.value :: t :: rest, anchors, handles⟩ = true := rfl
  have hnext : Stream.next ⟨.value :: t :: rest, anchors, handles⟩ =
      ⟨t :: rest, anchors, handles⟩ := rfl
  rw [readFlowPair, readNodeUnless, hscalar, if_neg Bool.false_ne_true, hkey]
  simp only [bind, Except.bind]
  rw [hvalue, if_pos rfl, hnext, readNodeUnless, hend, if_neg Bool.false_ne_true]

theorem Flow.tokens_pos (f : Flow) : 0 < f.tokens.length := by
  obtain ⟨t, rest, hstart, -⟩ := f.tokens_start
  rw [hstart]
  exact Nat.succ_pos _

mutual

/-- The tokens of a flow node are read back as its node. -/
theorem Flow.readNode (f : Flow) {fuel : Nat} (hfuel : 5 * f.tokens.length ≤ fuel)
    (block indentless : Bool) (more : List Token) :
    readNode fuel block indentless ⟨f.tokens ++ more, anchors, handles⟩ =
      .ok (f.node, ⟨more, anchors, handles⟩) := by
  have hpos := f.tokens_pos
  obtain ⟨fuel, rfl⟩ : ∃ n, fuel = n + 2 := ⟨fuel - 2, by omega⟩
  match f with
  | .plain word =>
      rw [Flow.tokens, List.singleton_append, readNode_of_startsNode (.scalar _ _), readContent]
      rfl
  | .literal text =>
      rw [Flow.tokens, List.singleton_append, readNode_of_startsNode (.scalar _ _), readContent]
      rfl
  | .sequence items =>
      simp only [Flow.tokens, List.length_cons, List.length_append] at hfuel
      have hinside : 5 * (itemTokens true items).length + 1 ≤ fuel := by omega
      have hitems := readItems items true hinside more
      rw [Flow.tokens, List.cons_append, readNode_of_startsNode .sequence, readContent]
      simp only [Stream.peek, List.head?_cons, Stream.next, List.drop_one, List.tail_cons, bind,
        Except.bind]
      rw [List.append_assoc, List.singleton_append, hitems]
      rfl
  | .mapping entries =>
      simp only [Flow.tokens, List.length_cons, List.length_append] at hfuel
      have hinside : 5 * (entryTokens true entries).length + 1 ≤ fuel := by omega
      have hentries := readEntries entries true hinside more
      rw [Flow.tokens, List.cons_append, readNode_of_startsNode .mapping, readContent]
      simp only [Stream.peek, List.head?_cons, Stream.next, List.drop_one, List.tail_cons, bind,
        Except.bind]
      rw [List.append_assoc, List.singleton_append, hentries]
      rfl

theorem readItems (items : List Flow) (first : Bool) {fuel : Nat}
    (hfuel : 5 * (itemTokens first items).length + 1 ≤ fuel) (more : List Token) :
    readFlowItems fuel first
        ⟨itemTokens first items ++ .flowSequenceEnd :: more, anchors, handles⟩ =
      .ok (itemNodes items, ⟨more, anchors, handles⟩) := by
  obtain ⟨fuel, rfl⟩ : ∃ n, fuel = n + 1 := ⟨fuel - 1, by omega⟩
  match items with
  | [] =>
      rw [readFlowItems]
      rfl
  | item :: items =>
      have hpos := item.tokens_pos
      simp only [itemTokens, List.length_append] at hfuel
      have hhere : 5 * item.tokens.length ≤ fuel := by omega
      have hlater : 5 * (itemTokens false items).length + 1 ≤ fuel := by omega
      have hitem := item.readNode hhere false false
        (itemTokens false items ++ .flowSequenceEnd :: more)
      have hitems := readItems items false hlater more
      obtain ⟨t, rest, hstart, ht⟩ := item.tokens_start
      rw [itemTokens, List.append_assoc, List.append_assoc]
      rw [hstart] at hitem ⊢
      rw [List.cons_append, readFlowItems_item ht, ← List.cons_append, hitem]
      simp only [bind, Except.bind]
      rw [hitems]
      rfl

theorem readEntries (entries : List (List Char × Flow)) (first : Bool) {fuel : Nat}
    (hfuel : 5 * (entryTokens first entries).length + 1 ≤ fuel) (more : List Token) :
    readFlowEntries fuel first
        ⟨entryTokens first entries ++ .flowMappingEnd :: more, anchors, handles⟩ =
      .ok (entryNodes entries, ⟨more, anchors, handles⟩) := by
  obtain ⟨fuel, rfl⟩ : ∃ n, fuel = n + 1 := ⟨fuel - 1, by omega⟩
  match entries with
  | [] =>
      rw [readFlowEntries]
      rfl
  | (key, value) :: entries =>
      have hpos := value.tokens_pos
      simp only [entryTokens, List.length_append, List.length_cons, List.length_nil] at hfuel
      obtain ⟨fuel, rfl⟩ : ∃ n, fuel = n + 4 := ⟨fuel - 4, by omega⟩
      have hhere : 5 * value.tokens.length ≤ fuel + 2 := by omega
      have hlater : 5 * (entryTokens false entries).length + 1 ≤ fuel + 4 := by omega
      have hvalue := value.readNode hhere false false
        (entryTokens false entries ++ .flowMappingEnd :: more)
      have hentries := readEntries entries false hlater more
      obtain ⟨t, rest, hstart, ht⟩ := value.tokens_start
      rw [entryTokens, List.append_assoc, List.append_assoc, List.append_assoc]
      rw [hstart] at hvalue ⊢
      rw [List.cons_append, List.cons_append, readFlowEntries_entry, List.cons_append,
        List.cons_append, List.nil_append, readFlowPair_entry ht, ← List.cons_append, hvalue]
      simp only [bind, Except.bind, pure, Except.pure]
      rw [hentries]
      rfl

end

/-- The tokens of a flow node form a document. -/
theorem ofTokens?_tokens (f : Flow) : Node.ofTokens? f.tokens = .ok (some f.node) := by
  have hfuel : 5 * f.tokens.length ≤ fuelFor f.tokens := Nat.le_add_right _ _
  have hroot : readRoot defaultHandles f.tokens = .ok (f.node, ⟨[], [], defaultHandles⟩) := by
    have hread : readNode (fuelFor f.tokens) true false ⟨f.tokens ++ [], [], defaultHandles⟩ =
        .ok (f.node, ⟨[], [], defaultHandles⟩) := f.readNode hfuel true false []
    rwa [List.append_nil] at hread
  obtain ⟨t, rest, hstart, ht⟩ := f.tokens_start
  have hcontent : (isDirective t || t == .documentStart) = false := by cases ht <;> rfl
  rw [hstart] at hroot ⊢
  rw [Node.ofTokens?, hcontent, if_neg Bool.false_ne_true, hroot]
  rfl

/-! ## Values -/

mutual

def Flow.value : Flow → Value
  | .plain word => word.value
  | .literal text => .text (String.ofList text)
  | .sequence items => .list (itemValues items)
  | .mapping entries => .recordOf (entryValues entries)

def itemValues : List Flow → List Value
  | [] => []
  | item :: items => item.value :: itemValues items

def entryValues : List (List Char × Flow) → List (Value × Value)
  | [] => []
  | (key, value) :: entries => (.text (String.ofList key), value.value) :: entryValues entries

end

/-- Keys in quotes are no merge keys. -/
theorem canMerge_entryNodes (entries : List (List Char × Flow)) :
    canMerge (entryNodes entries) = true := by
  induction entries with
  | nil => rfl
  | cons entry entries ih =>
      rw [entryNodes, canMerge, ih]
      rfl

theorem mergedEntries_entryNodes (entries : List (List Char × Flow)) (depth : Nat) :
    mergedEntries depth (entryNodes entries) = .ok [] := by
  induction entries with
  | nil => rfl
  | cons entry entries ih => exact ih

mutual

/-- A flow node has a value. -/
theorem Flow.build (f : Flow) (depth : Nat) : build depth f.node = .ok f.value := by
  match f with
  | .plain word =>
      rw [Flow.node, Yaml.build, word.denotes]
      rfl
  | .literal text => rfl
  | .sequence items =>
      rw [Flow.node, Yaml.build, buildItems_items]
      rfl
  | .mapping entries =>
      rw [Flow.node, Yaml.build, allEntries, canMerge_entryNodes, mergedEntries_entryNodes,
        ownEntries_entries]
      rfl

theorem buildItems_items (items : List Flow) (depth : Nat) :
    buildItems depth (itemNodes items) = .ok (itemValues items) := by
  match items with
  | [] => rfl
  | item :: items =>
      rw [itemNodes, buildItems, item.build, buildItems_items]
      rfl

theorem ownEntries_entries (entries : List (List Char × Flow)) (depth : Nat) :
    ownEntries depth (entryNodes entries) = .ok (entryValues entries) := by
  match entries with
  | [] => rfl
  | (key, value) :: entries =>
      rw [entryNodes, ownEntries, if_neg (by simp [Node.tag]), value.build, ownEntries_entries]
      rfl

end

/-- YAML reads the text of a flow node as its value. -/
theorem read_flowText {f : Flow} {gap text left : List Char} (h : FlowText f text left)
    (hgap : IsSpacing gap) (hleft : IsSpacing left)
    (hprintable : (gap ++ text).all isPrintable = true) :
    read (String.ofList (gap ++ text)) = .ok f.value := by
  have htokens := tokensOf_flowText h hgap hleft hprintable
  rw [read, String.toList_ofList, htokens]
  simp only [bind, Except.bind]
  rw [ofTokens?_tokens]
  simp only
  rw [valueOf, f.build]
  rfl

/-! ## Keys -/

/-- The keys of a mapping. -/
def Flow.keys : Flow → List (List Char)
  | .mapping entries => entries.map (·.1)
  | _ => []

theorem get?_of_timestampValue {t : TimestampText} {v : Value} (h : timestampValue t = .ok v)
    (key : String) : v.get? key = none := by
  unfold timestampValue at h
  split at h
  · obtain ⟨date, -, h⟩ := bind_eq_ok_iff.1 h
    cases h
    rfl
  · obtain ⟨offset, -, h⟩ := bind_eq_ok_iff.1 h
    obtain ⟨date, -, h⟩ := bind_eq_ok_iff.1 h
    obtain ⟨moment, -, h⟩ := bind_eq_ok_iff.1 h
    cases h
    rfl

/-- No scalar is a record. -/
theorem get?_of_scalarValue {tag : Tag} {s : List Char} {v : Value} (h : scalarValue tag s = .ok v)
    (key : String) : v.get? key = none := by
  unfold scalarValue at h
  split at h
  · cases h
    rfl
  · cases h
    rfl
  · split at h
    · cases h
      rfl
    · cases h
  · obtain ⟨n, -, rfl⟩ := map_eq_ok_iff.1 (mapError_eq_ok_iff.1 h)
    rfl
  · obtain ⟨x, -, rfl⟩ := map_eq_ok_iff.1 (mapError_eq_ok_iff.1 h)
    rfl
  · split at h
    · exact get?_of_timestampValue (mapError_eq_ok_iff.1 h) key
    · cases h
  · split_ifs at h
    split at h
    · cases h
      rfl
    · cases h
  all_goals cases h

theorem entryValues_keys (entries : List (List Char × Flow)) :
    (entryValues entries).map (·.1) = entries.map fun entry => .text (String.ofList entry.1) := by
  induction entries with
  | nil => rfl
  | cons entry entries ih =>
      obtain ⟨key, value⟩ := entry
      rw [entryValues, List.map_cons, ih, List.map_cons]

theorem Flow.isSome_get?_value (f : Flow) (key : String) :
    (f.value.get? key).isSome = true ↔ key.toList ∈ f.keys := by
  cases f with
  | plain word => simp [value, keys, get?_of_scalarValue word.denotes]
  | literal text => simp [value, keys, Value.get?]
  | sequence items => simp [value, keys, Value.get?]
  | mapping entries =>
      rw [value, Value.isSome_get?_recordOf, entryValues_keys, keys, List.mem_map, List.mem_map]
      constructor
      · rintro ⟨entry, hentry, heq⟩
        refine ⟨entry, hentry, ?_⟩
        rw [← Value.text.inj heq, String.toList_ofList]
      · rintro ⟨entry, hentry, heq⟩
        refine ⟨entry, hentry, ?_⟩
        rw [heq, String.ofList_toList]

end ApiShapes.Yaml
