import ApiShapes.Yaml.Node

/-!
# Values of nodes

Builds the document value of a node tree.  Merge keys bring in the entries of other mappings, later
entries replace earlier ones of the same key, collections cannot be keys, and a mapping stands for a
scalar by its key `=`.  Of several faults the one nearest to the root counts, and at the same depth
the first one; that a value has no end shows last.
-/

namespace ApiShapes.Yaml

/-- A value, or a fault with its depth. -/
abbrev Built (α : Type) := Except (Nat × Fault) α

/-- Whether a fault shows before another one that comes first in the text. -/
def showsBefore (g f : Nat × Fault) : Bool :=
  match g.2, f.2 with
  | .endless, _ => false
  | _, .endless => true
  | _, _ => g.1 < f.1

/-- Combines two results; of two faults the one that shows before the other stays. -/
def both {α β : Type} (a : Built α) (b : Built β) : Built (α × β) :=
  match a, b with
  | .ok a, .ok b => .ok (a, b)
  | .error f, .ok _ => .error f
  | .ok _, .error g => .error g
  | .error f, .error g => .error (if showsBefore g f then g else f)

def isCollectionTag (tag : Tag) : Bool :=
  tag == .seq || tag == .map || tag == .set || tag == .orderedMap || tag == .pairs

/-- A fault of a node at a depth; that of a collection shows only when its parts are built. -/
def faultOf (depth : Nat) (tag : Tag) (fault : Fault) : Nat × Fault :=
  (if isCollectionTag tag then depth + 1 else depth, fault)

/-- The fault of a collection whose tag is not of a collection of its form. -/
def misplacedTag (depth : Nat) (tag : Tag) : Nat × Fault :=
  match tag with
  | .merge | .value | .foreign => (depth, .malformed .unknownTag)
  | _ => faultOf depth tag (.malformed .wrongKind)

/-! ## Scalars -/

mutual

/-- The text that a node stands for where a scalar is wanted. -/
def standsFor (depth : Nat) : Node → Built (List Char)
  | .scalar _ text => .ok text
  | .sequence _ _ => .error (depth, .malformed .wrongKind)
  | .mapping _ entries => defaultText depth entries
  | .knot _ => .error (depth, .endless)

/-- The text that entries stand for: that of the first key `=`. -/
def defaultText (depth : Nat) : List (Node × Node) → Built (List Char)
  | [] => .error (depth, .malformed .wrongKind)
  | (key, value) :: rest =>
    if key.tag = .value then standsFor depth value else defaultText depth rest

end

/-- The value of a mapping of a scalar's kind.  A timestamp is read from the entries themselves,
which are no text. -/
def mappedScalar (depth : Nat) (tag : Tag) (entries : List (Node × Node)) : Built Value := do
  let text ← defaultText depth entries
  if tag = .timestamp then throw (depth, .misfit .mappedTimestamp)
  (scalarValue tag text).mapError fun fault => (depth, fault)

/-! ## Collections -/

mutual

/-- Whether all merge keys among entries can be followed. -/
def canMerge : List (Node × Node) → Bool
  | [] => true
  | (key, value) :: rest => (key.tag != .merge || isMergeSource value) && canMerge rest

/-- Whether a merge key can bring in a node: a mapping, or a list of mappings. -/
def isMergeSource : Node → Bool
  | .mapping _ entries => canMerge entries
  | .sequence _ items => areMergeSources items
  | .scalar _ _ => false
  | .knot _ => true

def areMergeSources : List Node → Bool
  | [] => true
  | .mapping _ entries :: rest => canMerge entries && areMergeSources rest
  | .knot _ :: rest => areMergeSources rest
  | _ :: _ => false

end

/-- A node as the key of a mapping, given its value: the mark `=` is a text, and a collection cannot
be a key. -/
def asKey (depth : Nat) (key : Node) (built : Built Value) : Built Value :=
  if key.tag = .value then (standsFor depth key).map fun text => .text (String.ofList text)
  else if isCollectionTag key.tag then .error (depth, .malformed .unhashableKey)
  else built

/-- The entries of a mapping, given those that its merge keys bring in and its own: the former come
first. -/
def allEntries (depth : Nat) (entries : List (Node × Node))
    (merged own : Built (List (Value × Value))) : Built (List (Value × Value)) :=
  if canMerge entries then (both merged own).map fun (es, es') => es ++ es'
  else .error (depth, .malformed .mergeValue)

/-- The members of a set from the entries of its mapping. -/
def membersOf (entries : List (Value × Value)) : List Value :=
  entries.foldl (fun members (key, _) => Value.insertMember key members) []

mutual

/-- The value of a node at a depth. -/
def build (depth : Nat) : Node → Built Value
  | .scalar tag text => (scalarValue tag text).mapError (faultOf depth tag)
  | .sequence tag items =>
    match tag with
    | .seq => (buildItems (depth + 1) items).map Value.list
    | .orderedMap | .pairs => (buildPairs (depth + 1) items).map Value.list
    | _ => .error (misplacedTag depth tag)
  | .mapping tag entries =>
    let built :=
      allEntries (depth + 1) entries (mergedEntries (depth + 1) entries)
        (ownEntries (depth + 1) entries)
    match tag with
    | .map => built.map Value.recordOf
    | .set => built.map fun es => .set (membersOf es)
    | .str | .int | .float | .bool | .null | .binary | .timestamp => mappedScalar depth tag entries
    | _ => .error (misplacedTag depth tag)
  | .knot _ => .error (depth, .endless)

def buildItems (depth : Nat) : List Node → Built (List Value)
  | [] => .ok []
  | node :: rest => (both (build depth node) (buildItems depth rest)).map fun (v, vs) => v :: vs

/-- The pairs of an ordered mapping: each item is a mapping of one entry. -/
def buildPairs (depth : Nat) : List Node → Built (List Value)
  | [] => .ok []
  | .mapping _ [(key, value)] :: rest =>
    (both (both (build depth key) (build depth value)) (buildPairs depth rest)).map
      fun ((k, v), vs) => .pair k v :: vs
  | .knot _ :: _ => .error (depth, .endless)
  | _ :: _ => .error (depth, .malformed .wrongKind)

/-- The entries of a mapping that are not under a merge key. -/
def ownEntries (depth : Nat) : List (Node × Node) → Built (List (Value × Value))
  | [] => .ok []
  | (key, value) :: rest =>
    if key.tag = .merge then ownEntries depth rest
    else
      (both (both (asKey depth key (build depth key)) (build depth value))
        (ownEntries depth rest)).map fun (e, es) => e :: es

/-- The entries that merge keys bring in. -/
def mergedEntries (depth : Nat) : List (Node × Node) → Built (List (Value × Value))
  | [] => .ok []
  | (key, value) :: rest =>
    if key.tag = .merge then
      (both (sourceEntries depth value) (mergedEntries depth rest)).map fun (es, es') => es ++ es'
    else mergedEntries depth rest

/-- The entries that one node brings in: those of a mapping, or those of several, the last one
first. -/
def sourceEntries (depth : Nat) : Node → Built (List (Value × Value))
  | .mapping _ entries =>
    allEntries depth entries (mergedEntries depth entries) (ownEntries depth entries)
  | .sequence _ items => sourcesEntries depth items
  | .scalar _ _ => .error (depth, .malformed .mergeValue)
  | .knot _ => .error (depth, .endless)

def sourcesEntries (depth : Nat) : List Node → Built (List (Value × Value))
  | [] => .ok []
  | node :: rest =>
    (both (sourcesEntries depth rest) (sourceEntries depth node)).map fun (es, es') => es ++ es'

end

/-- The value of a node. -/
def valueOf (node : Node) : Except Fault Value :=
  (build 0 node).mapError (·.2)

/-- Reads a whole text; one without a document reads as null. -/
def read (text : String) : Except Fault Value := do
  match ← Node.ofTokens? (← tokensOf text.toList) with
  | none => return .null
  | some node => valueOf node

end ApiShapes.Yaml
