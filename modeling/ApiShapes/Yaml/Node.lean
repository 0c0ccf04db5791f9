import ApiShapes.Yaml.Scalar
import ApiShapes.Yaml.Token

/-!
# Nodes of a YAML document

Tokens form a tree of scalars, sequences and mappings, each with the kind that its tag or its
form gives it.  An alias stands for the node that its anchor names; inside of that node it is a
knot.
-/

namespace ApiShapes.Yaml

inductive Node where
  | scalar (tag : Tag) (text : List Char)
  | sequence (tag : Tag) (items : List Node)
  | mapping (tag : Tag) (entries : List (Node × Node))
  | knot (anchor : String)

/-- The kind of a node; a knot is a collection. -/
def Node.tag : Node → Tag
  | .scalar tag _ | .sequence tag _ | .mapping tag _ => tag
  | .knot _ => .seq

/-- The node that an anchor names, once it has been read: merge keys that name the node itself bring
in nothing. -/
def Node.anchored (name : String) : Node → Node
  | .mapping tag entries =>
    .mapping tag (entries.filter fun (key, source) =>
      match source with
      | .knot anchor => !(key.tag == .merge && anchor == name)
      | _ => true)
  | node => node

/-- The node of an omitted value. -/
def Node.omitted : Node :=
  .scalar .null []

/-- The tokens left, the anchors seen, and the tag handles in force.  An anchor whose node is
still being read has no node. -/
structure Stream where
  tokens : List Token
  anchors : List (String × Option Node)
  handles : List (String × String)

/-- Reads a part of a stream. -/
abbrev Reader (α : Type) := Stream → Except Fault (α × Stream)

namespace Stream

def peek (s : Stream) : Option Token :=
  s.tokens.head?

def next (s : Stream) : Stream :=
  { s with tokens := s.tokens.drop 1 }

def nextIs (ts : List Token) (s : Stream) : Bool :=
  match s.peek with
  | some t => ts.contains t
  | none => false

/-- Sets the node of an anchor. -/
def bind (name : String) (node : Option Node) (s : Stream) : Stream :=
  { s with anchors := (name, node) :: s.anchors }

end Stream

/-- The properties of a node as written. -/
structure Properties where
  anchor : Option String
  tag : Option TagText

def readProperties (s : Stream) : Properties × Stream :=
  match s.tokens with
  | .anchor name :: .tag t :: _ => (⟨some name, some t⟩, s.next.next)
  | .tag t :: .anchor name :: _ => (⟨some name, some t⟩, s.next.next)
  | .anchor name :: _ => (⟨some name, none⟩, s.next)
  | .tag t :: _ => (⟨none, some t⟩, s.next)
  | _ => (⟨none, none⟩, s)

/-- The address of a tag; a handle has to be declared.  The lone mark `!` gives no kind. -/
def tagAddress (s : Stream) (tag : Option TagText) : Except Fault (Option String) :=
  match tag with
  | none => .ok none
  | some t =>
    match t.handle with
    | none => .ok (if t.suffix = "!" then none else some t.suffix)
    | some handle =>
      match s.handles.lookup handle with
      | none => .error (.malformed .tag)
      | some address =>
        let full := address ++ t.suffix
        .ok (if full = "!" then none else some full)

/-- The kind of a collection: that of its tag or else the given one. -/
def collectionTag (default : Tag) : Option String → Tag
  | none => default
  | some address => .ofAddress address

/-- The kind of a scalar.  Without a tag a plain one goes by its form and a quoted one is a text;
the lone mark `!` makes any scalar go by its form. -/
def scalarTag (address : Option String) (marked plain : Bool) (text : List Char) : Tag :=
  match address with
  | some address => .ofAddress address
  | none => if plain then plainTag text else if marked then quotedTag text else .str

mutual

/-- Reads a node.  Blocks may be read only where `block` allows them, and a sequence without its
own indentation only as the key or value of a block mapping. -/
def readNode : Nat → Bool → Bool → Reader Node
  | 0, _, _, _ => .error (.malformed .unexpectedToken)
  | fuel + 1, block, indentless, s =>
    match s.peek with
    | some (.alias name) =>
      match s.anchors.lookup name with
      | some (some node) => .ok (node, s.next)
      | some none => .ok (.knot name, s.next)
      | none => .error (.malformed .undefinedAlias)
    | _ => do
      let (properties, s) := readProperties s
      let address ← tagAddress s properties.tag
      if properties.anchor.any fun name => (s.anchors.lookup name).isSome then
        throw (.malformed .repeatedAnchor)
      let s := properties.anchor.elim s fun name => s.bind name none
      let (node, s) ← readContent fuel block indentless properties address s
      match properties.anchor with
      | none => return (node, s)
      | some name =>
        let node := node.anchored name
        return (node, s.bind name node)

/-- Reads the content of a node after its properties. -/
def readContent : Nat → Bool → Bool → Properties → Option String → Reader Node
  | 0, _, _, _, _, _ => .error (.malformed .unexpectedToken)
  | fuel + 1, block, indentless, properties, address, s =>
    let marked := properties.tag.isSome
    match s.peek with
    | some (.scalar text plain) => .ok (.scalar (scalarTag address marked plain text) text, s.next)
    | some .flowSequenceStart => do
      let (items, s) ← readFlowItems fuel true s.next
      return (.sequence (collectionTag .seq address) items, s)
    | some .flowMappingStart => do
      let (entries, s) ← readFlowEntries fuel true s.next
      return (.mapping (collectionTag .map address) entries, s)
    | t => do
      if t == some .entry && indentless then
        let (items, s) ← readLooseItems fuel s
        return (.sequence (collectionTag .seq address) items, s)
      if t == some .sequenceStart && block then
        let (items, s) ← readBlockItems fuel s.next
        return (.sequence (collectionTag .seq address) items, s)
      if t == some .mappingStart && block then
        let (entries, s) ← readBlockEntries fuel s.next
        return (.mapping (collectionTag .map address) entries, s)
      if properties.anchor.isSome || marked then
        return (.scalar (scalarTag address marked true []) [], s)
      throw (.malformed .unexpectedToken)

/-- Reads a node, or an omitted one if one of the given tokens comes next. -/
def readNodeUnless : Nat → List Token → Bool → Bool → Reader Node
  | 0, _, _, _, _ => .error (.malformed .unexpectedToken)
  | fuel + 1, ends, block, indentless, s =>
    if s.nextIs ends then .ok (.omitted, s) else readNode fuel block indentless s

/-- The items of a block sequence up to the end of the block. -/
def readBlockItems : Nat → Reader (List Node)
  | 0, _ => .error (.malformed .unexpectedToken)
  | fuel + 1, s =>
    match s.peek with
    | some .entry => do
      let (item, s) ← readNodeUnless fuel [.entry, .blockEnd] true false s.next
      let (items, s) ← readBlockItems fuel s
      return (item :: items, s)
    | some .blockEnd => .ok ([], s.next)
    | _ => .error (.malformed .unexpectedToken)

/-- The items of a sequence that has no indentation of its own. -/
def readLooseItems : Nat → Reader (List Node)
  | 0, _ => .error (.malformed .unexpectedToken)
  | fuel + 1, s =>
    match s.peek with
    | some .entry => do
      let (item, s) ← readNodeUnless fuel [.entry, .key, .value, .blockEnd] true false s.next
      let (items, s) ← readLooseItems fuel s
      return (item :: items, s)
    | _ => .ok ([], s)

/-- The entries of a block mapping up to the end of the block. -/
def readBlockEntries : Nat → Reader (List (Node × Node))
  | 0, _ => .error (.malformed .unexpectedToken)
  | fuel + 1, s =>
    let ends := [Token.key, .value, .blockEnd]
    match s.peek with
    | some .key => do
      let (key, s) ← readNodeUnless fuel ends true true s.next
      let (value, s) ←
        if s.nextIs [.value] then readNodeUnless fuel ends true true s.next
        else pure (.omitted, s)
      let (entries, s) ← readBlockEntries fuel s
      return ((key, value) :: entries, s)
    | some .blockEnd => .ok ([], s.next)
    | _ => .error (.malformed .unexpectedToken)

/-- The items of a sequence in brackets; one with a key is a mapping of one entry. -/
def readFlowItems : Nat → Bool → Reader (List Node)
  | 0, _, _ => .error (.malformed .unexpectedToken)
  | fuel + 1, first, s => do
    if s.nextIs [.flowSequenceEnd] then return ([], s.next)
    if !first && !s.nextIs [.flowEntry] then throw (.malformed .unexpectedToken)
    let s := if first then s else s.next
    if s.nextIs [.flowSequenceEnd] then return ([], s.next)
    let (item, s) ←
      if s.nextIs [.key] then do
        let (entry, s) ← readFlowPair fuel [.flowEntry, .flowSequenceEnd] s.next
        pure (Node.mapping .map [entry], s)
      else readNode fuel false false s
    let (items, s) ← readFlowItems fuel false s
    return (item :: items, s)

/-- A key and its value inside brackets, after the key mark. -/
def readFlowPair : Nat → List Token → Reader (Node × Node)
  | 0, _, _ => .error (.malformed .unexpectedToken)
  | fuel + 1, ends, s => do
    let (key, s) ← readNodeUnless fuel (.value :: ends) false false s
    let (value, s) ←
      if s.nextIs [.value] then readNodeUnless fuel ends false false s.next
      else pure (.omitted, s)
    return ((key, value), s)

/-- The entries of a mapping in braces. -/
def readFlowEntries : Nat → Bool → Reader (List (Node × Node))
  | 0, _, _ => .error (.malformed .unexpectedToken)
  | fuel + 1, first, s => do
    if s.nextIs [.flowMappingEnd] then return ([], s.next)
    if !first && !s.nextIs [.flowEntry] then throw (.malformed .unexpectedToken)
    let s := if first then s else s.next
    if s.nextIs [.flowMappingEnd] then return ([], s.next)
    let (entry, s) ←
      if s.nextIs [.key] then readFlowPair fuel [.flowEntry, .flowMappingEnd] s.next
      else do
        let (key, s) ← readNode fuel false false s
        pure ((key, Node.omitted), s)
    let (entries, s) ← readFlowEntries fuel false s
    return (entry :: entries, s)

end

/-- The tag handles that need no declaration. -/
def defaultHandles : List (String × String) :=
  [("!", "!"), ("!!", standardAddress)]

/-- Reads the directives before a document: at most one version, of the first kind, and each
handle at most once. -/
def readDirectives (versioned : Bool) (handles : List (String × String)) :
    List Token → Except Fault (List (String × String) × List Token)
  | .directive (.version major) :: rest =>
    if versioned || major != 1 then .error (.malformed .directive)
    else readDirectives true handles rest
  | .directive (.tagHandle handle address) :: rest =>
    if (handles.lookup handle).isSome then .error (.malformed .directive)
    else readDirectives versioned ((handle, address) :: handles) rest
  | .directive .reserved :: rest => readDirectives versioned handles rest
  | rest => .ok (handles, rest)

def isDirective : Token → Bool
  | .directive _ => true
  | _ => false

/-- Whether an announced document has no content. -/
def endsDocument : List Token → Bool
  | [] => true
  | t :: _ => isDirective t || t == .documentStart || t == .documentEnd

/-- Fuel for reading nodes: every token needs at most five steps. -/
def fuelFor (tokens : List Token) : Nat :=
  5 * tokens.length + 8

def readRoot (handles : List (String × String)) (tokens : List Token) :
    Except Fault (Node × Stream) :=
  readNode (fuelFor tokens) true false ⟨tokens, [], handles⟩

/-- After the document only its end may follow. -/
def finish (node : Node) (tokens : List Token) : Except Fault (Option Node) :=
  if (tokens.dropWhile (· == .documentEnd)).isEmpty then .ok (some node)
  else .error (.malformed .manyDocuments)

/-- The root node of the only document; none if there is no document. -/
def Node.ofTokens? (tokens : List Token) : Except Fault (Option Node) :=
  match tokens with
  | [] => .ok none
  | t :: _ =>
    if isDirective t || t == .documentStart then do
      let (handles, rest) ← readDirectives false [] tokens
      match rest with
      | .documentStart :: rest =>
        if endsDocument rest then finish .omitted rest
        else
          let (node, s) ← readRoot (handles ++ defaultHandles) rest
          finish node s.tokens
      | _ => throw (.malformed .unexpectedToken)
    else do
      let (node, s) ← readRoot defaultHandles tokens
      finish node s.tokens

end ApiShapes.Yaml
