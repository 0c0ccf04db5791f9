import ApiShapes.Yaml.Node
import Mathlib.Tactic

/-!
# Nodes from tokens

Whatever goes wrong while nodes are read from tokens departs from the grammar: scalars get their
kinds here, but their values only later.
-/

namespace ApiShapes.Yaml

/-- Only the syntax can be at fault. -/
def SyntaxOnly {α : Type} (r : Except Fault α) : Prop :=
  ∀ fault, r = .error fault → ∃ what, fault = .malformed what

section SyntaxOnly

variable {α β : Type}

theorem syntaxOnly_ok (a : α) : SyntaxOnly (.ok a) :=
  nofun

theorem syntaxOnly_malformed (what : Malformation) :
    SyntaxOnly (.error (.malformed what) : Except Fault α) := by
  rintro _ ⟨⟩
  exact ⟨what, rfl⟩

theorem SyntaxOnly.bind {r : Except Fault α} {f : α → Except Fault β} (hr : SyntaxOnly r)
    (hf : ∀ a, SyntaxOnly (f a)) : SyntaxOnly (r >>= f) := by
  cases r with
  | ok a => exact hf a
  | error fault =>
      obtain ⟨what, rfl⟩ := hr fault rfl
      exact syntaxOnly_malformed what

theorem SyntaxOnly.ite {r r' : Except Fault α} {b : Prop} [Decidable b] (h : SyntaxOnly r)
    (h' : SyntaxOnly r') : SyntaxOnly (if b then r else r') := by
  split
  · exact h
  · exact h'

end SyntaxOnly

theorem tagAddress_syntaxOnly (s : Stream) (tag : Option TagText) :
    SyntaxOnly (tagAddress s tag) := by
  unfold tagAddress
  split
  · exact syntaxOnly_ok _
  · split
    · exact syntaxOnly_ok _
    · split
      · exact syntaxOnly_malformed _
      · exact syntaxOnly_ok _

/-- The readers of nodes and of their parts, with the same fuel. -/
structure NodesSyntaxOnly (fuel : Nat) : Prop where
  node : ∀ block indentless s, SyntaxOnly (readNode fuel block indentless s)
  content : ∀ block indentless properties address s,
    SyntaxOnly (readContent fuel block indentless properties address s)
  nodeUnless : ∀ ends block indentless s, SyntaxOnly (readNodeUnless fuel ends block indentless s)
  blockItems : ∀ s, SyntaxOnly (readBlockItems fuel s)
  looseItems : ∀ s, SyntaxOnly (readLooseItems fuel s)
  blockEntries : ∀ s, SyntaxOnly (readBlockEntries fuel s)
  flowItems : ∀ first s, SyntaxOnly (readFlowItems fuel first s)
  flowPair : ∀ ends s, SyntaxOnly (readFlowPair fuel ends s)
  flowEntries : ∀ first s, SyntaxOnly (readFlowEntries fuel first s)

namespace NodesSyntaxOnly

variable {fuel : Nat}

theorem succ_node (ih : NodesSyntaxOnly fuel) (block indentless : Bool) (s : Stream) :
    SyntaxOnly (readNode (fuel + 1) block indentless s) := by
  rw [readNode]
  split
  · split
    · exact syntaxOnly_ok _
    · exact syntaxOnly_ok _
    · exact syntaxOnly_malformed _
  · refine (tagAddress_syntaxOnly _ _).bind fun address => ?_
    refine SyntaxOnly.ite ?_ ?_
    · exact syntaxOnly_malformed _
    · refine (ih.content _ _ _ _ _).bind fun result => ?_
      dsimp only
      split <;> exact syntaxOnly_ok _

theorem succ_content (ih : NodesSyntaxOnly fuel) (block indentless : Bool)
    (properties : Properties) (address : Option String) (s : Stream) :
    SyntaxOnly (readContent (fuel + 1) block indentless properties address s) := by
  rw [readContent]
  dsimp only
  split
  · exact syntaxOnly_ok _
  · exact (ih.flowItems _ _).bind fun _ => syntaxOnly_ok _
  · exact (ih.flowEntries _ _).bind fun _ => syntaxOnly_ok _
  · refine SyntaxOnly.ite ((ih.looseItems _).bind fun _ => syntaxOnly_ok _) ?_
    refine SyntaxOnly.ite ((ih.blockItems _).bind fun _ => syntaxOnly_ok _) ?_
    refine SyntaxOnly.ite ((ih.blockEntries _).bind fun _ => syntaxOnly_ok _) ?_
    exact SyntaxOnly.ite (syntaxOnly_ok _) (syntaxOnly_malformed _)

theorem succ_nodeUnless (ih : NodesSyntaxOnly fuel) (ends : List Token) (block indentless : Bool)
    (s : Stream) : SyntaxOnly (readNodeUnless (fuel + 1) ends block indentless s) := by
  rw [readNodeUnless]
  exact SyntaxOnly.ite (syntaxOnly_ok _) (ih.node _ _ _)

theorem succ_blockItems (ih : NodesSyntaxOnly fuel) (s : Stream) :
    SyntaxOnly (readBlockItems (fuel + 1) s) := by
  rw [readBlockItems]
  split
  · exact (ih.nodeUnless _ _ _ _).bind fun _ => (ih.blockItems _).bind fun _ => syntaxOnly_ok _
  · exact syntaxOnly_ok _
  · exact syntaxOnly_malformed _

theorem succ_looseItems (ih : NodesSyntaxOnly fuel) (s : Stream) :
    SyntaxOnly (readLooseItems (fuel + 1) s) := by
  rw [readLooseItems]
  split
  · exact (ih.nodeUnless _ _ _ _).bind fun _ => (ih.looseItems _).bind fun _ => syntaxOnly_ok _
  · exact syntaxOnly_ok _

theorem succ_blockEntries (ih : NodesSyntaxOnly fuel) (s : Stream) :
    SyntaxOnly (readBlockEntries (fuel + 1) s) := by
  rw [readBlockEntries]
  dsimp only
  split
  · refine (ih.nodeUnless _ _ _ _).bind fun _ => ?_
    refine SyntaxOnly.ite ?_ ?_
    · refine (ih.nodeUnless _ _ _ _).bind fun _ => ?_
      exact (ih.blockEntries _).bind fun _ => syntaxOnly_ok _
    · exact (ih.blockEntries _).bind fun _ => syntaxOnly_ok _
  · exact syntaxOnly_ok _
  · exact syntaxOnly_malformed _

theorem succ_flowItems (ih : NodesSyntaxOnly fuel) (first : Bool) (s : Stream) :
    SyntaxOnly (readFlowItems (fuel + 1) first s) := by
  rw [readFlowItems]
  dsimp only
  refine SyntaxOnly.ite (syntaxOnly_ok _) ?_
  refine SyntaxOnly.ite (syntaxOnly_malformed _) ?_
  refine SyntaxOnly.ite (syntaxOnly_ok _) ?_
  refine SyntaxOnly.ite ?_ ?_
  · exact (ih.flowPair _ _).bind fun _ => (ih.flowItems _ _).bind fun _ => syntaxOnly_ok _
  · exact (ih.node _ _ _).bind fun _ => (ih.flowItems _ _).bind fun _ => syntaxOnly_ok _

theorem succ_flowPair (ih : NodesSyntaxOnly fuel) (ends : List Token) (s : Stream) :
    SyntaxOnly (readFlowPair (fuel + 1) ends s) := by
  rw [readFlowPair]
  refine (ih.nodeUnless _ _ _ _).bind fun _ => ?_
  refine SyntaxOnly.ite ?_ ?_
  · exact (ih.nodeUnless _ _ _ _).bind fun _ => syntaxOnly_ok _
  · exact syntaxOnly_ok _

theorem succ_flowEntries (ih : NodesSyntaxOnly fuel) (first : Bool) (s : Stream) :
    SyntaxOnly (readFlowEntries (fuel + 1) first s) := by
  rw [readFlowEntries]
  dsimp only
  refine SyntaxOnly.ite (syntaxOnly_ok _) ?_
  refine SyntaxOnly.ite (syntaxOnly_malformed _) ?_
  refine SyntaxOnly.ite (syntaxOnly_ok _) ?_
  refine SyntaxOnly.ite ?_ ?_
  · exact (ih.flowPair _ _).bind fun _ => (ih.flowEntries _ _).bind fun _ => syntaxOnly_ok _
  · exact (ih.node _ _ _).bind fun _ => (ih.flowEntries _ _).bind fun _ => syntaxOnly_ok _

end NodesSyntaxOnly

theorem nodesSyntaxOnly (fuel : Nat) : NodesSyntaxOnly fuel := by
  induction fuel with
  | zero =>
      constructor <;> intros <;> exact syntaxOnly_malformed _
  | succ fuel ih =>
      exact
        { node := ih.succ_node
          content := ih.succ_content
          nodeUnless := ih.succ_nodeUnless
          blockItems := ih.succ_blockItems
          looseItems := ih.succ_looseItems
          blockEntries := ih.succ_blockEntries
          flowItems := ih.succ_flowItems
          flowPair := ih.succ_flowPair
          flowEntries := ih.succ_flowEntries }

theorem readDirectives_syntaxOnly (versioned : Bool) (handles : List (String × String))
    (tokens : List Token) : SyntaxOnly (readDirectives versioned handles tokens) := by
  fun_induction readDirectives versioned handles tokens with
  | case1 | case3 => exact syntaxOnly_malformed _
  | case2 _ _ _ _ _ ih | case4 _ _ _ _ _ _ ih | case5 _ _ _ ih => exact ih
  | case6 => exact syntaxOnly_ok _

theorem finish_syntaxOnly (node : Node) (tokens : List Token) : SyntaxOnly (finish node tokens) := by
  unfold finish
  exact SyntaxOnly.ite (syntaxOnly_ok _) (syntaxOnly_malformed _)

/-- Composing the root node of a document can fail by the syntax only. -/
theorem ofTokens?_syntaxOnly (tokens : List Token) : SyntaxOnly (Node.ofTokens? tokens) := by
  have hroot : ∀ handles tokens, SyntaxOnly (readRoot handles tokens) :=
    fun handles tokens => (nodesSyntaxOnly _).node _ _ _
  unfold Node.ofTokens?
  split
  · exact syntaxOnly_ok _
  · refine SyntaxOnly.ite ?_ ?_
    · refine (readDirectives_syntaxOnly _ _ _).bind fun _ => ?_
      dsimp only
      split
      · refine SyntaxOnly.ite (finish_syntaxOnly _ _) ?_
        exact (hroot _ _).bind fun _ => finish_syntaxOnly _ _
      · exact syntaxOnly_malformed _
    · exact (hroot _ _).bind fun _ => finish_syntaxOnly _ _

end ApiShapes.Yaml
