import ApiShapes.Proofs.TypeSpec.SourceReading
import Mathlib.Tactic

/-!
# The layout of a source

Lines are read trimmed, and a line that is empty or a comment declares nothing wherever it stands.
So a source without service blocks is read from its telling lines alone, and two sources that differ
in layout only have the same telling lines.  Within a service block a comment is part of the text
that is searched for title and version, which is why such blocks are excluded.
-/

namespace ApiShapes.TypeSpec

open Text

/-! ## Changes of layout -/

/-- A line that shows nothing, or a comment. -/
def IsSilent (line : List Char) : Prop :=
  trim line = [] ∨ isComment (trim line) = true

instance (line : List Char) : Decidable (IsSilent line) :=
  inferInstanceAs (Decidable (_ ∨ _))

/-- A text with spaces and tabs before and behind it. -/
def Pads (text line : List Char) : Prop :=
  ∃ before after, (∀ c ∈ before ++ after, c = ' ' ∨ c = '\t') ∧ line = before ++ text ++ after

/-- The lines of a source before and after a change of its layout: lines are padded anew, and
silent lines are put in or taken out. -/
inductive Relaid : List (List Char) → List (List Char) → Prop where
  | nil : Relaid [] []
  | padded {text line line' : List Char} {ls ls' : List (List Char)} (hline : Pads text line)
      (hline' : Pads text line') (rest : Relaid ls ls') : Relaid (line :: ls) (line' :: ls')
  | inserted {line : List Char} {ls ls' : List (List Char)} (hline : IsSilent line)
      (rest : Relaid ls ls') : Relaid ls (line :: ls')
  | removed {line : List Char} {ls ls' : List (List Char)} (hline : IsSilent line)
      (rest : Relaid ls ls') : Relaid (line :: ls) ls'

theorem Pads.trim_eq {text line : List Char} (h : Pads text line) : trim line = trim text := by
  obtain ⟨before, after, hpadding, hline⟩ := h
  have hblank : ∀ c ∈ before ++ after, isBlank c = true := by
    intro c hc
    rcases hpadding c hc with heq | heq
    · rw [heq]
      decide
    · rw [heq]
      decide
  have hbefore : ∀ c ∈ before, isBlank c = true :=
    fun c hc => hblank c (List.mem_append_left after hc)
  have hafter : ∀ c ∈ after, isBlank c = true :=
    fun c hc => hblank c (List.mem_append_right before hc)
  rw [hline, trim_append_blank _ hafter, trim_blank_append before hbefore]

/-! ## Telling lines -/

/-- The trimmed lines that are neither empty nor comments. -/
def telling (ls : List (List Char)) : List (List Char) :=
  (visible ls).filter fun line => !isComment line

theorem telling_cons (line : List Char) (ls : List (List Char)) :
    telling (line :: ls) = telling [line] ++ telling ls := by
  have hvisible : visible (line :: ls) = visible [line] ++ visible ls :=
    visible_append [line] ls
  rw [telling, hvisible, List.filter_append, telling, telling]

theorem telling_of_silent {line : List Char} (h : IsSilent line) : telling [line] = [] := by
  rw [telling, visible_cons, visible_nil]
  rcases h with hempty | hcomment
  · rw [if_pos hempty]
    rfl
  · split
    · rfl
    · simp [hcomment]

theorem telling_congr {line line' : List Char} (h : trim line = trim line') :
    telling [line] = telling [line'] := by
  rw [telling, telling, visible_cons, visible_cons, h]

/-- Layout does not change what the telling lines are. -/
theorem Relaid.telling_eq {ls ls' : List (List Char)} (h : Relaid ls ls') :
    telling ls' = telling ls := by
  induction h with
  | nil => rfl
  | @padded text line line' ls ls' hline hline' rest ih =>
      have htrim : trim line' = trim line := by rw [hline.trim_eq, hline'.trim_eq]
      calc
        telling (line' :: ls') = telling [line'] ++ telling ls' := telling_cons line' ls'
        _ = telling [line] ++ telling ls := by rw [telling_congr htrim, ih]
        _ = telling (line :: ls) := (telling_cons line ls).symm
  | inserted hline rest ih =>
      rw [telling_cons, telling_of_silent hline, ih, List.nil_append]
  | removed hline rest ih =>
      rw [telling_cons, telling_of_silent hline, ih, List.nil_append]

/-! ## Reading the telling lines -/

theorem meaningOf_of_isComment {line : List Char} (h : isComment line = true) :
    meaningOf line = .other ∧ isServiceStart line = false := by
  obtain ⟨rest, hline⟩ : ∃ rest, line = '/' :: rest := by
    rw [isComment, Bool.or_eq_true, startsWith_iff, startsWith_iff] at h
    rcases h with ⟨rest, hrest⟩ | ⟨rest, hrest⟩
    · exact ⟨'/' :: rest, hrest.symm⟩
    · exact ⟨'*' :: rest, hrest.symm⟩
  subst hline
  refine ⟨?_, isServiceStart_of_head (by decide) rest⟩
  rcases meaningOf_of_head (c := '/') (by decide) rest with hproperty | hother
  · rw [meaningOf, h] at hproperty
    simp [startsWith] at hproperty
  · exact hother

/-- From any state, the comments among the lines are passed over. -/
theorem declared_filter_comments (p : Progress) {ls : List (List Char)}
    (hplain : ∀ line ∈ ls, isServiceStart line = false) :
    p.declared (ls.filter fun line => !isComment line) = p.declared ls := by
  induction ls generalizing p with
  | nil => rfl
  | cons line ls ih =>
      obtain ⟨hline, hrest⟩ := List.forall_mem_cons.1 hplain
      by_cases hcomment : isComment line = true
      · rw [List.filter_cons_of_neg (by simp [hcomment]), ih p hrest,
          declared_other p hline (meaningOf_of_isComment hcomment).1]
      · rw [List.filter_cons_of_pos (by simpa using hcomment), declared_cons p hline,
          declared_cons p hline, ih _ hrest]

/-- A service block starts in a telling line. -/
theorem forall_telling_iff (ls : List (List Char)) :
    (∀ line ∈ telling ls, isServiceStart line = false) ↔
      ∀ line ∈ visible ls, isServiceStart line = false := by
  constructor
  · intro h line hline
    by_cases hcomment : isComment line = true
    · exact (meaningOf_of_isComment hcomment).2
    · exact h line (List.mem_filter.2 ⟨hline, by simpa using hcomment⟩)
  · intro h line hline
    exact h line (List.mem_filter.1 hline).1

theorem read_eq_declared_telling {source : String}
    (hplain : ∀ line ∈ trimmedLines source.toList, isServiceStart line = false) :
    Definition.read source =
      .valid (Progress.start.declared (telling (lines source.toList))) := by
  rw [trimmedLines_eq_visible_lines] at hplain
  rw [telling, declared_filter_comments _ hplain, ← trimmedLines_eq_visible_lines, read_eq_valid]
  rfl

/-- Padding the lines of a source without service blocks, and putting empty lines and comments
between them, leaves what is read as it was. -/
theorem read_relaid {source relaid : String}
    (hplain : ∀ line ∈ trimmedLines source.toList, isServiceStart line = false)
    (hrelaid : Relaid (lines source.toList) (lines relaid.toList)) :
    Definition.read relaid = Definition.read source := by
  have htelling : telling (lines relaid.toList) = telling (lines source.toList) :=
    hrelaid.telling_eq
  have hplain' : ∀ line ∈ trimmedLines relaid.toList, isServiceStart line = false := by
    rw [trimmedLines_eq_visible_lines, ← forall_telling_iff] at hplain ⊢
    rw [htelling]
    exact hplain
  rw [read_eq_declared_telling hplain, read_eq_declared_telling hplain', htelling]

def shelfText : String :=
  "namespace Shop \x7b\nmodel Book \x7b\ntitle: string;\n\x7d\n\x7d"

/-- The same source with comments that look like a header, a property and a closing brace. -/
def shelfTextRelaid : String :=
  "// namespace Attic \x7b\nnamespace Shop \x7b\n\n  model Book \x7b\n\t\n" ++
    "    /* pages: int32; */\n\ttitle: string; \n    // \x7d\n  \x7d\n\x7d"

theorem read_relaid_shelfText :
    (∀ line ∈ trimmedLines shelfText.toList, isServiceStart line = false) ∧
      Relaid (lines shelfText.toList) (lines shelfTextRelaid.toList) ∧
      Definition.read shelfTextRelaid = Definition.read shelfText := by
  have hplain : ∀ line ∈ trimmedLines shelfText.toList, isServiceStart line = false := by
    decide
  have hlines : lines shelfText.toList =
      ["namespace Shop \x7b", "model Book \x7b", "title: string;", "\x7d", "\x7d"].map
        String.toList := by
    decide
  have hlines' : lines shelfTextRelaid.toList =
      ["// namespace Attic \x7b", "namespace Shop \x7b", "", "  model Book \x7b", "\t",
        "    /* pages: int32; */", "\ttitle: string; ", "    // \x7d", "  \x7d", "\x7d"].map
        String.toList := by
    decide
  have hrelaid : Relaid (lines shelfText.toList) (lines shelfTextRelaid.toList) := by
    rw [hlines, hlines']
    have hself : ∀ text, Pads text text := fun text => ⟨[], [], by simp, by simp⟩
    apply Relaid.inserted (by decide)
    apply Relaid.padded (hself _) (hself _)
    apply Relaid.inserted (by decide)
    apply Relaid.padded (hself _) ⟨"  ".toList, [], by decide, rfl⟩
    apply Relaid.inserted (by decide)
    apply Relaid.inserted (by decide)
    apply Relaid.padded (hself _) ⟨"\t".toList, " ".toList, by decide, rfl⟩
    apply Relaid.inserted (by decide)
    apply Relaid.padded (hself _) ⟨"  ".toList, [], by decide, rfl⟩
    exact Relaid.padded (hself _) (hself _) .nil
  exact ⟨hplain, hrelaid, read_relaid hplain hrelaid⟩

end ApiShapes.TypeSpec
