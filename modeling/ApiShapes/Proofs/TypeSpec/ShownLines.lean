import ApiShapes.Proofs.Text.JoinedLines
import ApiShapes.TypeSpec.Source
import Mathlib.Tactic

/-!
# The shown lines of a source

A source is read as its trimmed lines that are not empty.  These are collected here from the lines
that a definition is rendered to: indentation, empty lines and the trimming of the whole text do not
show, and a rendered line without line boundaries inside shows as itself.
-/

namespace ApiShapes.TypeSpec

open Text

/-- The trimmed lines that rendered lines contribute to a source. -/
def shownLines (ls : List String) : List (List Char) :=
  ls.flatMap fun l => trimmedLines l.toList

@[simp] theorem shownLines_nil : shownLines [] = [] := rfl

theorem shownLines_cons (l : String) (ls : List String) :
    shownLines (l :: ls) = trimmedLines l.toList ++ shownLines ls := rfl

@[simp] theorem shownLines_append (a b : List String) :
    shownLines (a ++ b) = shownLines a ++ shownLines b :=
  List.flatMap_append

@[simp] theorem shownLines_empty_line : shownLines [""] = [] := rfl

theorem shownLines_flatMap {α : Type} (f : α → List String) (xs : List α) :
    shownLines (xs.flatMap f) = xs.flatMap fun x => shownLines (f x) :=
  List.flatMap_assoc

theorem trimmedLines_intercalate_text (ls : List String) :
    trimmedLines ("\n".intercalate ls).toList = shownLines ls := by
  have hbreak : "\n".toList = ['\n'] := rfl
  rw [String.toList_intercalate, hbreak, trimmedLines_intercalate, shownLines, List.flatMap_map]

theorem lines_intercalate_text {ls : List String}
    (h : ∀ line ∈ ls.map String.toList, OneLine line ∧ line ≠ []) :
    lines ("\n".intercalate ls).toList = ls.map String.toList := by
  have hbreak : "\n".toList = ['\n'] := rfl
  rw [String.toList_intercalate, hbreak, lines_intercalate h]

/-- Rendering a definition and cutting the text into lines again shows the rendered lines. -/
theorem trimmedLines_source (d : Definition) :
    trimmedLines d.source.toList = shownLines d.lines := by
  rw [Definition.source, trimText, String.toList_ofList, trimmedLines_trim,
    trimmedLines_intercalate_text]

theorem trimmedLines_indent (level : Nat) (l : String) :
    trimmedLines (indent level l).toList = trimmedLines l.toList := by
  rw [indent, String.toList_append, String.toList_ofList]
  induction 2 * level with
  | zero => rfl
  | succ n ih =>
      rw [List.replicate_succ, List.cons_append, trimmedLines_cons_blank (by decide), ih]

/-- A line between two characters that are not blank shows as itself. -/
theorem trimmedLines_between {c d : Char} {mid : List Char} (hc : isBlank c = false)
    (hd : isBlank d = false) (hmid : OneLine mid) :
    trimmedLines (c :: (mid ++ [d])) = [c :: (mid ++ [d])] := by
  have hone : OneLine (c :: (mid ++ [d])) := by
    refine OneLine.append (s := [c]) ?_ (hmid.append ?_)
    · exact OneLine.of_no_blank (by simpa using hc)
    · exact OneLine.of_no_blank (by simpa using hd)
  have htrim : trim (c :: (mid ++ [d])) = c :: (mid ++ [d]) := by
    rw [trim_eq_self_iff]
    constructor
    · simp [hc]
    · rw [← List.cons_append, List.getLast?_concat]
      simp [hd]
  rw [trimmedLines_of_oneLine hone, htrim, if_neg (by simp)]

end ApiShapes.TypeSpec
