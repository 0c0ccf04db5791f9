import ApiShapes.Proofs.Text.Trimming
import Mathlib.Tactic

/-!
# The lines of joined texts

The trimmed lines of a text that are not empty do not depend on how its boundaries are grouped: they
are the pieces between single boundary characters, trimmed, without the empty ones.  So they can be
collected part by part when a text is put together from lines, whatever boundaries those lines
contain themselves, and blanks at the ends of the whole text do not matter.
-/

namespace ApiShapes.Text

/-- A text that no line boundary interrupts. -/
def OneLine (s : List Char) : Prop :=
  ∀ c ∈ s, isLineBoundary c = false

instance (s : List Char) : Decidable (OneLine s) :=
  decidableForallMem _ s

theorem OneLine.of_subset {s t : List Char} (ht : OneLine t) (h : s ⊆ t) : OneLine s :=
  fun c hc => ht c (h hc)

theorem OneLine.append {s t : List Char} (hs : OneLine s) (ht : OneLine t) : OneLine (s ++ t) :=
  fun c hc => (List.mem_append.1 hc).elim (hs c) (ht c)

theorem OneLine.trim {s : List Char} (hs : OneLine s) : OneLine (trim s) :=
  hs.of_subset fun _ => mem_of_mem_trim

theorem OneLine.of_no_blank {s : List Char} (h : ∀ c ∈ s, isBlank c = false) : OneLine s :=
  fun c hc => isLineBoundary_of_not_blank (h c hc)

theorem mem_of_mem_intercalate {joint : List Char} {parts : List (List Char)} {c : Char}
    (h : c ∈ joint.intercalate parts) : c ∈ joint ∨ ∃ part ∈ parts, c ∈ part := by
  induction parts with
  | nil => simp at h
  | cons part parts ih =>
      cases parts with
      | nil =>
          rw [List.intercalate_singleton] at h
          exact Or.inr ⟨part, by simp, h⟩
      | cons next parts =>
          rw [List.intercalate_cons_cons, List.mem_append, List.mem_append] at h
          rcases h with (h | h) | h
          · exact Or.inr ⟨part, by simp, h⟩
          · exact Or.inl h
          · rcases ih h with h | ⟨other, hother, h⟩
            · exact Or.inl h
            · exact Or.inr ⟨other, List.mem_cons_of_mem _ hother, h⟩

theorem OneLine.intercalate {joint : List Char} {parts : List (List Char)} (hjoint : OneLine joint)
    (hparts : ∀ part ∈ parts, OneLine part) : OneLine (joint.intercalate parts) := by
  intro c hc
  rcases mem_of_mem_intercalate hc with hc | ⟨part, hpart, hc⟩
  · exact hjoint c hc
  · exact hparts part hpart c hc

/-- The pieces that are left when each is trimmed and the empty ones are dropped. -/
def visible (pieces : List (List Char)) : List (List Char) :=
  (pieces.map trim).filter (!·.isEmpty)

@[simp] theorem visible_nil : visible [] = [] := rfl

@[simp] theorem visible_append (a b : List (List Char)) :
    visible (a ++ b) = visible a ++ visible b := by
  simp [visible]

@[simp] theorem visible_nil_cons (pieces : List (List Char)) :
    visible ([] :: pieces) = visible pieces := by
  simp [visible]

theorem visible_cons (piece : List Char) (pieces : List (List Char)) :
    visible (piece :: pieces) =
      if trim piece = [] then visible pieces else trim piece :: visible pieces := by
  by_cases h : trim piece = [] <;> simp [visible, h]

theorem trimmedLines_eq_visible_lines (s : List Char) : trimmedLines s = visible (lines s) := rfl

/-- Behind the first line, the lines of a text and its pieces between single boundaries differ in
empty ones only. -/
private theorem lines_splitOnP (s : List Char) :
    ∃ first rest, s.splitOnP isLineBoundary = first :: rest ∧
      ((s = [] ∧ first = [] ∧ rest = []) ∨
        ∃ more, lines s = first :: more ∧ visible more = visible rest) := by
  have hvisible : ∀ {t first : List Char} {rest : List (List Char)},
      (t = [] ∧ first = [] ∧ rest = []) ∨
          (∃ more, lines t = first :: more ∧ visible more = visible rest) →
        visible (lines t) = visible (first :: rest) := by
    rintro t first rest (⟨rfl, rfl, rfl⟩ | ⟨more, hmore, hrest⟩)
    · simp
    · rw [hmore, visible_cons, visible_cons, hrest]
  fun_induction lines s with
  | case1 => exact ⟨[], [], by simp, Or.inl ⟨rfl, rfl, rfl⟩⟩
  | case2 rest ih =>
      obtain ⟨first, pieces, hsplit, hlines⟩ := ih
      have hr : isLineBoundary '\r' = true := by decide
      have hn : isLineBoundary '\n' = true := by decide
      refine ⟨[], [] :: first :: pieces, ?_, Or.inr ⟨lines rest, rfl, ?_⟩⟩
      · rw [List.splitOnP_cons_eq_if_modifyHead, List.splitOnP_cons_eq_if_modifyHead, hsplit]
        simp [hr, hn]
      · rw [visible_nil_cons, hvisible hlines]
  | case3 c rest hne hc ih =>
      obtain ⟨first, pieces, hsplit, hlines⟩ := ih
      refine ⟨[], first :: pieces, ?_, Or.inr ⟨lines rest, rfl, hvisible hlines⟩⟩
      rw [List.splitOnP_cons_eq_if_modifyHead, hsplit]
      simp [hc]
  | case4 c rest hne hc ih =>
      obtain ⟨first, pieces, hsplit, hlines⟩ := ih
      refine ⟨c :: first, pieces, ?_, Or.inr ?_⟩
      · rw [List.splitOnP_cons_eq_if_modifyHead, hsplit]
        simp [hc]
      · rcases hlines with ⟨rfl, rfl, rfl⟩ | ⟨more, hmore, hrest⟩
        · exact ⟨[], rfl, rfl⟩
        · exact ⟨more, by rw [hmore]; rfl, hrest⟩

/-- The trimmed lines are the visible pieces between single boundary characters. -/
theorem trimmedLines_eq_visible_splitOnP (s : List Char) :
    trimmedLines s = visible (s.splitOnP isLineBoundary) := by
  obtain ⟨first, rest, hsplit, hlines⟩ := lines_splitOnP s
  rw [trimmedLines_eq_visible_lines, hsplit]
  rcases hlines with ⟨rfl, rfl, rfl⟩ | ⟨more, hmore, hrest⟩
  · simp
  · rw [hmore, visible_cons, visible_cons, hrest]

@[simp] theorem trimmedLines_nil : trimmedLines [] = [] := rfl

theorem trimmedLines_append_boundary {c : Char} (hc : isLineBoundary c = true)
    (a b : List Char) : trimmedLines (a ++ c :: b) = trimmedLines a ++ trimmedLines b := by
  simp only [trimmedLines_eq_visible_splitOnP, List.splitOnP_append_cons a b hc, visible_append]

theorem trimmedLines_of_oneLine {s : List Char} (hs : OneLine s) :
    trimmedLines s = if trim s = [] then [] else [trim s] := by
  rw [trimmedLines_eq_visible_splitOnP, List.splitOnP_eq_singleton hs, visible_cons, visible_nil]

/-- A text that starts with a visible piece of a line has this piece in its first line, which runs
up to the first boundary. -/
theorem trimmedLines_append_of_visible {u : List Char} (hone : OneLine u) (htrim : trim u = u)
    (hne : u ≠ []) (s : List Char) :
    ∃ first more, trimmedLines (u ++ s) = (u ++ trimEnd first) :: more ∧
      (s = first ∧ more = [] ∨ ∃ c rest, s = first ++ c :: rest ∧ more = trimmedLines rest) := by
  have hfirst : ∀ first, OneLine first → trimmedLines (u ++ first) = [u ++ trimEnd first] := by
    intro first h
    rw [trimmedLines_of_oneLine (hone.append h), trim_append_of_trim htrim hne,
      if_neg (by simp [hne])]
  have hsplit := List.takeWhile_append_dropWhile (p := fun c => !isLineBoundary c) (l := s)
  have htake : OneLine (s.takeWhile fun c => !isLineBoundary c) := by
    intro c hc
    simpa using List.mem_takeWhile_imp hc
  cases hdrop : s.dropWhile fun c => !isLineBoundary c with
  | nil =>
      rw [hdrop, List.append_nil] at hsplit
      rw [hsplit] at htake
      exact ⟨s, [], hfirst s htake, Or.inl ⟨rfl, rfl⟩⟩
  | cons c rest =>
      have hc : isLineBoundary c = true := by
        have hhead := List.head?_dropWhile_not (fun c => !isLineBoundary c) s
        rw [hdrop] at hhead
        simpa using hhead
      rw [hdrop] at hsplit
      refine ⟨_, trimmedLines rest, ?_, Or.inr ⟨c, rest, hsplit.symm, rfl⟩⟩
      nth_rewrite 1 [← hsplit]
      rw [← List.append_assoc, trimmedLines_append_boundary hc, hfirst _ htake]
      rfl

theorem trimmedLines_intercalate (ls : List (List Char)) :
    trimmedLines (['\n'].intercalate ls) = ls.flatMap trimmedLines := by
  induction ls with
  | nil => rfl
  | cons l rest ih =>
      cases rest with
      | nil => simp
      | cons m rest =>
          rw [List.intercalate_cons_cons, List.append_assoc, List.singleton_append,
            trimmedLines_append_boundary (by decide), ih]
          rfl

theorem lines_append_break {line : List Char} (h : OneLine line) (rest : List Char) :
    lines (line ++ '\n' :: rest) = line :: lines rest := by
  induction line with
  | nil =>
      rw [List.nil_append, lines, if_pos (by decide)]
      rintro rest ⟨⟩
  | cons c line ih =>
      have hc := h c List.mem_cons_self
      rw [List.cons_append, lines_cons_of_not_boundary hc,
        ih fun d hd => h d (List.mem_cons_of_mem _ hd)]
      rfl

/-- Lines that are not empty are read back when they are joined. -/
theorem lines_intercalate {ls : List (List Char)} (h : ∀ line ∈ ls, OneLine line ∧ line ≠ []) :
    lines (['\n'].intercalate ls) = ls := by
  induction ls with
  | nil => rfl
  | cons line rest ih =>
      obtain ⟨⟨hone, hne⟩, hrest⟩ := List.forall_mem_cons.1 h
      cases rest with
      | nil => rw [List.intercalate_singleton, lines_of_no_boundary hne hone]
      | cons next rest =>
          rw [List.intercalate_cons_cons, List.append_assoc, List.singleton_append,
            lines_append_break hone, ih hrest]

theorem visible_splitOnP_cons_blank {p : Char → Bool} {c : Char} (hc : isBlank c = true)
    (s : List Char) : visible ((c :: s).splitOnP p) = visible (s.splitOnP p) := by
  rw [List.splitOnP_cons_eq_if_modifyHead]
  split
  · exact visible_nil_cons _
  · cases h : s.splitOnP p with
    | nil => exact absurd h (List.splitOnP_ne_nil _ _)
    | cons first rest =>
        have htrim : trim (c :: first) = trim first :=
          trim_blank_append [c] (by simpa using hc) first
        rw [List.modifyHead_cons, visible_cons, visible_cons, htrim]

theorem trimmedLines_cons_blank {c : Char} (hc : isBlank c = true) (s : List Char) :
    trimmedLines (c :: s) = trimmedLines s := by
  rw [trimmedLines_eq_visible_splitOnP, trimmedLines_eq_visible_splitOnP,
    visible_splitOnP_cons_blank hc]

theorem trimmedLines_append_blank {c : Char} (hc : isBlank c = true) (s : List Char) :
    trimmedLines (s ++ [c]) = trimmedLines s := by
  induction hn : s.length using Nat.strong_induction_on generalizing s with
  | _ n ih =>
      by_cases hs : OneLine s
      · by_cases hb : isLineBoundary c = true
        · simpa using trimmedLines_append_boundary hb s []
        · have hone : OneLine (s ++ [c]) := hs.append (by simpa [OneLine] using hb)
          have htrim : trim (s ++ [c]) = trim s := trim_append_blank s (by simpa using hc)
          rw [trimmedLines_of_oneLine hone, trimmedLines_of_oneLine hs, htrim]
      · -- the blank stands behind the part after a boundary, which is shorter
        obtain ⟨d, hd, hdb⟩ : ∃ d ∈ s, isLineBoundary d = true := by
          simpa [OneLine] using hs
        obtain ⟨a, b, rfl⟩ := List.append_of_mem hd
        have hshort : b.length < n := by
          simp at hn
          omega
        rw [List.append_assoc, List.cons_append, trimmedLines_append_boundary hdb,
          trimmedLines_append_boundary hdb, ih b.length hshort b rfl]

theorem trimmedLines_trimStart (s : List Char) : trimmedLines (trimStart s) = trimmedLines s := by
  induction s with
  | nil => rfl
  | cons c s ih =>
      rw [trimStart_cons]
      split
      · next hc => rw [ih, trimmedLines_cons_blank hc]
      · rfl

theorem trimmedLines_trimEnd (s : List Char) : trimmedLines (trimEnd s) = trimmedLines s := by
  induction s using List.reverseRecOn with
  | nil => rfl
  | append_singleton s c ih =>
      rw [trimEnd_append_singleton]
      split
      · next hc => rw [ih, trimmedLines_append_blank hc]
      · rfl

/-- Trimming a whole text changes none of its trimmed lines. -/
theorem trimmedLines_trim (s : List Char) : trimmedLines (trim s) = trimmedLines s := by
  rw [trim, trimmedLines_trimEnd, trimmedLines_trimStart]

/-- The pieces between separators are parts of the text and hold no separator. -/
theorem mem_splitOnP {p : Char → Bool} {s piece : List Char} (h : piece ∈ s.splitOnP p) :
    piece ⊆ s ∧ ∀ c ∈ piece, p c = false := by
  induction s generalizing piece with
  | nil =>
      obtain rfl : piece = [] := by simpa using h
      simp
  | cons d s ih =>
      rw [List.splitOnP_cons_eq_if_modifyHead] at h
      split at h
      · rcases List.mem_cons.1 h with rfl | h
        · simp
        · obtain ⟨hsubset, hnot⟩ := ih h
          exact ⟨fun c hc => List.mem_cons_of_mem _ (hsubset hc), hnot⟩
      · next hd =>
        cases hs : s.splitOnP p with
        | nil => exact absurd hs (List.splitOnP_ne_nil _ _)
        | cons first rest =>
            rw [hs, List.modifyHead_cons, List.mem_cons] at h
            rcases h with rfl | h
            · obtain ⟨hsubset, hnot⟩ := ih (hs ▸ List.mem_cons_self)
              refine ⟨List.cons_subset_cons d hsubset, ?_⟩
              simpa [hd] using hnot
            · obtain ⟨hsubset, hnot⟩ := ih (hs ▸ List.mem_cons_of_mem _ h)
              exact ⟨fun c hc => List.mem_cons_of_mem _ (hsubset hc), hnot⟩

/-- A trimmed line of a text is not empty, is trimmed, and holds no line boundary. -/
theorem mem_trimmedLines {s l : List Char} (h : l ∈ trimmedLines s) :
    l ≠ [] ∧ trim l = l ∧ OneLine l := by
  rw [trimmedLines_eq_visible_splitOnP, visible, List.mem_filter, List.mem_map] at h
  obtain ⟨⟨piece, hpiece, rfl⟩, hne⟩ := h
  exact ⟨by simpa using hne, trim_trim piece, OneLine.trim (mem_splitOnP hpiece).2⟩

theorem subset_of_mem_trimmedLines {s l : List Char} (h : l ∈ trimmedLines s) : l ⊆ s := by
  rw [trimmedLines_eq_visible_splitOnP, visible, List.mem_filter, List.mem_map] at h
  obtain ⟨⟨piece, hpiece, rfl⟩, -⟩ := h
  exact fun c hc => (mem_splitOnP hpiece).1 (mem_of_mem_trim hc)

end ApiShapes.Text
