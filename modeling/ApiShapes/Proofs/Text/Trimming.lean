import ApiShapes.Text.Lines
import Mathlib.Data.List.TakeWhile
import Mathlib.Tactic

/-!
# Trimming

Which texts are left alone by trimming, and which parts of a text trimming cannot see.  A text is
trimmed exactly if neither its first nor its last character is blank, so a text between two visible
characters is trimmed whatever stands between them.
-/

namespace ApiShapes.Text

/-- What holds of the characters of a text is decided along the text, not over all the characters
there are. -/
instance decidableForallMem (p : Char → Prop) [DecidablePred p] (s : List Char) :
    Decidable (∀ c ∈ s, p c) :=
  List.decidableBAll p s

theorem isBlank_of_isLineBoundary {c : Char} (h : isLineBoundary c = true) :
    isBlank c = true := by
  simp only [isLineBoundary, isBlank, Bool.or_eq_true, Bool.and_eq_true, decide_eq_true_eq,
    beq_iff_eq] at h ⊢
  omega

theorem isLineBoundary_of_not_blank {c : Char} (h : isBlank c = false) :
    isLineBoundary c = false := by
  cases hc : isLineBoundary c with
  | false => rfl
  | true => simp [isBlank_of_isLineBoundary hc] at h

theorem trimStart_append_of_blank {pad : List Char} (hpad : ∀ c ∈ pad, isBlank c = true)
    (s : List Char) : trimStart (pad ++ s) = trimStart s := by
  unfold trimStart
  exact List.dropWhile_append_of_pos hpad

theorem trimStart_of_blank {s : List Char} (hs : ∀ c ∈ s, isBlank c = true) :
    trimStart s = [] := by
  simpa using trimStart_append_of_blank hs []

theorem trimEnd_append_of_blank {pad : List Char} (hpad : ∀ c ∈ pad, isBlank c = true)
    (s : List Char) : trimEnd (s ++ pad) = trimEnd s := by
  unfold trimEnd
  rw [List.reverse_append, List.dropWhile_append_of_pos (by simpa using hpad)]

theorem trimStart_eq_self_of_head {s : List Char} (h : ∀ c, s.head? = some c → isBlank c = false) :
    trimStart s = s := by
  cases s with
  | nil => rfl
  | cons c r => simp [trimStart_cons, h c rfl]

theorem trimEnd_eq_self_of_last {s : List Char}
    (h : ∀ c, s.getLast? = some c → isBlank c = false) : trimEnd s = s := by
  have hrev : s.reverse.dropWhile isBlank = s.reverse :=
    trimStart_eq_self_of_head (s := s.reverse) (by simpa using h)
  rw [trimEnd, hrev, List.reverse_reverse]

theorem head?_trimStart {s : List Char} {c : Char} (h : (trimStart s).head? = some c) :
    isBlank c = false := by
  have := List.head?_dropWhile_not isBlank s
  unfold trimStart at h
  rw [h] at this
  simpa using this

theorem getLast?_trimEnd {s : List Char} {c : Char} (h : (trimEnd s).getLast? = some c) :
    isBlank c = false := by
  rw [trimEnd, List.getLast?_reverse] at h
  exact head?_trimStart (s := s.reverse) h

theorem trimEnd_isPrefix (s : List Char) : trimEnd s <+: s := by
  rw [← List.reverse_suffix]
  simpa [trimEnd] using List.dropWhile_suffix (l := s.reverse) isBlank

theorem exists_trimEnd_append (s : List Char) :
    ∃ pad, (∀ c ∈ pad, isBlank c = true) ∧ trimEnd s ++ pad = s := by
  refine ⟨(s.reverse.takeWhile isBlank).reverse, ?_, ?_⟩
  · intro c hc
    exact List.mem_takeWhile_imp (List.mem_reverse.1 hc)
  · rw [trimEnd, ← List.reverse_append, List.takeWhile_append_dropWhile, List.reverse_reverse]

theorem trimStart_suffix (s : List Char) : trimStart s <:+ s :=
  List.dropWhile_suffix isBlank

theorem trim_isInfix (s : List Char) : trim s <:+: s :=
  (trimEnd_isPrefix _).isInfix.trans (trimStart_suffix s).isInfix

theorem mem_of_mem_trim {s : List Char} {c : Char} (h : c ∈ trim s) : c ∈ s :=
  (trim_isInfix s).subset h

theorem mem_of_mem_trimEnd {s : List Char} {c : Char} (h : c ∈ trimEnd s) : c ∈ s :=
  (trimEnd_isPrefix s).subset h

/-- The first character of what is left of a trimmed text is that of the text. -/
theorem head?_trimEnd_of_trimStart {s : List Char} (hs : trimStart s = s) {c : Char}
    (h : (trimEnd s).head? = some c) : isBlank c = false := by
  obtain ⟨rest, hrest⟩ := trimEnd_isPrefix s
  have hhead : (trimStart s).head? = some c := by
    rw [hs, ← hrest, List.head?_append, h]
    rfl
  exact head?_trimStart hhead

@[simp] theorem trimStart_trimStart (s : List Char) : trimStart (trimStart s) = trimStart s :=
  trimStart_eq_self_of_head fun _ => head?_trimStart

/-- A text is trimmed exactly if neither its first nor its last character is blank. -/
theorem trim_eq_self_iff (s : List Char) :
    trim s = s ↔
      (∀ c, s.head? = some c → isBlank c = false) ∧
        ∀ c, s.getLast? = some c → isBlank c = false := by
  constructor
  · intro h
    constructor
    · intro c hc
      rw [← h] at hc
      exact head?_trimEnd_of_trimStart (trimStart_trimStart s) hc
    · intro c hc
      rw [← h] at hc
      exact getLast?_trimEnd hc
  · rintro ⟨hhead, hlast⟩
    rw [trim, trimStart_eq_self_of_head hhead, trimEnd_eq_self_of_last hlast]

theorem trimStart_of_trim {s : List Char} (h : trim s = s) : trimStart s = s :=
  trimStart_eq_self_of_head ((trim_eq_self_iff s).1 h).1

theorem trimEnd_of_trim {s : List Char} (h : trim s = s) : trimEnd s = s :=
  trimEnd_eq_self_of_last ((trim_eq_self_iff s).1 h).2

@[simp] theorem trim_trim (s : List Char) : trim (trim s) = trim s := by
  rw [trim_eq_self_iff]
  exact ⟨fun c => head?_trimEnd_of_trimStart (trimStart_trimStart s), fun c => getLast?_trimEnd⟩

theorem trim_trimEnd_of_trimStart {s : List Char} (h : trimStart s = s) :
    trim (trimEnd s) = trimEnd s := by
  rw [trim_eq_self_iff]
  exact ⟨fun c => head?_trimEnd_of_trimStart h, fun c => getLast?_trimEnd⟩

theorem trim_eq_nil_iff (s : List Char) : trim s = [] ↔ ∀ c ∈ s, isBlank c = true := by
  constructor
  · intro h
    have hend : ∀ c ∈ trimStart s, isBlank c = true := by
      rw [trim, trimEnd, List.reverse_eq_nil_iff, List.dropWhile_eq_nil_iff] at h
      simpa using h
    cases hstart : trimStart s with
    | nil => exact List.dropWhile_eq_nil_iff.1 hstart
    | cons c rest =>
        have hc : isBlank c = false := head?_trimStart (s := s) (by rw [hstart]; rfl)
        simp [hstart, hc] at hend
  · intro h
    rw [trim, trimStart_of_blank h, trimEnd_nil]

theorem trim_blank_append (pad : List Char) (hpad : ∀ c ∈ pad, isBlank c = true)
    (s : List Char) : trim (pad ++ s) = trim s := by
  rw [trim, trim, trimStart_append_of_blank hpad]

theorem trim_of_no_blank {s : List Char} (h : ∀ c ∈ s, isBlank c = false) : trim s = s := by
  rw [trim_eq_self_iff]
  exact ⟨fun c hc => h c (List.mem_of_mem_head? hc), fun c hc => h c (List.mem_of_getLast? hc)⟩

/-- Behind a visible piece only the end is trimmed. -/
theorem trim_append_of_trim {s : List Char} (hs : trim s = s) (hne : s ≠ []) (t : List Char) :
    trim (s ++ t) = s ++ trimEnd t := by
  have hstart : trimStart (s ++ t) = s ++ t := by
    apply trimStart_eq_self_of_head
    intro c hc
    rw [List.head?_append_of_ne_nil s hne] at hc
    exact ((trim_eq_self_iff s).1 hs).1 c hc
  rw [trim, hstart]
  clear hstart
  induction t using List.reverseRecOn with
  | nil => simpa using trimEnd_of_trim hs
  | append_singleton t c ih =>
      rw [← List.append_assoc, trimEnd_append_singleton, trimEnd_append_singleton]
      split
      · exact ih
      · rw [List.append_assoc]

theorem trim_append_blank (s : List Char) {pad : List Char}
    (hpad : ∀ c ∈ pad, isBlank c = true) : trim (s ++ pad) = trim s := by
  by_cases hs : ∀ c ∈ s, isBlank c = true
  · have hall : ∀ c ∈ s ++ pad, isBlank c = true :=
      fun c hc => (List.mem_append.1 hc).elim (hs c) (hpad c)
    rw [trim, trim, trimStart_of_blank hall, trimStart_of_blank hs]
  · have hne : trimStart s ≠ [] := fun h => hs (List.dropWhile_eq_nil_iff.1 h)
    have hstart : trimStart (s ++ pad) = trimStart s ++ pad := by
      unfold trimStart at hne ⊢
      rw [List.dropWhile_append, if_neg (by simpa using hne)]
    rw [trim, trim, hstart, trimEnd_append_of_blank hpad]

end ApiShapes.Text
