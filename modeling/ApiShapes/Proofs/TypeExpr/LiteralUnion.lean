import ApiShapes.Proofs.Text.Occurrence
import ApiShapes.Proofs.Text.Trimming
import ApiShapes.TypeExpr
import Mathlib.Tactic

/-!
# Unions of literals

The texts that a union of literals was made of are its members again.  A literal ends in a quote, so
no separator can start within one and end behind it; what remains to be asked of a text is that it
holds no separator itself and that the quotes around it are the only ones at its ends.  Both are
needed: a separator within a text adds a member, and no member has a quote at its ends.
-/

namespace ApiShapes

namespace TypeExpr

open Text

def separator : List Char := [' ', '|', ' ']

theorem isUnion_iff (s : List Char) : isUnion s = true ↔ separator <:+: s := by
  fun_induction isUnion s with
  | case1 rest => exact ⟨fun _ => (List.prefix_append separator rest).isInfix, fun _ => rfl⟩
  | case2 c rest hne ih =>
      rw [ih, List.infix_cons_iff]
      refine ⟨Or.inr, ?_⟩
      rintro (⟨more, hmore⟩ | h)
      · obtain ⟨rfl, rfl⟩ := List.cons.inj hmore
        exact absurd rfl (hne more rfl)
      · exact h
  | case3 => simp [separator]

/-! ## Alternatives -/

theorem alternatives_separator (rest : List Char) :
    alternatives (separator ++ rest) = [] :: alternatives rest := rfl

/-- A character that starts no separator belongs to the first alternative. -/
theorem alternatives_cons {c : Char} {rest first : List Char} {more : List (List Char)}
    (h : ¬ separator <+: c :: rest) (hrest : alternatives rest = first :: more) :
    alternatives (c :: rest) = (c :: first) :: more := by
  rw [alternatives]
  · rw [hrest]
  · rintro rest' rfl rfl
    exact h ⟨rest', rfl⟩

/-- A text that is closed by a quote is an alternative, or the start of one. -/
theorem alternatives_append_quote {s tail first : List Char} {more : List (List Char)}
    (h : ¬ separator <:+: s) (htail : alternatives ('"' :: tail) = first :: more) :
    alternatives (s ++ '"' :: tail) = (s ++ first) :: more := by
  induction s with
  | nil => exact htail
  | cons c s ih =>
      rw [List.infix_cons_iff, not_or] at h
      refine alternatives_cons ?_ (ih h.2)
      intro hstarts
      exact h.1 (prefix_of_prefix_append (s := c :: s) (by decide) hstarts)

def literalOf (v : List Char) : List Char :=
  '"' :: (v ++ ['"'])

theorem alternatives_literals {vs : List (List Char)} (hne : vs ≠ [])
    (h : ∀ v ∈ vs, ¬ separator <:+: v) :
    alternatives (separator.intercalate (vs.map literalOf)) = vs.map literalOf := by
  have hopen : ∀ v ∈ vs, ¬ separator <:+: '"' :: v := by
    intro v hv
    rw [List.infix_cons_iff, not_or]
    exact ⟨by simp [separator], h v hv⟩
  have hquote : ∀ rest first more, alternatives rest = first :: more →
      alternatives ('"' :: rest) = ('"' :: first) :: more :=
    fun rest first more => alternatives_cons (by simp [separator])
  induction vs with
  | nil => exact absurd rfl hne
  | cons v vs ih =>
      have hv := hopen v (by simp)
      cases vs with
      | nil =>
          rw [List.map_singleton, List.intercalate_singleton, literalOf, ← List.cons_append]
          exact alternatives_append_quote hv (hquote [] [] [] rfl)
      | cons w vs =>
          have hrest := ih (by simp) (fun u hu => h u (List.mem_cons_of_mem _ hu))
            fun u hu => hopen u (List.mem_cons_of_mem _ hu)
          have hjoin : separator.intercalate ((v :: w :: vs).map literalOf) =
              '"' :: v ++ '"' ::
                (separator ++ separator.intercalate ((w :: vs).map literalOf)) := by
            simp [List.intercalate_cons_cons, literalOf]
          rw [hjoin, alternatives_append_quote hv (hquote _ _ _ (alternatives_separator _)), hrest]
          rfl

theorem alternatives_ne_nil (s : List Char) : alternatives s ≠ [] := by
  fun_cases alternatives s with
  | _ => simp_all

/-- Each separator adds an alternative, so only a text without one is its own single alternative. -/
theorem length_alternatives_eq_one_iff (s : List Char) :
    (alternatives s).length = 1 ↔ ¬ separator <:+: s := by
  fun_induction alternatives s with
  | case1 rest ih =>
      have hmore : (alternatives rest).length ≠ 0 := by
        simpa using alternatives_ne_nil rest
      have hstarts : separator <:+: separator ++ rest := (List.prefix_append ..).isInfix
      exact iff_of_false (by simpa using hmore) fun h => h hstarts
  | case2 c rest hne hrest ih => exact absurd hrest (alternatives_ne_nil rest)
  | case3 c rest hne first more hrest ih =>
      have hstart : ¬ separator <+: c :: rest := by
        rintro ⟨after, hafter⟩
        obtain ⟨rfl, rfl⟩ := List.cons.inj hafter
        exact hne after rfl rfl
      rw [List.infix_cons_iff, not_or, ← ih, hrest, List.length_cons, List.length_cons]
      exact ⟨fun h => ⟨hstart, h⟩, And.right⟩
  | case4 => simp [separator]

/-- No separator reaches over a quote, so a text that is closed by one keeps its alternatives; the
last of them and the first behind it are one. -/
theorem length_alternatives_append_quote (s tail : List Char) :
    (alternatives (s ++ '"' :: tail)).length + 1 =
      (alternatives s).length + (alternatives ('"' :: tail)).length := by
  fun_induction alternatives s with
  | case1 rest ih =>
      rw [List.cons_append, List.cons_append, List.cons_append, alternatives, List.length_cons,
        List.length_cons]
      omega
  | case2 c rest hne hrest ih => exact absurd hrest (alternatives_ne_nil rest)
  | case3 c rest hne first more hrest ih =>
      have hstart : ¬ separator <+: c :: (rest ++ '"' :: tail) := by
        intro hstarts
        obtain ⟨after, hafter⟩ : separator <+: c :: rest :=
          prefix_of_prefix_append (s := c :: rest) (by decide) hstarts
        obtain ⟨rfl, rfl⟩ := List.cons.inj hafter
        exact hne after rfl rfl
      obtain ⟨first', more', hrest'⟩ :=
        List.exists_cons_of_ne_nil (alternatives_ne_nil (rest ++ '"' :: tail))
      rw [List.cons_append, alternatives_cons hstart hrest']
      rw [hrest, hrest'] at ih
      exact ih
  | case4 => exact Nat.add_comm _ _

theorem length_alternatives_quote (s : List Char) :
    (alternatives ('"' :: s)).length = (alternatives s).length := by
  obtain ⟨first, more, hs⟩ := List.exists_cons_of_ne_nil (alternatives_ne_nil s)
  rw [alternatives_cons (by simp [separator]) hs, hs]
  rfl

/-- A union of literals has as many alternatives as its texts have together. -/
theorem length_alternatives_literals {vs : List (List Char)} (hne : vs ≠ []) :
    (alternatives (separator.intercalate (vs.map literalOf))).length =
      (vs.map fun v => (alternatives v).length).sum := by
  induction vs with
  | nil => exact absurd rfl hne
  | cons v vs ih =>
      cases vs with
      | nil =>
          have hclosed := length_alternatives_append_quote v []
          rw [length_alternatives_quote] at hclosed
          rw [List.map_singleton, List.intercalate_singleton, literalOf, length_alternatives_quote,
            List.map_singleton, List.sum_singleton]
          exact Nat.add_right_cancel hclosed
      | cons w vs =>
          have hjoin : separator.intercalate ((v :: w :: vs).map literalOf) =
              '"' :: (v ++ '"' ::
                (separator ++ separator.intercalate ((w :: vs).map literalOf))) := by
            simp [List.intercalate_cons_cons, literalOf]
          have hclosed := length_alternatives_append_quote v
            (separator ++ separator.intercalate ((w :: vs).map literalOf))
          rw [length_alternatives_quote, alternatives_separator, List.length_cons,
            ih (by simp)] at hclosed
          rw [hjoin, length_alternatives_quote]
          simp only [List.map_cons, List.sum_cons] at hclosed ⊢
          omega

/-! ## Members -/

theorem trim_literalOf (v : List Char) : trim (literalOf v) = literalOf v := by
  rw [trim_eq_self_iff]
  constructor
  · intro c hc
    obtain rfl : '"' = c := by simpa [literalOf] using hc
    decide
  · intro c hc
    rw [literalOf, ← List.cons_append, List.getLast?_concat] at hc
    obtain rfl : '"' = c := Option.some.inj hc
    decide

/-- The quotes of a literal are stripped alone if the text has none at its ends. -/
theorem stripChar_literalOf {v : List Char} (hstart : ¬ ['"'] <+: v) (hend : ¬ ['"'] <:+ v) :
    stripChar '"' (literalOf v) = v := by
  have hdrop : ∀ {s : List Char}, ¬ ['"'] <+: s → s.dropWhile (· == '"') = s := by
    intro s hs
    cases s with
    | nil => rfl
    | cons c s =>
        have hc : c ≠ '"' := by
          rintro rfl
          exact hs ⟨s, rfl⟩
        simp [hc]
  cases v with
  | nil => rfl
  | cons c v =>
      have hopen : (literalOf (c :: v)).dropWhile (· == '"') = c :: v ++ ['"'] := by
        have hc : ¬ ['"'] <+: c :: v ++ ['"'] := by
          intro h
          obtain ⟨rfl, -⟩ := List.cons_prefix_cons.1 h
          exact hstart ⟨v, rfl⟩
        rw [literalOf, List.dropWhile_cons_of_pos (by simp), hdrop hc]
      have hclose : (c :: v ++ ['"']).reverse.dropWhile (· == '"') = (c :: v).reverse := by
        have hlast : ¬ ['"'] <+: (c :: v).reverse := by
          rw [← List.reverse_singleton, List.reverse_prefix]
          exact hend
        rw [List.reverse_append, List.reverse_singleton, List.singleton_append,
          List.dropWhile_cons_of_pos (by simp), hdrop hlast]
      rw [stripChar, hopen, hclose, List.reverse_reverse]

/-- A text that can be a member of a union of literals. -/
@[mk_iff]
structure Member (v : String) : Prop where
  whole : ¬ separator <:+: v.toList
  start : ¬ ['"'] <+: v.toList
  finish : ¬ ['"'] <:+ v.toList

instance (v : String) : Decidable (Member v) :=
  decidable_of_iff' _ (member_iff v)

theorem toList_literalUnion (values : List String) :
    (literalUnion values).toList =
      separator.intercalate ((values.map String.toList).map literalOf) := by
  have hliteral : (values.map fun v => "\"" ++ v ++ "\"").map String.toList =
      (values.map String.toList).map literalOf := by
    rw [List.map_map, List.map_map]
    refine List.map_congr_left fun v _ => ?_
    simp [literalOf]
  rw [literalUnion, String.toList_intercalate, hliteral]
  rfl

theorem members_literalUnion {values : List String} (hne : values ≠ [])
    (h : ∀ v ∈ values, Member v) :
    (members (literalUnion values).toList).map String.ofList = values := by
  have hwhole : ∀ v ∈ values.map String.toList, ¬ separator <:+: v := by
    intro v hv
    obtain ⟨s, hs, rfl⟩ := List.mem_map.1 hv
    exact (h s hs).whole
  have hmember : ∀ s ∈ values,
      String.ofList (stripChar '"' (trim (literalOf s.toList))) = s := by
    intro s hs
    rw [trim_literalOf, stripChar_literalOf (h s hs).start (h s hs).finish, String.ofList_toList]
  rw [members, toList_literalUnion, alternatives_literals (by simpa using hne) hwhole,
    List.map_map, List.map_map, List.map_map]
  exact (List.map_congr_left hmember).trans (List.map_id' values)

theorem not_prefix_dropWhile (c : Char) (s : List Char) : ¬ [c] <+: s.dropWhile (· == c) := by
  rintro ⟨rest, hrest⟩
  have hhead := List.head?_dropWhile_not (· == c) s
  rw [← hrest] at hhead
  simp at hhead

/-- What is stripped of a character neither starts nor ends with it. -/
theorem stripChar_ends (c : Char) (s : List Char) :
    ¬ [c] <+: stripChar c s ∧ ¬ [c] <:+ stripChar c s := by
  have hopen := not_prefix_dropWhile c s
  have hclose := not_prefix_dropWhile c (s.dropWhile (· == c)).reverse
  have hwithin : stripChar c s <+: s.dropWhile (· == c) := by
    rw [← List.reverse_suffix, stripChar, List.reverse_reverse]
    exact List.dropWhile_suffix _
  refine ⟨fun h => hopen (h.trans hwithin), ?_⟩
  rw [← List.reverse_prefix, stripChar, List.reverse_reverse]
  exact hclose

theorem ends_of_mem_unionMembers {t v : String} (h : v ∈ unionMembers t) :
    ¬ ['"'] <+: v.toList ∧ ¬ ['"'] <:+ v.toList := by
  obtain ⟨m, hm, rfl⟩ := List.mem_map.1 h
  obtain ⟨a, -, rfl⟩ := List.mem_map.1 hm
  rw [String.toList_ofList]
  exact stripChar_ends '"' (trim a)

theorem length_unionMembers_literalUnion {values : List String} (hne : values ≠ []) :
    (unionMembers (literalUnion values)).length =
      (values.map fun v => (alternatives v.toList).length).sum := by
  rw [unionMembers, members, List.length_map, List.length_map, toList_literalUnion,
    length_alternatives_literals (by simpa using hne), List.map_map]
  rfl

/-- A union that has no more members than it was made of holds no separator but its own. -/
theorem not_separator_of_length {values : List String} (hne : values ≠ [])
    (h : (unionMembers (literalUnion values)).length = values.length) :
    ∀ v ∈ values, ¬ separator <:+: v.toList := by
  have hpos : ∀ v ∈ values, 1 ≤ (alternatives v.toList).length :=
    fun v _ => List.length_pos_iff.2 (alternatives_ne_nil v.toList)
  intro v hv
  rw [← length_alternatives_eq_one_iff]
  by_contra hcut
  have hlt : (values.map fun _ => 1).sum <
      (values.map fun v => (alternatives v.toList).length).sum :=
    List.sum_lt_sum _ _ hpos ⟨v, hv, lt_of_le_of_ne (hpos v hv) (Ne.symm hcut)⟩
  rw [← length_unionMembers_literalUnion hne, h] at hlt
  simp at hlt

/-- The members of a union of literals are the texts that it was made of exactly if no text holds a
separator and none starts or ends with a quote. -/
theorem unionMembers_literalUnion_iff {values : List String} (hne : values ≠ []) :
    unionMembers (literalUnion values) = values ↔ ∀ v ∈ values, Member v := by
  refine ⟨fun h v hv => ?_, fun h => members_literalUnion hne h⟩
  obtain ⟨hstart, hfinish⟩ := ends_of_mem_unionMembers (h.symm ▸ hv)
  exact ⟨not_separator_of_length hne (congrArg List.length h) v hv, hstart, hfinish⟩

/-- Blanks, bars and inner quotes do no harm, nor does a bar at the end. -/
def shelfMarks : List String :=
  ["", " to be sorted", "a|b", "the \"new\" shelf |"]

theorem unionMembers_literalUnion_shelfMarks :
    shelfMarks ≠ [] ∧ unionMembers (literalUnion shelfMarks) = shelfMarks ∧
      unionMembers (literalUnion ("lost | found" :: shelfMarks)) ≠ "lost | found" :: shelfMarks :=
  ⟨by decide, (unionMembers_literalUnion_iff (by decide)).2 (by decide), fun h =>
    absurd ((unionMembers_literalUnion_iff (by simp)).1 h "lost | found" (by simp)) (by decide)⟩

theorem isUnion_literalUnion {values : List String} (h : 2 ≤ values.length) :
    isUnion (literalUnion values).toList = true := by
  match values, h with
  | v :: w :: rest, _ =>
    rw [isUnion_iff, toList_literalUnion]
    simp only [List.map_cons, List.intercalate_cons_cons]
    exact List.infix_append _ separator _

theorem literalUnion_ends {values : List String} (hne : values ≠ []) :
    ∃ mid, (literalUnion values).toList = '"' :: mid ∧
      (literalUnion values).toList.getLast? = some '"' := by
  rw [toList_literalUnion]
  induction values with
  | nil => exact absurd rfl hne
  | cons v values ih =>
      cases values with
      | nil =>
          refine ⟨_, by simp [literalOf]; rfl, ?_⟩
          rw [List.map_singleton, List.map_singleton, List.intercalate_singleton, literalOf,
            ← List.cons_append, List.getLast?_concat]
      | cons w values =>
          obtain ⟨mid, -, hlast⟩ := ih (by simp)
          refine ⟨_, by simp [List.intercalate_cons_cons, literalOf]; rfl, ?_⟩
          simp only [List.map_cons, List.intercalate_cons_cons] at hlast ⊢
          rw [List.getLast?_append, hlast]
          rfl

theorem literalUnion_ne_empty {values : List String} (hne : values ≠ []) :
    literalUnion values ≠ "" := by
  obtain ⟨mid, hmid, -⟩ := literalUnion_ends hne
  intro hempty
  rw [hempty] at hmid
  cases hmid

/-! ## Nullable types -/

theorem getLast?_append_nullSuffix (s : List Char) : (s ++ nullSuffix).getLast? = some 'l' := by
  have hlast : nullSuffix.getLast? = some 'l' := by decide
  rw [List.getLast?_append, hlast]
  rfl

/-- A type that is trimmed and does not end in null. -/
structure Plain (t : List Char) : Prop where
  trim : trim t = t
  noNull : ¬ nullSuffix <:+ t

theorem splitNull_of_plain {t : List Char} (h : Plain t) : splitNull t = (t, false) := by
  rw [splitNull, h.trim, beforeSuffix?_eq_none_iff.2 h.noNull]

/-- What follows a type that is not empty leaves no blanks around it. -/
theorem trim_makeNullable {t : String} (h : trim t.toList = t.toList) (hne : t ≠ "") :
    trim (makeNullable t).toList = (makeNullable t).toList := by
  have htext : (makeNullable t).toList = t.toList ++ nullSuffix := String.toList_append
  rw [htext, trim_eq_self_iff]
  constructor
  · intro c hc
    obtain ⟨d, rest, hd⟩ := List.exists_cons_of_ne_nil (l := t.toList) (by simpa using hne)
    refine ((trim_eq_self_iff _).1 h).1 c ?_
    rw [hd] at hc ⊢
    simpa using hc
  · intro c hc
    rw [getLast?_append_nullSuffix] at hc
    obtain rfl : 'l' = c := Option.some.inj hc
    decide

theorem splitNull_makeNullable {t : String} (h : Plain t.toList) (hne : t ≠ "") :
    splitNull (makeNullable t).toList = (t.toList, true) := by
  have htext : (makeNullable t).toList = t.toList ++ nullSuffix := String.toList_append
  have hbefore : beforeSuffix? nullSuffix (makeNullable t).toList = some t.toList :=
    beforeSuffix?_eq_some_iff.2 htext
  rw [splitNull, trim_makeNullable h.trim hne, hbefore]
  simp only [h.trim]

theorem plain_literalUnion {values : List String} (hne : values ≠ []) :
    Plain (literalUnion values).toList := by
  obtain ⟨mid, hmid, hlast⟩ := literalUnion_ends hne
  constructor
  · rw [trim_eq_self_iff]
    constructor
    · intro c hc
      rw [hmid] at hc
      obtain rfl : '"' = c := by simpa using hc
      decide
    · intro c hc
      rw [hlast] at hc
      obtain rfl : '"' = c := by simpa using hc
      decide
  · rintro ⟨pre, hpre⟩
    rw [← hpre, getLast?_append_nullSuffix] at hlast
    simp at hlast

end TypeExpr

end ApiShapes
