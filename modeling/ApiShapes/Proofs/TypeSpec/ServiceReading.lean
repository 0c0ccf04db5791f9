import ApiShapes.Proofs.TypeSpec.SourceReading
import Mathlib.Tactic

/-!
# Reading a rendered service block

A rendered service block that ends before the rest of the source sets title and version and declares
nothing else; the lines of the block behind its end are passed over.
-/

namespace ApiShapes.TypeSpec

open Json Text

theorem declared_of_service (p : Progress) {ls left : List (List Char)} {content : List Char}
    (hls : statements ls = serviceStatement content :: statements left)
    {title version : Option String}
    (hmeaning : (serviceStatement content).meaning = .service title version) :
    p.declared ls = Progress.declared { p with title, version } left := by
  have hstep : p.step (serviceStatement content) = { p with title, version } := by
    simp only [Progress.step, hmeaning]
  rw [Progress.declared, hls, List.foldl_cons, hstep]
  rfl

theorem declared_leftOver {p : Progress} (hp : ∀ n ∈ p.open?, n.model? = none)
    {left : List (List Char)} (hleft : ∀ l ∈ left, l = serviceClosing ∨ ∃ v, l = versionLine v)
    (rest : List (List Char)) : p.declared (left ++ rest) = p.declared rest := by
  induction left with
  | nil => rfl
  | cons l left ih =>
      have hrest := ih fun m hm => hleft m (by simp [hm])
      rw [List.cons_append]
      rcases hleft l (by simp) with rfl | ⟨v, rfl⟩
      · have hstart : isServiceStart serviceClosing = false := rfl
        rw [declared_other p hstart rfl, hrest]
      · have hstart : isServiceStart (versionLine v) = false :=
          isServiceStart_of_head (by decide) _
        have hmeaning : meaningOf (versionLine v) = .property (readProperty (versionLine v)) ∨
            meaningOf (versionLine v) = .other := meaningOf_of_head (by decide) _
        rcases hmeaning with hmeaning | hmeaning
        · rw [declared_property_outside hp hstart hmeaning, hrest]
        · rw [declared_other p hstart hmeaning, hrest]

/-- A block that ends before the rest of the source, or with it, sets title and version. -/
theorem declared_serviceBlock {p : Progress} (hp : ∀ n ∈ p.open?, n.model? = none)
    {title : String} (hne : title ≠ "") {version : Option String} (hversion : ∀ v ∈ version, v ≠ "")
    {rest : List (List Char)} (hends : ServiceEnds title version ∨ rest = []) :
    p.declared (serviceBlock title.toList (version.map String.toList) ++ rest) =
      Progress.declared { p with title := some title, version := versionRead title version }
        rest := by
  obtain ⟨content, left, hstatements, hmeaning, hleft⟩ :=
    statements_serviceBlock hne hversion hends
  rw [declared_of_service p hstatements hmeaning]
  exact declared_leftOver
    (p := { p with title := some title, version := versionRead title version }) hp hleft rest

/-! ## Balanced texts -/

theorem FitsService.excess {s : String} (hs : FitsService s) : parenthesisExcess s.toList = 0 := by
  rw [parenthesisExcess, hs.balanced, sub_self]

/-- Texts with balanced parentheses are read back, if the title does not end like the key of the
version. -/
theorem versionRead_of_fits {title : String} (htitle : FitsService title)
    (hend : ¬ versionKey <:+ trimEnd title.toList) (version : Option String) :
    versionRead title version = version := by
  have hbehind : versionBehind title = id := by
    funext v
    rw [versionBehind, if_neg fun h => hend (endsLike_of_escape h)]
    rfl
  rw [versionRead, htitle.excess, if_neg (by decide), hbehind, Option.map_id]
  rfl

/-- A rendered service block sets title and version; there is no block without a title. -/
theorem declared_serviceLines {p : Progress} (hp : ∀ n ∈ p.open?, n.model? = none)
    (hnone : p.title = none ∧ p.version = none)
    {title version : Option String} (htitle : ∀ t ∈ title, FitsService t)
    (hend : ∀ t ∈ title, ¬ versionKey <:+ trimEnd t.toList)
    (hversion : ∀ v ∈ version, FitsService v) (rest : List (List Char)) :
    p.declared (shownLines (serviceLines title version) ++ rest) =
      Progress.declared { p with
        title := filled title
        version := (filled title).bind fun _ => filled version } rest := by
  obtain ⟨imports, namespaces, open?, oldTitle, oldVersion, ignored⟩ := p
  obtain ⟨rfl, rfl⟩ : oldTitle = none ∧ oldVersion = none := hnone
  cases title with
  | none => rfl
  | some t =>
      by_cases hempty : t = ""
      · subst hempty
        rfl
      · have hfilled : filled (some t) = some t := by simp [filled, hempty]
        have hgiven : ∀ v ∈ filled version, FitsService v ∧ v ≠ "" := by
          intro v hv
          obtain ⟨hmem, hne⟩ := Option.filter_eq_some_iff.1 hv
          exact ⟨hversion v hmem, by simpa using hne⟩
        have hends : ServiceEnds t (filled version) := by
          right; right
          rw [(htitle t rfl).excess]
          cases hv : filled version with
          | none => rfl
          | some v =>
              rw [Option.getD_some, (hgiven v hv).1.excess]
              rfl
        rw [shownLines_serviceLines hempty (htitle t rfl).oneLine version
          fun v hv => (hversion v hv).oneLine]
        change Progress.declared _
          (serviceBlock t.toList ((filled version).map String.toList) ++ rest) = _
        rw [declared_serviceBlock hp hempty (fun v hv => (hgiven v hv).2) (Or.inl hends),
          versionRead_of_fits (htitle t rfl) (hend t rfl), hfilled]
        rfl

end ApiShapes.TypeSpec
