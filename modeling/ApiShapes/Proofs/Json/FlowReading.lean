import ApiShapes.Proofs.Document.StepResults
import ApiShapes.Proofs.Json.NumberWords
import ApiShapes.Proofs.Yaml.FlowNodes
import Mathlib.Tactic

/-!
# JSON texts that YAML reads

YAML reads a JSON text unless the text holds what only JSON allows: tabs between tokens, characters
that cannot be printed, the line ends of other systems inside of literals, and keys that are too
long or not on the line of their colon.
-/

namespace ApiShapes.Json

/-- A character that can be printed and is no tab and no line end other than the line feed. -/
def isCommonChar (ch : Char) : Bool :=
  Yaml.isPrintable ch && ch != '\t' && (ch == '\n' || !Yaml.isBreak ch)

/-- Whether a colon after a literal stands on the same line, at most 1024 characters after the
opening quote. -/
def colonInReach (literal : List Char) : Bool :=
  match readString literal with
  | .ok (_, rest) =>
    match skipSpace rest with
    | ':' :: after =>
      !(rest.takeWhile isSpace).contains '\n' && literal.length - after.length ≤ 1024
    | _ => true
  | .error _ => true

/-- Whether the colons after all literals are in reach. -/
def keysInReach : List Char → Bool
  | [] => true
  | ch :: rest => (ch != '"' || colonInReach rest) && keysInReach rest

/-- Whether a text avoids what only JSON allows. -/
def fitsYaml (text : List Char) : Bool :=
  text.all isCommonChar && keysInReach text

variable {s text left : List Char}

/-! ## Parts of texts -/

theorem keysInReach_of_suffix (hsuffix : s <:+ text) (h : keysInReach text = true) :
    keysInReach s = true := by
  induction text with
  | nil => rwa [List.suffix_nil.1 hsuffix]
  | cons ch text ih =>
      rcases List.suffix_cons_iff.1 hsuffix with rfl | hsuffix
      · exact h
      · rw [keysInReach, Bool.and_eq_true] at h
        exact ih hsuffix h.2

theorem fitsYaml_of_suffix (hsuffix : s <:+ text) (h : fitsYaml text = true) :
    fitsYaml s = true := by
  rw [fitsYaml, Bool.and_eq_true, List.all_eq_true] at h ⊢
  exact ⟨fun ch hch => h.1 ch (hsuffix.subset hch), keysInReach_of_suffix hsuffix h.2⟩

theorem fitsYaml_cons {ch : Char} (h : fitsYaml (ch :: s) = true) : fitsYaml s = true :=
  fitsYaml_of_suffix (List.suffix_cons ch s) h

theorem fitsYaml_skipSpace (h : fitsYaml s = true) : fitsYaml (skipSpace s) = true :=
  fitsYaml_of_suffix (skipSpace_suffix List.suffix_rfl) h

theorem isCommonChar_of_mem {ch : Char} (h : fitsYaml s = true) (hch : ch ∈ s) :
    isCommonChar ch = true := by
  rw [fitsYaml, Bool.and_eq_true, List.all_eq_true] at h
  exact h.1 ch hch

theorem isCommonChar_spec {ch : Char} (h : isCommonChar ch = true) :
    Yaml.isPrintable ch = true ∧ ch ≠ '\t' ∧ (ch = '\n' ∨ Yaml.isBreak ch = false) := by
  simpa [isCommonChar, and_assoc] using h

/-- The gaps of a text consist of blanks and line feeds. -/
theorem isSpacing_takeWhile (h : fitsYaml s = true) : Yaml.IsSpacing (s.takeWhile isSpace) := by
  intro ch hch
  have hcommon := isCommonChar_of_mem h ((List.takeWhile_prefix _).subset hch)
  have hspace : isSpace ch = true := List.mem_takeWhile_imp hch
  simp only [isSpace, Bool.or_eq_true, beq_iff_eq] at hspace
  rcases hspace with ((rfl | rfl) | rfl) | rfl
  · exact .inl rfl
  · exact absurd hcommon (by decide)
  · exact .inr rfl
  · exact absurd hcommon (by decide)

theorem spacing_append_skipSpace (s : List Char) : s.takeWhile isSpace ++ skipSpace s = s :=
  List.takeWhile_append_dropWhile

/-! ## Literals -/

/-- A literal that JSON reads is one that YAML reads. -/
theorem literal_of_readCodes {codes : List Nat} (hfits : fitsYaml s = true)
    (h : readCodes s = .ok (codes, left)) :
    ∃ body, s = body ++ '"' :: left ∧ Yaml.Literal body codes := by
  fun_induction readCodes s generalizing codes left with
  | case1 | case3 | case5 | case6 | case7 | case9 => cases h
  | case2 rest =>
      cases h
      exact ⟨[], rfl, .nil⟩
  | case4 a b c d e rest n hdigits ih =>
      obtain ⟨found, hread, hfound⟩ := map_eq_ok_iff.1 h
      cases hfound
      have hfits' := fitsYaml_of_suffix (List.suffix_append ['\\', 'u', a, b, c, d] _) hfits
      obtain ⟨body, heq, hbody⟩ := ih hfits' hread
      exact ⟨'\\' :: 'u' :: a :: b :: c :: d :: body, by rw [heq]; rfl, .code hdigits hbody⟩
  | case8 c rest _ _ d hletter ih =>
      obtain ⟨found, hread, hfound⟩ := map_eq_ok_iff.1 h
      cases hfound
      obtain ⟨body, heq, hbody⟩ := ih (fitsYaml_cons (fitsYaml_cons hfits)) hread
      exact ⟨'\\' :: c :: body, by rw [heq]; rfl, .short hletter hbody⟩
  | case10 c rest hquote _ _ hlast hescape hcontrol ih =>
      obtain ⟨found, hread, hfound⟩ := map_eq_ok_iff.1 h
      cases hfound
      obtain ⟨body, heq, hbody⟩ := ih (fitsYaml_cons hfits) hread
      obtain ⟨-, htab, hbreak⟩ := isCommonChar_spec (isCommonChar_of_mem hfits List.mem_cons_self)
      have hfeed : c ≠ '\n' := by
        rintro rfl
        exact hcontrol (by decide)
      have hslash : c ≠ '\\' := by
        intro hc
        cases rest with
        | nil => exact hlast hc rfl
        | cons d rest => exact hescape d rest hc rfl
      exact ⟨c :: body, by rw [heq]; rfl, .char hquote hslash htab (hbreak.resolve_left hfeed) hbody⟩

theorem exists_codes_of_readString {name : List Char} (h : readString s = .ok (name, left)) :
    ∃ codes, readCodes s = .ok (codes, left) ∧ name = charsOfCodes codes := by
  unfold readString at h
  split at h
  · next codes rest heq =>
    cases h
    exact ⟨codes, heq, rfl⟩
  · cases h
  · cases h

/-- A name as JSON reads it and a key as YAML reads it are the same, up to characters from the
surrogates on. -/
def SameName (name key : List Char) : Prop :=
  ∀ wanted : List Char, (∀ ch ∈ wanted, ch.toNat < 0xD800) → (name = wanted ↔ key = wanted)

theorem sameName_codes (codes : List Nat) :
    SameName (charsOfCodes codes) (Yaml.textOfCodes codes) := by
  intro wanted hwanted
  fun_induction charsOfCodes codes generalizing wanted with
  | case1 high low rest hpair ih =>
      cases wanted with
      | nil => simp [Yaml.textOfCodes]
      | cons ch wanted =>
          have hch := hwanted ch List.mem_cons_self
          have hhigh : Text.isHighSurrogate high = true := (Bool.and_eq_true_iff.1 hpair).1
          simp only [Text.isHighSurrogate, Text.isLowSurrogate, Bool.and_eq_true,
            decide_eq_true_eq] at hpair
          have hvalid : (0x10000 + (high - 0xD800) * 0x400 + (low - 0xDC00)).isValidChar := by
            unfold Nat.isValidChar
            omega
          constructor
          · intro heq
            have hhead := congrArg Char.toNat (List.cons.inj heq).1
            rw [Text.toNat_ofNat_of_valid hvalid] at hhead
            omega
          · intro heq
            have hhead : Text.charOfCode high = ch := (List.cons.inj heq).1
            rw [← hhead, Text.toNat_charOfCode_of_high hhigh] at hch
            omega
  | case2 high low rest hpair ih =>
      cases wanted with
      | nil => simp [Yaml.textOfCodes]
      | cons ch wanted =>
          have hrest := ih wanted fun x hx => hwanted x (List.mem_cons_of_mem _ hx)
          rw [Yaml.textOfCodes, List.map_cons, List.cons.injEq, List.cons.injEq, hrest]
          rfl
  | case3 n => rfl
  | case4 => rfl

/-- A name that JSON reads before a colon is a key of YAML. -/
theorem keyText_of_read {name rest after : List Char} (hfits : fitsYaml ('"' :: s) = true)
    (hread : readString s = .ok (name, rest)) (hcolon : skipSpace rest = ':' :: after) :
    ∃ key named, Yaml.KeyText key named ∧ '"' :: s = named ++ after ∧ SameName name key := by
  obtain ⟨codes, hcodes, rfl⟩ := exists_codes_of_readString hread
  obtain ⟨body, heq, hbody⟩ := literal_of_readCodes (fitsYaml_cons hfits) hcodes
  have hreach : colonInReach s = true := by
    rw [fitsYaml, Bool.and_eq_true, keysInReach, Bool.and_eq_true] at hfits
    simpa using hfits.2.1
  have hrest : rest = rest.takeWhile isSpace ++ ':' :: after := by
    rw [← hcolon, spacing_append_skipSpace]
  have hfits' : fitsYaml rest = true := by
    apply fitsYaml_of_suffix _ (fitsYaml_cons hfits)
    rw [heq]
    exact (List.suffix_cons '"' rest).trans (List.suffix_append body _)
  unfold colonInReach at hreach
  rw [hread] at hreach
  dsimp only at hreach
  rw [hcolon] at hreach
  simp only [Bool.and_eq_true, Bool.not_eq_true', decide_eq_true_eq] at hreach
  have hlength : s.length = body.length + ((rest.takeWhile isSpace).length + 2 + after.length) := by
    have hrestLength := congrArg List.length hrest
    rw [List.length_append, List.length_cons] at hrestLength
    rw [heq, List.length_append, List.length_cons]
    omega
  have hblanks : ∀ ch ∈ rest.takeWhile isSpace, ch = ' ' := by
    intro ch hch
    refine (isSpacing_takeWhile hfits' ch hch).resolve_right ?_
    rintro rfl
    simp [hch] at hreach
  refine ⟨Yaml.textOfCodes codes, _, .mk hbody hblanks (by omega), ?_, sameName_codes codes⟩
  rw [heq]
  simp only [List.cons_append, List.append_assoc, List.nil_append]
  rw [← hrest]

/-! ## Values -/

/-- A value has the same keys as a flow node, of the keys without characters from the surrogates
on. -/
def SameKeys (v : Value) (f : Yaml.Flow) : Prop :=
  ∀ key : String, (∀ ch ∈ key.toList, ch.toNat < 0xD800) →
    ((v.get? key).isSome = true ↔ key.toList ∈ f.keys)

theorem sameKeys_of_none {v : Value} {f : Yaml.Flow} (hv : ∀ key, v.get? key = none)
    (hf : f.keys = []) : SameKeys v f := by
  intro key _
  simp [hv, hf]

theorem eq_append_of_afterWord? {word : String} (h : afterWord? word s = some left) :
    s = word.toList ++ left := by
  unfold afterWord? at h
  split_ifs at h with hprefix
  cases h
  obtain ⟨rest, rfl⟩ := List.isPrefixOf_iff_prefix.1 hprefix
  rw [← String.length_toList, List.drop_left]

theorem get?_of_readNumber {v : Value} (h : readNumber s = .ok (v, left)) (key : String) :
    v.get? key = none := by
  unfold readNumber at h
  split at h
  split at h
  · cases h
  · dsimp only at h
    split at h
    · split at h
      · cases h
      · cases h
        rfl
    · cases h
      rfl

/-- A scalar that JSON reads is one that YAML reads. -/
theorem flowText_of_readScalar {v : Value} (hfits : fitsYaml s = true)
    (h : readScalar s = .ok (v, left)) : ∃ f, Yaml.FlowText f s left ∧ SameKeys v f := by
  unfold readScalar at h
  split at h
  · next rest =>
    obtain ⟨⟨name, rest'⟩, hread, hfound⟩ := map_eq_ok_iff.1 h
    cases hfound
    obtain ⟨codes, hcodes, -⟩ := exists_codes_of_readString hread
    obtain ⟨body, rfl, hbody⟩ := literal_of_readCodes (fitsYaml_cons hfits) hcodes
    exact ⟨_, .literal hbody, sameKeys_of_none (fun _ => rfl) rfl⟩
  · split at h
    · next found hword =>
      cases h
      obtain ⟨⟨name, w⟩, hmem, hname⟩ := List.exists_of_findSome?_eq_some hword
      obtain ⟨rest, hrest, heq⟩ := Option.map_eq_some_iff.1 hname
      cases heq
      obtain ⟨word, htext⟩ := exists_plainWord_of_word hmem
      rw [eq_append_of_afterWord? hrest, ← htext]
      have hnone : ∀ key, ∀ entry ∈ words, entry.2.get? key = none := by
        simp [words, Value.get?]
      exact ⟨_, .plain word left, sameKeys_of_none (fun key => hnone key _ hmem) rfl⟩
    · obtain ⟨text, rfl, htext⟩ := numberText_of_readNumber h
      obtain ⟨word, rfl⟩ := htext.exists_plainWord
      exact ⟨_, .plain word left, sameKeys_of_none (get?_of_readNumber h) rfl⟩

/-- The members of an object and the entries of a mapping, one after the other. -/
def SameMembers (members : List (Value × Value)) (entries : List (List Char × Yaml.Flow)) : Prop :=
  List.Forall₂ (fun member entry => ∃ name, member.1 = .text (String.ofList name) ∧
    SameName name entry.1) members entries

theorem text_eq_iff (key : String) (name : List Char) :
    Value.text key = .text (String.ofList name) ↔ name = key.toList := by
  rw [Value.text.injEq]
  constructor
  · rintro rfl
    exact String.toList_ofList.symm
  · rintro rfl
    exact String.ofList_toList.symm

theorem SameMembers.sameKeys {members : List (Value × Value)}
    {entries : List (List Char × Yaml.Flow)} (h : SameMembers members entries) :
    SameKeys (.recordOf members) (.mapping entries) := by
  intro key hkey
  rw [Value.isSome_get?_recordOf, Yaml.Flow.keys]
  induction h with
  | nil => simp
  | @cons member entry members entries hhere hmore ih =>
      obtain ⟨name, hname, hsame⟩ := hhere
      have hhead : Value.text key = member.1 ↔ key.toList = entry.1 := by
        rw [hname, text_eq_iff, hsame key.toList hkey, eq_comm]
      rw [List.map_cons, List.mem_cons, List.map_cons, List.mem_cons, hhead, ih]

/-- What the readers of values, items and members read is flow text, wherever they stand. -/
structure ReadersFlow (fuel : Nat) : Prop where
  value : ∀ s v left, fitsYaml s = true → readValue fuel s = .ok (v, left) →
    ∃ f, Yaml.FlowText f s left ∧ SameKeys v f
  items : ∀ s items left, fitsYaml s = true → readItems fuel s = .ok (items, left) →
    ∃ fs, ∀ first before, Yaml.Separates first before →
      Yaml.ItemsText first fs (before ++ s) left
  members : ∀ s members left, fitsYaml s = true → readMembers fuel s = .ok (members, left) →
    ∃ entries, SameMembers members entries ∧ ∀ first before, Yaml.Separates first before →
      Yaml.EntriesText first entries (before ++ s) left

variable {fuel : Nat}

theorem fitsYaml_of_readValue {v : Value} (hfits : fitsYaml s = true)
    (h : readValue fuel s = .ok (v, left)) : fitsYaml left = true := by
  have hwithin := (readersWithin s fuel).value s List.suffix_rfl
  rw [h] at hwithin
  exact fitsYaml_of_suffix hwithin hfits

theorem ReadersFlow.succ_value (ih : ReadersFlow fuel) {v : Value} (hfits : fitsYaml s = true)
    (h : readValue (fuel + 1) s = .ok (v, left)) : ∃ f, Yaml.FlowText f s left ∧ SameKeys v f := by
  unfold readValue at h
  split at h
  · next heq => cases heq
  · next n rest hfuel =>
    cases hfuel
    have hrest := fitsYaml_cons hfits
    have hgap := isSpacing_takeWhile hrest
    rw [← spacing_append_skipSpace rest]
    split at h
    · next close heq =>
      cases h
      rw [heq]
      exact ⟨_, .sequence (.done hgap), sameKeys_of_none (fun _ => rfl) rfl⟩
    · obtain ⟨found, hread, hfound⟩ := map_eq_ok_iff.1 h
      cases hfound
      obtain ⟨fs, hfs⟩ := ih.items _ _ _ (fitsYaml_skipSpace hrest) hread
      exact ⟨_, .sequence (hfs true _ (.first hgap)), sameKeys_of_none (fun _ => rfl) rfl⟩
  · next n rest hfuel =>
    cases hfuel
    have hrest := fitsYaml_cons hfits
    have hgap := isSpacing_takeWhile hrest
    rw [← spacing_append_skipSpace rest]
    split at h
    · next close heq =>
      cases h
      rw [heq]
      exact ⟨_, .mapping (.done hgap), sameKeys_of_none (fun _ => rfl) rfl⟩
    · obtain ⟨found, hread, hfound⟩ := map_eq_ok_iff.1 h
      cases hfound
      obtain ⟨entries, hsame, hentries⟩ := ih.members _ _ _ (fitsYaml_skipSpace hrest) hread
      exact ⟨_, .mapping (hentries true _ (.first hgap)), hsame.sameKeys⟩
  · exact flowText_of_readScalar hfits h

theorem ReadersFlow.succ_items (ih : ReadersFlow fuel) {items : List Value}
    (hfits : fitsYaml s = true) (h : readItems (fuel + 1) s = .ok (items, left)) :
    ∃ fs, ∀ first before, Yaml.Separates first before →
      Yaml.ItemsText first fs (before ++ s) left := by
  rw [readItems] at h
  split at h
  · cases h
  · next item rest hitem =>
    obtain ⟨f, hf, -⟩ := ih.value s item rest hfits hitem
    have hrest := fitsYaml_of_readValue hfits hitem
    have hgap := isSpacing_takeWhile hrest
    have hsplit := spacing_append_skipSpace rest
    split at h
    · next close heq =>
      cases h
      rw [heq] at hsplit
      rw [← hsplit] at hf
      exact ⟨[f], fun first before hbefore => .item hbefore hf (.done hgap)⟩
    · next more heq =>
      obtain ⟨found, hread, hfound⟩ := map_eq_ok_iff.1 h
      cases hfound
      have hmore : fitsYaml more = true := fitsYaml_cons (heq ▸ fitsYaml_skipSpace hrest)
      obtain ⟨fs, hfs⟩ := ih.items _ _ _ (fitsYaml_skipSpace hmore) hread
      have hlater := hfs false _ (.later hgap (isSpacing_takeWhile hmore))
      rw [List.append_assoc, List.cons_append, spacing_append_skipSpace, ← heq, hsplit] at hlater
      exact ⟨f :: fs, fun first before hbefore => .item hbefore hf hlater⟩
    · cases h

theorem ReadersFlow.succ_members (ih : ReadersFlow fuel) {members : List (Value × Value)}
    (hfits : fitsYaml s = true) (h : readMembers (fuel + 1) s = .ok (members, left)) :
    ∃ entries, SameMembers members entries ∧ ∀ first before, Yaml.Separates first before →
      Yaml.EntriesText first entries (before ++ s) left := by
  unfold readMembers at h
  split at h
  · next heq => cases heq
  · next n rest hfuel =>
    cases hfuel
    split at h
    · cases h
    · next name afterName hname =>
      split at h
      · next afterColon hcolon =>
        split at h
        · cases h
        · next value afterValue hvalue =>
          obtain ⟨key, named, hkey, hnamed, hsame⟩ := keyText_of_read hfits hname hcolon
          have hcolonFits : fitsYaml afterColon = true := by
            rw [hnamed] at hfits
            exact fitsYaml_of_suffix (List.suffix_append named afterColon) hfits
          have hvalueFits := fitsYaml_skipSpace hcolonFits
          obtain ⟨f, hf, -⟩ := ih.value _ value afterValue hvalueFits hvalue
          have hafter := fitsYaml_of_readValue hvalueFits hvalue
          have hgap := isSpacing_takeWhile hafter
          have hsplit := spacing_append_skipSpace afterValue
          have hbefore := isSpacing_takeWhile hcolonFits
          rw [hnamed, ← spacing_append_skipSpace afterColon]
          dsimp only at h
          split at h
          · next close heq =>
            cases h
            rw [heq] at hsplit
            rw [← hsplit] at hf
            exact ⟨[(key, f)], .cons ⟨name, rfl, hsame⟩ .nil,
              fun first before hfirst => .entry hfirst hkey hbefore hf (.done hgap)⟩
          · next more heq =>
            obtain ⟨found, hread, hfound⟩ := map_eq_ok_iff.1 h
            cases hfound
            have hmore : fitsYaml more = true := fitsYaml_cons (heq ▸ fitsYaml_skipSpace hafter)
            obtain ⟨entries, hentries, htext⟩ := ih.members _ _ _ (fitsYaml_skipSpace hmore) hread
            have hlater := htext false _ (.later hgap (isSpacing_takeWhile hmore))
            rw [List.append_assoc, List.cons_append, spacing_append_skipSpace, ← heq, hsplit] at hlater
            exact ⟨(key, f) :: entries, .cons ⟨name, rfl, hsame⟩ hentries,
              fun first before hfirst => .entry hfirst hkey hbefore hf hlater⟩
          · cases h
      · cases h
  · cases h

theorem readersFlow (fuel : Nat) : ReadersFlow fuel := by
  induction fuel with
  | zero =>
      refine ⟨fun s v left hfits h => ?_, fun s items left hfits h => ?_,
        fun s members left hfits h => ?_⟩
      · rw [readValue] at h
        cases h
      · rw [readItems] at h
        cases h
      · rw [readMembers] at h
        cases h
  | succ fuel ih =>
      exact ⟨fun _ _ _ => ih.succ_value, fun _ _ _ => ih.succ_items, fun _ _ _ => ih.succ_members⟩

/-- A JSON text that avoids what only JSON allows is read by YAML too, with the same keys. -/
theorem read_yaml_of_read {text : String} {v : Value} (hfits : fitsYaml text.toList = true)
    (h : read text = .ok v) :
    ∃ w, Yaml.read text = .ok w ∧ ∀ key : String, (∀ ch ∈ key.toList, ch.toNat < 0xD800) →
      ((w.get? key).isSome = true ↔ (v.get? key).isSome = true) := by
  unfold read readText at h
  split at h
  · cases h
  · split at h
    · cases h
    · next value left hvalue =>
      have hgap := isSpacing_takeWhile hfits
      have hskip := fitsYaml_skipSpace hfits
      obtain ⟨f, hf, hsame⟩ := (readersFlow _).value _ value left hskip hvalue
      have hleft := fitsYaml_of_readValue hskip hvalue
      split at h
      · next heq =>
        cases h
        have hend : Yaml.IsSpacing left := by
          have hspacing := isSpacing_takeWhile hleft
          rwa [← spacing_append_skipSpace left, heq, List.append_nil]
        have hprintable : (text.toList.takeWhile isSpace ++ skipSpace text.toList).all
            Yaml.isPrintable = true := by
          rw [spacing_append_skipSpace, List.all_eq_true]
          exact fun ch hch => (isCommonChar_spec (isCommonChar_of_mem hfits hch)).1
        have hread := Yaml.read_flowText hf hgap hend hprintable
        rw [spacing_append_skipSpace, String.ofList_toList] at hread
        exact ⟨f.value, hread, fun key hkey => (f.isSome_get?_value key).trans (hsame key hkey).symm⟩
      · cases h

end ApiShapes.Json
