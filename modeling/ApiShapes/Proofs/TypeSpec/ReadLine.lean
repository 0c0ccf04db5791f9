import ApiShapes.Proofs.TypeSpec.Legible
import Mathlib.Tactic

/-!
# What arbitrary lines declare

Whatever a line holds, the texts that are read from it are legible again, with one exception: a
model name that ends like the word that introduces the bases.  Names may be empty and types may end
in further semicolons, so the conditions are those of legible parts and not those one would write
by hand.
-/

namespace ApiShapes.TypeSpec

open Text

/-- A name that would be joined to the blank behind it as the word that introduces bases. -/
def EndsInExtends (name : String) : Prop :=
  " extends".toList <:+ name.toList

instance (name : String) : Decidable (EndsInExtends name) :=
  inferInstanceAs (Decidable (_ <:+ _))

structure Property.Reread (p : Property) : Prop where
  legible : p.Legible
  kept : p.kept = p

structure Model.Reread (m : Model) : Prop where
  legible : ¬ EndsInExtends m.name → m.Legible
  kept : m.kept = m

/-- What a statement declares is rendered and read as it is. -/
def Meaning.Reread : Meaning → Prop
  | .importPath path => ∀ q ∈ path, LegibleImport q
  | .service title version => (∀ t ∈ title, t ≠ "") ∧ ∀ v ∈ version, v ≠ ""
  | .namespaceHeader name => ∀ n ∈ name, LegibleName n
  | .modelHeader model => ∀ m ∈ model, m.Reread
  | .property p => p.Reread
  | .closing => True
  | .other => True

/-! ## Imports -/

theorem mem_importPath? {line path : List Char} (h : importPath? line = some path) :
    path ≠ [] ∧ path ⊆ line := by
  unfold importPath? at h
  simp only [Option.bind_eq_bind, Option.bind_eq_some_iff, Prod.exists] at h
  obtain ⟨before, after, hcut, found, hlast, hsome⟩ := h
  split at hsome
  · simp at hsome
  · next hne =>
    obtain rfl : found = path := by simpa using hsome
    refine ⟨by simpa using hne, fun c hc => ?_⟩
    have hafter : c ∈ after :=
      (isPrefix_of_beforeLast? hlast).subset (List.mem_append_left _ hc)
    rw [eq_append_of_cut? hcut]
    simp [hafter]

/-! ## Headers -/

/-- The text of a header holds no brace; it is a single blank or starts with a visible
character. -/
theorem headerName?_shape {s header : List Char} (h : headerName? s = some header) :
    header ⊆ s ∧ '\x7b' ∉ header ∧
      ∃ c rest, header = c :: rest ∧ (isBlank c = true → rest = []) := by
  simp only [headerName?] at h
  split at h
  · simp at h
  · split at h
    · split at h
      · obtain ⟨b, hb, rfl⟩ := Option.map_eq_some_iff.1 h
        have hmem : b ∈ s.takeWhile isBlank := List.mem_of_getLast? hb
        have hblank : isBlank b = true := List.mem_takeWhile_imp hmem
        refine ⟨?_, ?_, b, [], rfl, fun _ => rfl⟩
        · intro c hc
          obtain rfl : c = b := by simpa using hc
          exact (List.takeWhile_prefix _).subset hmem
        · intro hc
          obtain rfl : '\x7b' = b := by simpa using hc
          simp [isBlank] at hblank
      · simp at h
    · next hne =>
      obtain rfl := Option.some.inj h
      have hsubset : (s.dropWhile isBlank).takeWhile (· != '\x7b') ⊆ s.dropWhile isBlank :=
        (List.takeWhile_prefix _).subset
      refine ⟨fun c hc => (List.dropWhile_suffix _).subset (hsubset hc), ?_, ?_⟩
      · intro hc
        have hbrace := List.mem_takeWhile_imp hc
        simp at hbrace
      · cases hdrop : s.dropWhile isBlank with
        | nil => simp [hdrop] at hne
        | cons c rest =>
            have hc : isBlank c = false := head?_trimStart (s := s) (by rw [trimStart, hdrop]; rfl)
            rw [hdrop, List.takeWhile_cons] at hne
            split at hne
            · next hd => exact ⟨c, _, List.takeWhile_cons_of_pos hd, by simp [hc]⟩
            · simp at hne

theorem findHeader_eq_some {keyword line header : List Char}
    (h : findHeader keyword line = some header) :
    ∃ s, s <:+ line ∧ headerName? s = some header := by
  induction line with
  | nil => simp [findHeader] at h
  | cons c rest ih =>
      rw [findHeader] at h
      split at h
      · next name hname =>
        obtain rfl := Option.some.inj h
        obtain ⟨s, hs, hheader⟩ := Option.bind_eq_some_iff.1 hname
        exact ⟨s, ⟨keyword, (eq_append_of_afterPrefix? hs).symm⟩, hheader⟩
      · obtain ⟨s, hs, hheader⟩ := ih h
        exact ⟨s, hs.trans (List.suffix_cons c rest), hheader⟩

theorem findHeader_shape {keyword line header : List Char}
    (h : findHeader keyword line = some header) :
    header ⊆ line ∧ '\x7b' ∉ header ∧
      ∃ c rest, header = c :: rest ∧ (isBlank c = true → rest = []) := by
  obtain ⟨s, hs, hheader⟩ := findHeader_eq_some h
  obtain ⟨hsubset, hbrace, hhead⟩ := headerName?_shape hheader
  exact ⟨fun c hc => hs.subset (hsubset hc), hbrace, hhead⟩

theorem legibleName_trim {s header : List Char} (hone : OneLine s) (h : header ⊆ s)
    (hbrace : '\x7b' ∉ header) : LegibleName (String.ofList (trim header)) := by
  constructor
  · simp
  · rw [String.toList_ofList]
    exact fun hc => hbrace (mem_of_mem_trim hc)
  · rw [String.toList_ofList]
    exact (hone.of_subset h).trim

/-! ## Models -/

/-- Behind the name of a header the word for the bases can only be completed by the blank. -/
theorem not_extends_of_name {name : List Char} (hwithin : ¬ extendsKey <:+: name)
    (hend : ¬ " extends".toList <:+ name) : ¬ extendsKey <:+: name ++ [' '] := by
  rintro ⟨pre, post, heq⟩
  rcases List.eq_nil_or_concat post with rfl | ⟨post, d, rfl⟩
  · have hsplit : pre ++ " extends".toList ++ [' '] = name ++ [' '] := by
      rw [← heq]
      simp [extendsKey]
    exact hend ⟨pre, List.append_cancel_right hsplit⟩
  · have hsplit : pre ++ extendsKey ++ post ++ [d] = name ++ [' '] := by
      rw [← heq]
      simp
    exact hwithin ⟨pre, post, (List.append_inj' hsplit rfl).1⟩

/-- Where a header is cut before its bases, something visible stands before. -/
theorem trim_ne_nil_of_cut? {header name bases : List Char}
    (hhead : ∃ c rest, header = c :: rest ∧ (isBlank c = true → rest = []))
    (hcut : cut? extendsKey header = some (name, bases)) : trim name ≠ [] := by
  obtain ⟨c, rest, rfl, hblank⟩ := hhead
  have hheader := eq_append_of_cut? hcut
  have hkey : extendsKey = ' ' :: "extends ".toList := rfl
  rw [Ne, trim_eq_nil_iff]
  intro hall
  cases name with
  | nil =>
      rw [List.nil_append, hkey, List.cons_append] at hheader
      obtain ⟨rfl, hrest⟩ := List.cons.inj hheader
      simp [hblank (by decide)] at hrest
  | cons d name =>
      obtain ⟨rfl, hrest⟩ := List.cons.inj hheader
      simp [hblank (hall c (by simp)), hkey] at hrest

/-- The name of a model and the text of its bases are cut from its header. -/
theorem exists_openModel {header : List Char}
    (hhead : ∃ c rest, header = c :: rest ∧ (isBlank c = true → rest = [])) :
    ∃ name bases, openModel header = ⟨String.ofList (trim name), [],
        (visible (bases.splitOn ',')).map String.ofList, none, []⟩ ∧
      name ⊆ header ∧ bases ⊆ header ∧ ¬ extendsKey <:+: name ∧
        (bases ≠ [] → trim name ≠ []) := by
  have hopen : ∀ name bases,
      (cut? extendsKey header).getD (header, []) = (name, bases) →
        openModel header = ⟨String.ofList (trim name), [],
          (visible (bases.splitOn ',')).map String.ofList, none, []⟩ := by
    intro name bases hcut
    have hkey : " extends ".toList = extendsKey := rfl
    rw [openModel, hkey, hcut]
    simp only [splitAt_eq_splitOn]
    rfl
  cases hcut : cut? extendsKey header with
  | none =>
      exact ⟨header, [], hopen _ _ (by rw [hcut]; rfl), fun c hc => hc, by simp,
        cut?_eq_none_iff.1 hcut, by simp⟩
  | some found =>
      obtain ⟨name, bases⟩ := found
      have hheader := eq_append_of_cut? hcut
      refine ⟨name, bases, hopen _ _ (by rw [hcut]; rfl), ?_, ?_,
        not_infix_of_cut? (by simp [extendsKey]) hcut, fun _ => trim_ne_nil_of_cut? hhead hcut⟩
      · rw [hheader]
        simp
      · rw [hheader]
        exact fun c hc => by simp [hc]

/-- Name and bases are legible whatever the name ends in. -/
theorem openModel_named {s header : List Char} (hone : OneLine s) (hsubset : header ⊆ s)
    (hbrace : '\x7b' ∉ header)
    (hhead : ∃ c rest, header = c :: rest ∧ (isBlank c = true → rest = [])) :
    LegibleName (openModel header).name ∧ ∀ b ∈ (openModel header).bases, LegibleBase b := by
  obtain ⟨name, bases, hmodel, hname, hbases, -, -⟩ := exists_openModel hhead
  rw [hmodel]
  refine ⟨legibleName_trim hone (fun c hc => hsubset (hname hc)) fun hc => hbrace (hname hc), ?_⟩
  intro b hb
  obtain ⟨base, hbase, rfl⟩ := List.mem_map.1 hb
  rw [visible, List.mem_filter, List.mem_map] at hbase
  obtain ⟨⟨piece, hpiece, rfl⟩, hne⟩ := hbase
  rw [List.splitOn_eq_splitOnP] at hpiece
  obtain ⟨hpieceSubset, hcomma⟩ := mem_splitOnP hpiece
  have hpieceHeader : piece ⊆ header := fun c hc => hbases (hpieceSubset hc)
  refine
    { legibleName_trim hone (fun c hc => hsubset (hpieceHeader hc))
        fun hc => hbrace (hpieceHeader hc) with
      filled := ?_
      noComma := ?_ }
  · simpa using hne
  · rw [String.toList_ofList]
    intro hc
    simpa using hcomma ',' (mem_of_mem_trim hc)

theorem openModel_reread {s header : List Char} (hone : OneLine s) (hsubset : header ⊆ s)
    (hbrace : '\x7b' ∉ header)
    (hhead : ∃ c rest, header = c :: rest ∧ (isBlank c = true → rest = [])) :
    (openModel header).Reread := by
  obtain ⟨hname, hbases⟩ := openModel_named hone hsubset hbrace hhead
  obtain ⟨name, bases, hmodel, -, -, hwithin, hnamed⟩ := exists_openModel hhead
  rw [hmodel] at hname hbases ⊢
  refine ⟨fun hend => ?_, rfl⟩
  refine
    { name := hname
      name_extends := ?_
      bases := hbases
      named := ?_
      properties := by simp
      comment := by simp [LegibleComment]
      decorators := by simp }
  · rw [String.toList_ofList]
    refine not_extends_of_name (fun h => hwithin (h.trans (trim_isInfix name))) ?_
    simpa [EndsInExtends] using hend
  · intro hne hempty
    have hfilled : bases ≠ [] := by
      rintro rfl
      simp [visible] at hne
    exact hnamed hfilled (by simpa using hempty)

/-! ## Properties -/

/-- Only one semicolon is dropped, and what is left is trimmed. -/
theorem dropSemicolon_of_trim {s : List Char} (h : trim s = s) :
    trim (dropSemicolon s) = dropSemicolon s ∧ dropSemicolon s ⊆ s := by
  rw [dropSemicolon]
  split
  · next before hbefore =>
    have hs : s = before ++ [';'] := beforeSuffix?_eq_some_iff.1 hbefore
    have hstart : trimStart before = before := by
      refine trimStart_eq_self_of_head fun c hc => ((trim_eq_self_iff s).1 h).1 c ?_
      rw [hs, List.head?_append, hc]
      rfl
    refine ⟨trim_trimEnd_of_trimStart hstart, fun c hc => ?_⟩
    rw [hs]
    exact List.mem_append_left _ (mem_of_mem_trimEnd hc)
  · exact ⟨h, fun c hc => hc⟩

/-- The name and the mark of a property are the trimmed text before the first colon. -/
theorem label_readProperty {line before after : List Char}
    (hcut : cut? [':'] line = some (before, after)) :
    (readProperty line).label = trim before ∧
      ((readProperty line).optional = false → (trim before).getLast? ≠ some '?') ∧
      (readProperty line).type.toList = dropSemicolon (trim after) := by
  rw [readProperty, hcut]
  simp only [Option.getD_some, Property.label, String.toList_ofList, beq_eq_false_iff_ne,
    beq_iff_eq, ne_eq, imp_self, and_self, and_true]
  split
  · next hlast =>
    obtain ⟨front, hfront⟩ := List.getLast?_eq_some_iff.1 hlast
    rw [hfront, List.dropLast_concat]
  · rw [List.append_nil]

theorem readProperty_reread {line : List Char} (htrim : trim line = line) (hone : OneLine line)
    (hcolon : ':' ∈ line) (hstart : ∀ start ∈ claimedStarts, ¬ start <+: line) :
    (readProperty line).Reread := by
  obtain ⟨⟨before, after⟩, hcut⟩ : ∃ found, cut? [':'] line = some found := by
    rw [← Option.ne_none_iff_exists', Ne, cut?_singleton_eq_none_iff]
    exact fun h => h hcolon
  have hline := eq_append_of_cut? hcut
  have hbefore : ':' ∉ before := by
    rw [← List.singleton_infix_iff]
    exact not_infix_of_cut? (by simp) hcut
  obtain ⟨hlabel, hmark, htype⟩ := label_readProperty hcut
  have hafter : after ⊆ line := by
    rw [hline]
    exact fun c hc => by simp [hc]
  obtain ⟨htypeTrim, htypeSubset⟩ := dropSemicolon_of_trim (trim_trim after)
  have hstarts : trim before <+: line := by
    have hstartTrim : trimStart before = before := by
      refine trimStart_eq_self_of_head fun c hc => ((trim_eq_self_iff line).1 htrim).1 c ?_
      rw [hline, List.head?_append, hc]
      rfl
    have hend : trim before <+: before := by
      rw [trim, hstartTrim]
      exact trimEnd_isPrefix before
    exact hend.trans ⟨_, hline.symm⟩
  refine ⟨?_, rfl⟩
  refine
    { label_trim := ?_
      label_colon := ?_
      label_oneLine := ?_
      label_unclaimed := ?_
      mark := ?_
      type_trim := ?_
      type_oneLine := ?_
      comment := by simp [LegibleComment, readProperty] }
  · rw [hlabel, trim_trim]
  · rw [hlabel]
    exact fun hc => hbefore (mem_of_mem_trim hc)
  · rw [hlabel]
    exact hone.of_subset hstarts.subset
  · rw [hlabel]
    exact fun start hmem h => hstart start hmem (h.trans hstarts)
  · rw [hlabel]
    exact hmark
  · rw [htype, htypeTrim]
  · rw [htype]
    exact hone.of_subset fun c hc => hafter (mem_of_mem_trim (htypeSubset hc))

/-! ## Statements -/

theorem meaningOf_reread {line : List Char} (htrim : trim line = line) (hone : OneLine line)
    (hservice : isServiceStart line = false) : (meaningOf line).Reread := by
  rw [meaningOf]
  split_ifs with himport hnamespace hmodel hproperty hclosing
  · intro q hq
    obtain ⟨path, hpath, rfl⟩ := Option.map_eq_some_iff.1 hq
    obtain ⟨hne, hsubset⟩ := mem_importPath? hpath
    exact ⟨by simpa using hne, by simpa using hone.of_subset hsubset⟩
  · intro n hn
    obtain ⟨header, hheader, rfl⟩ := Option.map_eq_some_iff.1 hn
    obtain ⟨hsubset, hbrace, -⟩ := findHeader_shape hheader
    exact legibleName_trim hone hsubset hbrace
  · intro m hm
    obtain ⟨header, hheader, rfl⟩ := Option.map_eq_some_iff.1 hm
    obtain ⟨hsubset, hbrace, hhead⟩ := findHeader_shape hheader
    exact openModel_reread hone hsubset hbrace hhead
  · simp only [Bool.and_eq_true, List.contains_iff_mem, Bool.not_eq_true', isComment,
      Bool.or_eq_false_iff] at hproperty
    refine readProperty_reread htrim hone hproperty.1 fun start hstart => ?_
    rw [← startsWith_eq_false_iff]
    simp only [claimedStarts, List.mem_cons, List.not_mem_nil, or_false] at hstart
    rcases hstart with rfl | rfl | rfl | rfl | rfl | rfl
    · simpa using himport
    · simpa using hnamespace
    · simpa using hmodel
    · exact hservice
    · exact hproperty.2.1
    · exact hproperty.2.2
  · trivial
  · trivial

theorem serviceStatement_reread (content : List Char) :
    (serviceStatement content).meaning.Reread := by
  have hentry : ∀ key t, serviceEntry key content = some t → t ≠ "" := by
    intro key t ht
    simp only [serviceEntry, Option.bind_eq_bind, Option.bind_eq_some_iff] at ht
    obtain ⟨found, -, ht⟩ := ht
    split at ht
    · simp at ht
    · next hne =>
      obtain rfl := Option.some.inj ht
      simpa using hne
  exact ⟨hentry "title:", hentry "version:"⟩

section

variable {P : Meaning → Prop} (hservice : ∀ content, P (serviceStatement content).meaning)
  {ls : List (List Char)} (hline : ∀ l ∈ ls, isServiceStart l = false → P (meaningOf l))

include hservice hline

/-- Within a service block the lines are read the same way behind its end. -/
theorem statements_and_serviceFrom_forall : (∀ s ∈ statements ls, P s.meaning) ∧
    ∀ content depth, ∀ s ∈ serviceFrom content depth ls, P s.meaning := by
  induction ls with
  | nil =>
      constructor
      · simp [statements]
      · intro content depth
        simpa [serviceFrom] using hservice content
  | cons line rest ih =>
      obtain ⟨hrest, hfrom⟩ := ih fun l hl => hline l (List.mem_cons_of_mem _ hl)
      constructor
      · rw [statements]
        split
        · dsimp only
          split
          · exact List.forall_mem_cons.2 ⟨hservice line, hrest⟩
          · exact hfrom _ _
        · next hstart =>
          have hmeaning := hline line List.mem_cons_self (by simpa using hstart)
          exact List.forall_mem_cons.2 ⟨hmeaning, hrest⟩
      · intro content depth
        rw [serviceFrom]
        split
        · exact List.forall_mem_cons.2 ⟨hservice _, hrest⟩
        · exact hfrom _ _

/-- What holds of service blocks and of what single lines declare holds of all statements. -/
theorem statements_forall : ∀ s ∈ statements ls, P s.meaning :=
  (statements_and_serviceFrom_forall hservice hline).1

end

/-- Every statement of a source declares what can be rendered and read again. -/
theorem statements_reread {ls : List (List Char)} (h : ∀ l ∈ ls, trim l = l ∧ OneLine l) :
    ∀ s ∈ statements ls, s.meaning.Reread :=
  statements_forall serviceStatement_reread fun l hl hstart =>
    meaningOf_reread (h l hl).1 (h l hl).2 hstart

end ApiShapes.TypeSpec
