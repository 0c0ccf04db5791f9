import ApiShapes.Proofs.TypeSpec.Literals
import ApiShapes.Proofs.TypeSpec.ShownLines
import Mathlib.Tactic

/-!
# The service block of a source

A service block is rendered as an opening line, one line for the title, perhaps one for the version,
and a closing line.  It is read up to the line that closes its parentheses, and those in the title
and the version count.  So it ends within its own lines only under a condition on these counts; then
the title is read back, and so is the version unless the block ends before it or the title ends like
its key.
-/

namespace ApiShapes.TypeSpec

open Json Text

/-! ## The lines of a block -/

/-- A text whose literal stays on its line and leaves the depth of parentheses as it is. -/
@[mk_iff]
structure FitsService (s : String) : Prop where
  balanced : s.toList.count '(' = s.toList.count ')'
  oneLine : ∀ c ∈ s.toList, c ∉ literalBoundaries

instance (s : String) : Decidable (FitsService s) :=
  decidable_of_iff' _ (fitsService_iff s)

/-- The entries of a service block: a title and perhaps a version. -/
def serviceEntries (title : List Char) (version : Option (List Char)) : List (List Char) :=
  ("title: ".toList ++ quote title ++ [',']) ::
    (version.map fun v => "version: ".toList ++ quote v).toList

def serviceBlock (title : List Char) (version : Option (List Char)) : List (List Char) :=
  "@service(\x7b".toList :: (serviceEntries title version ++ ["\x7d)".toList])

theorem trimmedLines_entry (key : String) {c : Char} {more : List Char}
    (hkey : key.toList = c :: more) (hc : isBlank c = false) (hmore : OneLine more) {s : String}
    (hs : ∀ d ∈ s.toList, d ∉ literalBoundaries) (tail : List Char)
    (htail : ∀ d ∈ tail, isBlank d = false) :
    trimmedLines (key.toList ++ quote s.toList ++ tail) =
      [key.toList ++ quote s.toList ++ tail] := by
  have hquote := oneLine_quote hs
  obtain ⟨mid, d, hend, hd, hmid⟩ : ∃ mid d, quote s.toList ++ tail = mid ++ [d] ∧
      isBlank d = false ∧ OneLine mid := by
    rcases List.eq_nil_or_concat tail with rfl | ⟨front, d, rfl⟩
    · refine ⟨'"' :: escape s.toList, '"', by simp [quote], by decide, ?_⟩
      exact hquote.of_subset (by simp [quote])
    · refine ⟨quote s.toList ++ front, d, by simp, htail d (by simp), hquote.append ?_⟩
      exact OneLine.of_no_blank fun e he => htail e (by simp [he])
  rw [List.append_assoc, hend, hkey, List.cons_append, ← List.append_assoc]
  exact trimmedLines_between hc hd (hmore.append hmid)

theorem shownLines_serviceLines {title : String} (hne : title ≠ "")
    (ht : ∀ c ∈ title.toList, c ∉ literalBoundaries) (version : Option String)
    (hv : ∀ v ∈ version, ∀ c ∈ v.toList, c ∉ literalBoundaries) :
    shownLines (serviceLines (some title) version) =
      serviceBlock title.toList ((version.filter (!·.isEmpty)).map String.toList) := by
  have htitle : trimmedLines (indent 1 ("title: " ++ literal (.text title) ++ ",")).toList =
      ["title: ".toList ++ quote title.toList ++ [',']] := by
    rw [trimmedLines_indent, String.toList_append, String.toList_append, literal,
      toList_writeLine_text]
    exact trimmedLines_entry "title: " (c := 't') rfl (by decide) (by decide) ht [','] (by decide)
  have hversion : ∀ v : String, (∀ c ∈ v.toList, c ∉ literalBoundaries) →
      trimmedLines (indent 1 ("version: " ++ literal (.text v))).toList =
        ["version: ".toList ++ quote v.toList] := by
    intro v hfits
    rw [trimmedLines_indent, String.toList_append, literal, toList_writeLine_text]
    simpa using trimmedLines_entry "version: " (c := 'v') rfl (by decide) (by decide) hfits []
      (by simp)
  have hopen : trimmedLines "@service(\x7b".toList = ["@service(\x7b".toList] := by decide
  have hclose : trimmedLines "\x7d)".toList = ["\x7d)".toList] := by decide
  have hempty : title.isEmpty = false := by simpa using hne
  have hentry : shownLines (if isGivenText version then
        [indent 1 ("version: " ++ literal (.text (version.getD "")))] else []) =
      (((version.filter (!·.isEmpty)).map String.toList).map fun v =>
        "version: ".toList ++ quote v).toList := by
    cases version with
    | none => rfl
    | some v =>
        by_cases hgiven : v = ""
        · subst hgiven
          rfl
        · have hfilled : v.isEmpty = false := by simpa using hgiven
          simp only [isGivenText, hfilled, Option.getD_some, shownLines_cons, shownLines_nil,
            hversion v (hv v rfl), Option.filter_some, Option.map_some, Option.toList_some,
            Bool.not_false, if_true, List.append_nil]
  rw [serviceLines, hempty, if_neg (by simp), shownLines_append, shownLines_append, hentry,
    shownLines_cons, shownLines_cons, shownLines_cons, hopen, htitle, hclose, serviceBlock,
    serviceEntries, List.append_assoc]
  rfl

def serviceOpening : List Char :=
  ['@', 's', 'e', 'r', 'v', 'i', 'c', 'e', '(', '\x7b']

def serviceClosing : List Char :=
  ['\x7d', ')']

def titleLine (title : List Char) : List Char :=
  titleKey ++ ' ' :: (quote title ++ [','])

def versionLine (version : List Char) : List Char :=
  versionKey ++ ' ' :: quote version

theorem serviceBlock_eq (title : List Char) (version : Option (List Char)) :
    serviceBlock title version =
      serviceOpening :: titleLine title ::
        ((version.map versionLine).toList ++ [serviceClosing]) := by
  cases version with
  | none => rfl
  | some v => rfl

theorem findLiteral_title (title tail : List Char) :
    findLiteral titleKey (serviceOpening ++ (titleLine title ++ tail)) = some (quote title) := by
  have hsplit : titleLine title ++ tail =
      titleKey ++ ' ' :: (quote title ++ ([','] ++ tail)) := by
    rw [titleLine, List.append_assoc, List.cons_append, List.append_assoc]
  rw [hsplit, titleKey, findLiteral_append (by decide)]
  exact findLiteral_here title _

/-- The version is looked for behind the closing quote of the title, and this quote opens a literal
if the title ends like the key. -/
theorem findLiteral_version (title tail : List Char) :
    findLiteral versionKey (serviceOpening ++ (titleLine title ++ tail)) =
      if EndsLike versionKey (escape title) then
        (takeLiteral ('"' :: ',' :: tail)).or (findLiteral versionKey tail)
      else findLiteral versionKey tail := by
  -- the only other start like that of the key is in the name of the decorator
  have hsplit : serviceOpening ++ (titleLine title ++ tail) =
      ['@', 's', 'e', 'r'] ++ 'v' :: (['i', 'c', 'e', '(', '\x7b'] ++ titleKey ++ [' '] ++
        '"' :: (escape title ++ '"' :: (',' :: tail))) := by
    rw [titleLine, quote]
    simp only [serviceOpening, List.append_assoc, List.cons_append, List.nil_append]
  have hnone : NoLiteral versionKey (escape title) :=
    noLiteral_escape ['v', 'e', 'r', 's', 'i', 'o', 'n'] title
  have hcomma : findLiteral versionKey (',' :: tail) = findLiteral versionKey tail :=
    findLiteral_cons (by simp [versionKey])
  have hstart : findLiteral versionKey (serviceOpening ++ (titleLine title ++ tail)) =
      findLiteral versionKey (escape title ++ '"' :: ',' :: tail) := by
    rw [hsplit, versionKey, findLiteral_append (by decide), findLiteral_cons (by simp),
      findLiteral_append (by decide), findLiteral_cons (by simp)]
  rw [hstart, ← hcomma]
  exact hnone.findLiteral_append_quote (by decide) (by decide) _

/-! ## Entries -/

theorem serviceEntry_of_findLiteral {key : String} {content : List Char} {s : String}
    (hs : s ≠ "") (h : findLiteral key.toList content = some (quote s.toList)) :
    serviceEntry key content = some s := by
  have hfilled : s.toList.isEmpty = false := by simpa using hs
  simp only [serviceEntry, h, Option.bind_eq_bind, Option.bind_some, literalText_quote, hfilled,
    String.ofList_toList, Bool.false_eq_true, if_false]

theorem serviceEntry_of_findLiteral_none {key : String} {content : List Char}
    (h : findLiteral key.toList content = none) : serviceEntry key content = none := by
  simp only [serviceEntry, h, Option.bind_eq_bind, Option.bind_none]

theorem findLiteral_versionLine (version tail : List Char) :
    findLiteral versionKey (versionLine version ++ tail) = some (quote version) := by
  rw [versionLine, List.append_assoc, List.cons_append]
  exact findLiteral_here version tail

theorem serviceEntry_title {title : String} (hne : title ≠ "") (tail : List Char) :
    serviceEntry "title:" (serviceOpening ++ (titleLine title.toList ++ tail)) = some title :=
  serviceEntry_of_findLiteral hne (findLiteral_title _ tail)

theorem serviceEntry_version_none (title : String) {tail : List Char} (htail : '"' ∉ tail) :
    serviceEntry "version:" (serviceOpening ++ (titleLine title.toList ++ tail)) = none := by
  apply serviceEntry_of_findLiteral_none
  have hnone : findLiteral versionKey tail = none :=
    (noLiteral_of_no_quote versionKey htail).findLiteral_eq_none
  have hopen : takeLiteral ('"' :: ',' :: tail) = none :=
    takeLiteral_unclosed (by simpa using htail)
  change findLiteral versionKey _ = none
  rw [findLiteral_version, hnone, hopen]
  split <;> rfl

/-- What is read as the version behind a title. -/
def versionBehind (title version : String) : String :=
  if EndsLike versionKey (escape title.toList) then ",version: " else version

theorem serviceEntry_version_some (title : String) {version : String} (hne : version ≠ "")
    (tail : List Char) :
    serviceEntry "version:" (serviceOpening ++
        (titleLine title.toList ++ (versionLine version.toList ++ tail))) =
      some (versionBehind title version) := by
  have hfound : findLiteral "version:".toList (serviceOpening ++
      (titleLine title.toList ++ (versionLine version.toList ++ tail))) =
        some (quote (versionBehind title version).toList) := by
    have hopen : takeLiteral ('"' :: ',' :: (versionLine version.toList ++ tail)) =
        some (quote ",version: ".toList) :=
      takeLiteral_quote ",version: ".toList _
    change findLiteral versionKey _ = _
    rw [findLiteral_version, findLiteral_versionLine, hopen, versionBehind]
    split <;> rfl
  refine serviceEntry_of_findLiteral ?_ hfound
  rw [versionBehind]
  split
  · decide
  · exact hne

/-! ## The end of the block -/

theorem mem_quote_closing (s : List Char) : ')' ∈ quote s ↔ ')' ∈ s := by
  have hcount := count_escape (d := ')') (by decide) (by decide) s
  have hescape : ')' ∈ escape s ↔ ')' ∈ s := by
    rw [← List.count_pos_iff, ← List.count_pos_iff, hcount]
  simp [quote, hescape]

theorem excess_titleLine (title : List Char) :
    parenthesisExcess (titleLine title) = parenthesisExcess title := by
  have hsplit : titleLine title = titleKey ++ [' '] ++ (quote title ++ [',']) := by
    simp [titleLine]
  rw [hsplit, parenthesisExcess_append, parenthesisExcess_append, parenthesisExcess_append,
    parenthesisExcess_quote]
  simp [parenthesisExcess, titleKey]

theorem excess_versionLine (version : List Char) :
    parenthesisExcess (versionLine version) = parenthesisExcess version := by
  have hsplit : versionLine version = versionKey ++ [' '] ++ quote version := by
    simp [versionLine]
  rw [hsplit, parenthesisExcess_append, parenthesisExcess_quote]
  simp [parenthesisExcess, versionKey]

theorem mem_titleLine_closing (title : List Char) : ')' ∈ titleLine title ↔ ')' ∈ title := by
  simp [titleLine, titleKey, mem_quote_closing]

theorem mem_versionLine_closing (version : List Char) :
    ')' ∈ versionLine version ↔ ')' ∈ version := by
  simp [versionLine, versionKey, mem_quote_closing]

theorem mem_of_excess_neg {s : List Char} (h : parenthesisExcess s < 0) : ')' ∈ s := by
  rw [← List.count_pos_iff]
  unfold parenthesisExcess at h
  omega

theorem endsService_iff (depth : Int) (line : List Char) :
    endsService depth line = true ↔ depth = 0 ∧ ')' ∈ line := by
  simp [endsService]

theorem serviceFrom_ends (content : List Char) {depth : Int} {line : List Char}
    (hdepth : depth + parenthesisExcess line = 0) (hclosing : ')' ∈ line)
    (rest : List (List Char)) :
    serviceFrom content depth (line :: rest) =
      serviceStatement (content ++ line) :: statements rest := by
  rw [serviceFrom, if_pos ((endsService_iff _ _).2 ⟨hdepth, hclosing⟩)]

theorem serviceFrom_continues (content : List Char) {depth : Int} {line : List Char}
    (h : ¬ (depth + parenthesisExcess line = 0 ∧ ')' ∈ line)) (rest : List (List Char)) :
    serviceFrom content depth (line :: rest) =
      serviceFrom (content ++ line) (depth + parenthesisExcess line) rest := by
  rw [serviceFrom, if_neg (fun hends => h ((endsService_iff _ _).1 hends))]

theorem statements_opening (ls : List (List Char)) :
    statements (serviceOpening :: ls) = serviceFrom serviceOpening 1 ls := by
  rw [statements]
  rfl

/-- The line of the title ends a block if the title closes one parenthesis more than it opens. -/
theorem serviceFrom_titleLine (content title : List Char) (rest : List (List Char)) :
    serviceFrom content 1 (titleLine title :: rest) =
      if parenthesisExcess title = -1 then
        serviceStatement (content ++ titleLine title) :: statements rest
      else serviceFrom (content ++ titleLine title) (1 + parenthesisExcess title) rest := by
  split_ifs with hends
  · have hdepth : 1 + parenthesisExcess (titleLine title) = 0 := by
      rw [excess_titleLine, hends]
      rfl
    exact serviceFrom_ends content hdepth
      ((mem_titleLine_closing title).2 (mem_of_excess_neg (by omega))) rest
  · have hgo : ¬ (1 + parenthesisExcess (titleLine title) = 0 ∧ ')' ∈ titleLine title) := by
      rw [excess_titleLine]
      omega
    rw [serviceFrom_continues content hgo, excess_titleLine]

theorem serviceFrom_versionLine (content version : List Char) (excess : Int)
    (rest : List (List Char)) :
    serviceFrom content (1 + excess) (versionLine version :: rest) =
      if excess + parenthesisExcess version = -1 ∧ ')' ∈ version then
        serviceStatement (content ++ versionLine version) :: statements rest
      else serviceFrom (content ++ versionLine version)
        (1 + (excess + parenthesisExcess version)) rest := by
  have hiff : 1 + excess + parenthesisExcess (versionLine version) = 0 ∧
        ')' ∈ versionLine version ↔
      excess + parenthesisExcess version = -1 ∧ ')' ∈ version := by
    rw [excess_versionLine, mem_versionLine_closing]
    exact and_congr_left' (by omega)
  split_ifs with hends
  · exact serviceFrom_ends content (hiff.2 hends).1 (hiff.2 hends).2 rest
  · rw [serviceFrom_continues content fun h => hends (hiff.1 h), excess_versionLine, add_assoc]

/-- The last line of a block ends it if one parenthesis is open before it; at the end of the source
it does so in any case. -/
theorem serviceFrom_closing (content : List Char) {excess : Int} {rest : List (List Char)}
    (h : excess = 0 ∨ rest = []) :
    serviceFrom content (1 + excess) (serviceClosing :: rest) =
      serviceStatement (content ++ serviceClosing) :: statements rest := by
  have hexcess : parenthesisExcess serviceClosing = -1 := by decide
  by_cases hzero : excess = 0
  · exact serviceFrom_ends content (by rw [hexcess, hzero]; rfl) (by decide) rest
  · obtain rfl : rest = [] := h.resolve_left hzero
    rw [serviceFrom_continues content (by rw [hexcess]; omega), serviceFrom, statements]

theorem serviceFrom_past_closing (content : List Char) {excess : Int} (h : excess ≠ 0)
    (rest : List (List Char)) :
    ∃ content' depth, serviceFrom content (1 + excess) (serviceClosing :: rest) =
      serviceFrom content' depth rest := by
  have hexcess : parenthesisExcess serviceClosing = -1 := by decide
  exact ⟨_, _, serviceFrom_continues content (by rw [hexcess]; omega) rest⟩

/-- A service block ends at the line of its title, at that of its version, or at its last line;
otherwise what follows it in the source belongs to it. -/
def ServiceEnds (title : String) (version : Option String) : Prop :=
  parenthesisExcess title.toList = -1 ∨
    (∃ v ∈ version, parenthesisExcess title.toList + parenthesisExcess v.toList = -1 ∧
      ')' ∈ v.toList) ∨
    parenthesisExcess title.toList + parenthesisExcess (version.getD "").toList = 0

theorem serviceEnds_none_iff (title : String) :
    ServiceEnds title none ↔
      parenthesisExcess title.toList = -1 ∨ parenthesisExcess title.toList = 0 := by
  have hzero : parenthesisExcess [] = 0 := rfl
  simp [ServiceEnds, hzero]

theorem serviceEnds_some_iff (title version : String) :
    ServiceEnds title (some version) ↔ parenthesisExcess title.toList = -1 ∨
      (parenthesisExcess title.toList + parenthesisExcess version.toList = -1 ∧
        ')' ∈ version.toList) ∨
      parenthesisExcess title.toList + parenthesisExcess version.toList = 0 := by
  simp [ServiceEnds]

def versionRead (title : String) (version : Option String) : Option String :=
  if parenthesisExcess title.toList = -1 then none else version.map (versionBehind title)

theorem meaning_serviceStatement {title : String} (hne : title ≠ "") {tail : List Char}
    {version : Option String} (hversion : serviceEntry "version:"
      (serviceOpening ++ (titleLine title.toList ++ tail)) = version) :
    (serviceStatement (serviceOpening ++ titleLine title.toList ++ tail)).meaning =
      .service (some title) version := by
  rw [serviceStatement, List.append_assoc, serviceEntry_title hne, hversion]

/-- A service block that ends before the rest of the source is one statement; the lines of the block
behind its end are left over. -/
theorem statements_serviceBlock {title : String} (hne : title ≠ "")
    {version : Option String} (hversion : ∀ v ∈ version, v ≠ "") {rest : List (List Char)}
    (hends : ServiceEnds title version ∨ rest = []) :
    ∃ content left,
      statements (serviceBlock title.toList (version.map String.toList) ++ rest) =
        serviceStatement content :: statements (left ++ rest) ∧
      (serviceStatement content).meaning = .service (some title) (versionRead title version) ∧
      ∀ l ∈ left, l = serviceClosing ∨ ∃ v, l = versionLine v := by
  rw [serviceBlock_eq, List.cons_append, List.cons_append, statements_opening,
    serviceFrom_titleLine, versionRead]
  by_cases htitle : parenthesisExcess title.toList = -1
  · -- the block ends at the title, so the version and the closing line are left over
    rw [if_pos htitle, if_pos htitle]
    have hentry := serviceEntry_version_none title (List.not_mem_nil : '"' ∉ [])
    refine ⟨_, _, rfl, by simpa using meaning_serviceStatement hne hentry, ?_⟩
    intro l hl
    rw [List.mem_append, Option.mem_toList, List.mem_singleton] at hl
    rcases hl with hl | rfl
    · obtain ⟨v, -, rfl⟩ := Option.map_eq_some_iff.1 hl
      exact Or.inr ⟨v, rfl⟩
    · exact Or.inl rfl
  · rw [if_neg htitle, if_neg htitle]
    cases version with
    | none =>
        have hlast : parenthesisExcess title.toList = 0 ∨ rest = [] :=
          hends.imp_left fun h => ((serviceEnds_none_iff title).1 h).resolve_left htitle
        exact ⟨_, [], serviceFrom_closing _ hlast,
          meaning_serviceStatement hne (serviceEntry_version_none title (by decide)), by simp⟩
    | some v =>
        have hv : v ≠ "" := hversion v rfl
        change ∃ content left, serviceFrom _ _ (versionLine v.toList :: (serviceClosing :: rest)) =
          _ ∧ _
        rw [serviceFrom_versionLine]
        split_ifs with hwithin
        · have hentry := serviceEntry_version_some title hv []
          rw [List.append_nil] at hentry
          exact ⟨_, [serviceClosing], rfl, meaning_serviceStatement hne hentry, by simp⟩
        · have hlast : parenthesisExcess title.toList + parenthesisExcess v.toList = 0 ∨
              rest = [] :=
            hends.imp_left fun h =>
              (((serviceEnds_some_iff title v).1 h).resolve_left htitle).resolve_left hwithin
          refine ⟨_, [], serviceFrom_closing _ hlast, ?_, by simp⟩
          rw [List.append_assoc (serviceOpening ++ _)]
          exact meaning_serviceStatement hne (serviceEntry_version_some title hv serviceClosing)

/-! ## A block that does not end -/

/-- Lines without a closing parenthesis belong to the block. -/
theorem serviceFrom_of_no_closing {ls : List (List Char)} (h : ∀ l ∈ ls, ')' ∉ l)
    (content : List Char) (depth : Int) (rest : List (List Char)) :
    ∃ content' depth',
      serviceFrom content depth (ls ++ rest) = serviceFrom content' depth' rest := by
  induction ls generalizing content depth with
  | nil => exact ⟨content, depth, rfl⟩
  | cons l ls ih =>
      have hl := h l (by simp)
      rw [List.cons_append, serviceFrom_continues content (fun hends => hl hends.2)]
      exact ih (fun m hm => h m (by simp [hm])) _ _

theorem exists_left_of_serviceFrom (content : List Char) (depth : Int) (ls : List (List Char)) :
    ∃ content' left, left <:+ ls ∧
      serviceFrom content depth ls = serviceStatement content' :: statements left := by
  induction ls generalizing content depth with
  | nil => exact ⟨content, [], List.suffix_refl _, by rw [serviceFrom, statements]⟩
  | cons l ls ih =>
      by_cases hends : depth + parenthesisExcess l = 0 ∧ ')' ∈ l
      · exact ⟨_, ls, List.suffix_cons l ls, serviceFrom_ends content hends.1 hends.2 ls⟩
      · obtain ⟨content', left, hleft, hfrom⟩ := ih (content ++ l) (depth + parenthesisExcess l)
        exact ⟨content', left, hleft.trans (List.suffix_cons l ls),
          (serviceFrom_continues content hends ls).trans hfrom⟩

/-- A block that does not end within its own lines also takes the lines behind it up to a closing
parenthesis. -/
theorem statements_serviceBlock_of_not_ends {title : String} {version : Option String}
    (hends : ¬ ServiceEnds title version) {ls : List (List Char)} (hls : ∀ l ∈ ls, ')' ∉ l)
    (rest : List (List Char)) :
    ∃ content left, left <:+ rest ∧
      statements (serviceBlock title.toList (version.map String.toList) ++ (ls ++ rest)) =
        serviceStatement content :: statements left := by
  have hfrom : ∃ content depth,
      statements (serviceBlock title.toList (version.map String.toList) ++ (ls ++ rest)) =
        serviceFrom content depth (ls ++ rest) := by
    rw [serviceBlock_eq, List.cons_append, List.cons_append, statements_opening,
      serviceFrom_titleLine]
    cases version with
    | none =>
        rw [serviceEnds_none_iff, not_or] at hends
        rw [if_neg hends.1]
        exact serviceFrom_past_closing _ hends.2 _
    | some v =>
        rw [serviceEnds_some_iff, not_or, not_or] at hends
        rw [if_neg hends.1]
        change ∃ content depth,
          serviceFrom _ _ (versionLine v.toList :: (serviceClosing :: (ls ++ rest))) = _
        rw [serviceFrom_versionLine, if_neg hends.2.1]
        exact serviceFrom_past_closing _ hends.2.2 _
  obtain ⟨content, depth, hfrom⟩ := hfrom
  obtain ⟨content', depth', hopen⟩ := serviceFrom_of_no_closing hls content depth rest
  obtain ⟨content'', left, hleft, hlast⟩ := exists_left_of_serviceFrom content' depth' rest
  exact ⟨content'', left, hleft, hfrom.trans (hopen.trans hlast)⟩

end ApiShapes.TypeSpec
