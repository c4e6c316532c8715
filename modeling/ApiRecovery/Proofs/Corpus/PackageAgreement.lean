import ApiRecovery.Proofs.Corpus.OwnNames
import ApiRecovery.Proofs.Corpus.PackageReadings

/-!
# Where the readings of the package agree

The package that the search for a package line finds and the package of the parsed text agree where
the search stops at the last package declaration: the declaration begins its line, it is plain, and
nothing before it looks like one. A package line in a comment or a comment before the declaration
make them differ.
-/

open ApiRecovery.Java.Tree

namespace ApiRecovery

open Java (CompilationUnit Lexed Token Tree)

namespace PackageLine

open Text (isBlank trimStartChars)

variable {text head rest place name : List Char}

/-! ## The lines of a text -/

/-- A line of the text begins after `head`, and `rest` is what follows. -/
def LineAt (text head rest : List Char) : Prop :=
  text = head ++ rest ∧ (head = [] ∨ ∃ lines, head = lines ++ ['\n'])

/-- The search reads `name` on a line, with the keyword right after `place`. -/
def ReadsAfter (text place name : List Char) : Prop :=
  ∃ head rest, LineAt text head rest ∧ readDeclaration rest = some name ∧
    place = head ++ rest.takeWhile isBlank

/-- Only blanks stand between the beginning of some line and the end of `place`. -/
def OpensLine (place : List Char) : Prop :=
  ∃ head blanks, place = head ++ blanks ∧ (head = [] ∨ ∃ lines, head = lines ++ ['\n']) ∧
    ∀ c ∈ blanks, isBlank c = true

theorem searchLines_eq_some {cs : List Char} (h : searchLines cs = some name) :
    ∃ lines rest, cs = lines ++ '\n' :: rest ∧ readDeclaration rest = some name ∧
      ∀ lines' rest', cs = lines' ++ '\n' :: rest' → (readDeclaration rest').isSome = true →
        lines.length ≤ lines'.length := by
  induction cs with
  | nil => cases h
  | cons c cs ih =>
    simp only [searchLines] at h
    split at h
    · rename_i found hfound
      cases h
      by_cases hc : c = '\n'
      · subst hc
        exact ⟨[], cs, rfl, by simpa using hfound, fun _ _ _ _ => Nat.zero_le _⟩
      · simp [hc] at hfound
    · rename_i hnone
      obtain ⟨lines, rest, rfl, hread, hfirst⟩ := ih h
      refine ⟨c :: lines, rest, rfl, hread, fun lines' rest' heq hsome => ?_⟩
      cases lines' with
      | nil =>
        obtain ⟨rfl, rfl⟩ := List.cons.inj heq
        simp only [beq_self_eq_true, if_true] at hnone
        rw [hnone] at hsome
        cases hsome
      | cons d lines' =>
        obtain ⟨-, heq'⟩ := List.cons.inj heq
        exact Nat.succ_le_succ (hfirst lines' rest' heq' hsome)

theorem searchLines_eq_none {cs : List Char} (h : searchLines cs = none) {lines rest : List Char}
    (hcs : cs = lines ++ '\n' :: rest) : readDeclaration rest = none := by
  induction cs generalizing lines with
  | nil => simp at hcs
  | cons c cs ih =>
    simp only [searchLines] at h
    split at h
    · cases h
    · rename_i hnone
      cases lines with
      | nil =>
        obtain ⟨rfl, rfl⟩ := List.cons.inj hcs
        simpa using hnone
      | cons d lines => exact ih h (List.cons.inj hcs).2

/-- The search finds the declaration on the first line on which it can read one. -/
theorem find?_eq_some {s found : String} (h : find? s = some found) :
    ∃ head rest, LineAt s.toList head rest ∧ readDeclaration rest = some found.toList ∧
      ∀ head' rest', LineAt s.toList head' rest' → (readDeclaration rest').isSome = true →
        head.length ≤ head'.length := by
  obtain ⟨name, hname, rfl⟩ := Option.map_eq_some_iff.1 h
  rw [String.toList_ofList]
  rcases Option.or_eq_some_iff.1 hname with hread | ⟨hnone, hsearch⟩
  · exact ⟨[], _, ⟨rfl, .inl rfl⟩, hread, fun _ _ _ _ => Nat.zero_le _⟩
  · obtain ⟨lines, rest, hcs, hread, hfirst⟩ := searchLines_eq_some hsearch
    refine ⟨lines ++ ['\n'], rest, ⟨by simpa using hcs, .inr ⟨lines, rfl⟩⟩, hread, ?_⟩
    rintro head' rest' ⟨heq, rfl | ⟨lines', rfl⟩⟩ hsome
    · rw [← List.nil_append rest', ← heq, hnone] at hsome
      cases hsome
    · simpa using hfirst lines' rest' (by simpa using heq) hsome

theorem find?_eq_none {s : String} (h : find? s = none) : ¬ ReadsAfter s.toList place name := by
  rintro ⟨head, rest, ⟨heq, hhead⟩, hread, -⟩
  obtain ⟨hnone, hsearch⟩ := Option.or_eq_none_iff.1 (Option.map_eq_none_iff.1 h)
  rcases hhead with rfl | ⟨lines, rfl⟩
  · rw [heq, List.nil_append, hread] at hnone
    cases hnone
  · rw [searchLines_eq_none hsearch (by simpa using heq)] at hread
    cases hread

/-- Where two lines are read, the keyword of the first is no later than that of the second. -/
theorem place_le {head' rest' : List Char} (h : LineAt text head rest)
    (h' : LineAt text head' rest') (hle : head.length ≤ head'.length) :
    (head ++ rest.takeWhile isBlank).length ≤ (head' ++ rest'.takeWhile isBlank).length := by
  have hprefix : head <+: text := ⟨rest, h.1.symm⟩
  have hprefix' : head' <+: text := ⟨rest', h'.1.symm⟩
  obtain ⟨between, rfl⟩ := List.prefix_of_prefix_length_le hprefix hprefix' hle
  have hrest : rest = between ++ rest' := by
    have heq := h.1.symm.trans h'.1
    rw [List.append_assoc] at heq
    exact List.append_cancel_left heq
  rw [hrest, List.takeWhile_append]
  split
  · simp
  · have hblank := (List.takeWhile_prefix (l := between) isBlank).length_le
    simp only [List.length_append]
    omega

/-- The first place at which the search can read a declaration is the one it finds. -/
theorem find?_first {s found : String} (h : find? s = some found) :
    ∃ place, ReadsAfter s.toList place found.toList ∧
      ∀ place' name', ReadsAfter s.toList place' name' → place.length ≤ place'.length := by
  obtain ⟨head, rest, hline, hread, hfirst⟩ := find?_eq_some h
  refine ⟨_, ⟨head, rest, hline, hread, rfl⟩, ?_⟩
  rintro place' name' ⟨head', rest', hline', hread', rfl⟩
  exact place_le hline hline' (hfirst head' rest' hline' (by rw [hread']; rfl))

theorem readDeclaration_trimStart (cs : List Char) :
    readDeclaration (trimStartChars cs) = readDeclaration cs := by
  have htwice : trimStartChars (trimStartChars cs) = trimStartChars cs := by
    refine trimStartChars_of_head fun c hc => ?_
    have hnot := List.head?_dropWhile_not isBlank cs
    rw [trimStartChars] at hc
    rw [Option.mem_def.1 hc] at hnot
    simpa using hnot
  unfold readDeclaration
  simp only [htwice]

/-- At the keyword of a declaration, the search reads what stands there if nothing but blanks comes
before on some line. -/
theorem readsAfter_iff {after : List Char} (htext : text = place ++ after)
    (hkeyword : "package".toList <+: after) :
    ReadsAfter text place name ↔ OpensLine place ∧ readDeclaration after = some name := by
  obtain ⟨more, rfl⟩ := hkeyword
  have hp : isBlank 'p' = false := by decide
  constructor
  · rintro ⟨head, rest, ⟨heq, hhead⟩, hread, rfl⟩
    have hsplit : rest.takeWhile isBlank ++ trimStartChars rest = rest :=
      List.takeWhile_append_dropWhile
    have hrest : trimStartChars rest = "package".toList ++ more := by
      have hboth := heq.symm.trans htext
      rw [List.append_assoc] at hboth
      exact List.append_cancel_left (hsplit.trans (List.append_cancel_left hboth))
    refine ⟨⟨head, _, rfl, hhead, fun c hc => List.all_eq_true.1 List.all_takeWhile c hc⟩, ?_⟩
    rw [← hrest, readDeclaration_trimStart, hread]
  · rintro ⟨⟨head, blanks, rfl, hhead, hblanks⟩, hread⟩
    refine ⟨head, blanks ++ ("package".toList ++ more),
      ⟨by rw [htext, List.append_assoc], hhead⟩, ?_, ?_⟩
    · have hdrop : trimStartChars (blanks ++ ("package".toList ++ more)) =
          trimStartChars ("package".toList ++ more) :=
        List.dropWhile_append_of_pos hblanks
      rw [← readDeclaration_trimStart, hdrop, readDeclaration_trimStart, hread]
    · rw [List.takeWhile_append_of_pos hblanks]
      simp [hp]

end PackageLine

/-! ## Package declarations of a tree -/

namespace Java

def byteOrderMark : List Char → List Char
  | c :: _ => if c.toNat = 0xFEFF then [c] else []
  | [] => []

theorem byteOrderMark_append (cs : List Char) :
    byteOrderMark cs ++ Lexer.withoutByteOrderMark cs = cs := by
  cases cs with
  | nil => rfl
  | cons c cs =>
    by_cases hc : c.toNat = 0xFEFF
    · simp [byteOrderMark, Lexer.withoutByteOrderMark, hc]
    · simp [byteOrderMark, Lexer.withoutByteOrderMark, hc]

namespace Tree

/-- What a package declaration has before its keyword: annotations, and comments between them. -/
def packageHead (t : Tree) : List Tree :=
  t.children.takeWhile isNamed

def packageBody (t : Tree) : List Tree :=
  t.children.dropWhile isNamed

/-- Whether nothing in a package declaration stops the search for it. -/
def isPlainPackage (t : Tree) : Bool :=
  (tokensOfAll t.packageBody).all PackageLine.isPlain

/-- What stands in a text before the keyword of a package declaration, when `earlier` are the trees
before the declaration. -/
def packagePlace (source : String) (earlier : List Tree) (t : Tree) : List Char :=
  byteOrderMark source.toList ++ Lexed.spelled (tokensOfAll (earlier ++ t.packageHead)) ++
    (((tokensOfAll t.packageBody).head?.map fun k => k.blank.toList).getD [])

/-- `t` is a package declaration at top level, with its keyword right after `place` and the trees
`later` behind it. -/
def PackageAt (source : String) (tree t : Tree) (place : List Char) (later : List Tree) : Prop :=
  t.kind = .packageDeclaration ∧ ∃ earlier, tree.children = earlier ++ t :: later ∧
    place = packagePlace source earlier t

end Tree

theorem tokens_of_tree {source : String} {tree : Tree} (h : tree? source = .ok tree) :
    Tree.tokensOfAll tree.children = Lexer.read source := by
  obtain ⟨read, comments, rfl, -, -, htokens⟩ := derives_of_tree h
  exact htokens

namespace PackageParts

variable {t name : Tree} {before gap gap' : List Tree} {keyword semicolon : Token}

theorem isNamed_before (h : PackageParts t.children before keyword gap name gap' semicolon) :
    ∀ x ∈ before, x.isNamed = true := by
  intro x hx
  rcases h.before x hx with hkind | hkind | hkind <;> simp [isNamed, hkind]

theorem packageHead_eq (h : PackageParts t.children before keyword gap name gap' semicolon) :
    t.packageHead = before ∧ t.packageBody = .leaf none .anonymous keyword ::
      (gap ++ name :: (gap' ++ [.leaf none .anonymous semicolon])) := by
  have hkeyword : ¬ (leaf none .anonymous keyword).isNamed = true := by simp [isNamed, Tree.kind]
  constructor
  · rw [packageHead, h.children_eq, List.takeWhile_append_of_pos h.isNamed_before,
      List.takeWhile_cons_of_neg hkeyword, List.append_nil]
  · rw [packageBody, h.children_eq, List.dropWhile_append_of_pos h.isNamed_before,
      List.dropWhile_cons_of_neg hkeyword]

theorem namedChildren_eq (h : PackageParts t.children before keyword gap name gap' semicolon) :
    t.namedChildren = before ++ (gap ++ name :: gap') := by
  have hcomments : ∀ {xs : List Tree}, AreComments xs → xs.filter isNamed = xs := fun hxs =>
    List.filter_eq_self.2 fun x hx => by
      obtain ⟨token, -, rfl⟩ := hxs x hx
      rfl
  have hname : name.isNamed = true := by
    rcases h.name.1 with hkind | hkind <;> simp [isNamed, hkind]
  have hmark : ∀ token, (leaf none .anonymous token).isNamed = false := fun _ => rfl
  rw [namedChildren, h.children_eq]
  simp [List.filter_append, List.filter_eq_self.2 h.isNamed_before, hcomments h.gap,
    hcomments h.gap', hname, hmark]

theorem importedName?_eq (h : PackageParts t.children before keyword gap name gap' semicolon) :
    t.importedName? = some name.nameText := by
  have hbefore : before.find? (fun c => c.kind == .identifier || c.kind == .scopedIdentifier) =
      none := by
    rw [List.find?_eq_none]
    intro x hx
    rcases h.before x hx with hkind | hkind | hkind <;> simp [hkind]
  have hgap : gap.find? (fun c => c.kind == .identifier || c.kind == .scopedIdentifier) =
      none := by
    rw [List.find?_eq_none]
    intro x hx
    obtain ⟨token, -, rfl⟩ := h.gap x hx
    simp [Tree.kind]
  have hname : (name.kind == .identifier || name.kind == .scopedIdentifier) = true := by
    rcases h.name.1 with hkind | hkind <;> simp [hkind]
  rw [importedName?, h.namedChildren_eq, List.find?_append, hbefore, Option.none_or,
    List.find?_append, hgap, Option.none_or, List.find?_cons, hname]
  rfl

/-- The tokens of a package declaration from the keyword on. -/
theorem tokens_packageBody (h : PackageParts t.children before keyword gap name gap' semicolon) :
    tokensOfAll t.packageBody =
      keyword :: (tokensOfAll gap ++ name.tokens ++ tokensOfAll gap' ++ [semicolon]) := by
  rw [h.packageHead_eq.2]
  simp [tokensOfAll, tokens, tokensOfAll_append]

/-- Only what stands between the keyword and the semicolon can stop the search. -/
theorem isPlainPackage_eq (h : PackageParts t.children before keyword gap name gap' semicolon) :
    t.isPlainPackage =
      (tokensOfAll gap ++ name.tokens ++ tokensOfAll gap').all PackageLine.isPlain := by
  rw [isPlainPackage, h.tokens_packageBody, List.all_cons, PackageLine.isPlain_keyword h.keyword,
    Bool.true_and, List.all_append, List.all_cons, PackageLine.isPlain_of_isMark h.semicolon,
    Bool.true_and, List.all_nil, Bool.and_true]

theorem tokens_eq (h : PackageParts t.children before keyword gap name gap' semicolon) :
    t.tokens = tokensOfAll t.packageHead ++ tokensOfAll t.packageBody := by
  cases t with
  | leaf role kind token =>
    have hnil := h.children_eq
    simp [Tree.children] at hnil
  | node role kind children =>
    rw [← tokensOfAll_append, packageHead, packageBody, List.takeWhile_append_dropWhile]
    rfl

end PackageParts

end Java

namespace PackageLine

variable {source : String} {tree t : Tree} {place : List Char} {later : List Tree}

theorem exists_parts (htree : Java.tree? source = .ok tree)
    (hat : PackageAt source tree t place later) : ∃ before keyword gap name gap' semicolon,
      Java.PackageParts t.children before keyword gap name gap' semicolon := by
  obtain ⟨hkind, earlier, hchildren, -⟩ := hat
  have hmem : t ∈ tree.children := by
    rw [hchildren]
    exact List.mem_append_right _ List.mem_cons_self
  exact (Java.packageParts_of_tree htree t hmem).self hkind

/-- After the place of a package declaration the text goes on with the keyword and the tokens that
follow it. -/
theorem lexed_at {before gap gap' : List Tree} {keyword semicolon : Token} {name : Tree}
    (htree : Java.tree? source = .ok tree) (hat : PackageAt source tree t place later)
    (hparts : Java.PackageParts t.children before keyword gap name gap' semicolon) :
    ∃ cs, Lexed (keyword :: (tokensOfAll gap ++ name.tokens ++ tokensOfAll gap' ++
        semicolon :: tokensOfAll later)) cs ∧
      ∀ after, cs = keyword.blank.toList ++ after → source.toList = place ++ after := by
  obtain ⟨-, earlier, hchildren, rfl⟩ := hat
  have hbody := hparts.tokens_packageBody
  have htokens : Java.Lexer.read source = tokensOfAll (earlier ++ t.packageHead) ++
      (tokensOfAll t.packageBody ++ tokensOfAll later) := by
    rw [← Java.tokens_of_tree htree, hchildren]
    simp [tokensOfAll, tokensOfAll_append, hparts.tokens_eq]
  have hlexed := Lexed.read source
  rw [htokens] at hlexed
  obtain ⟨cs, hcs, hcs_lexed⟩ := hlexed.of_append
  refine ⟨cs, by simpa [hbody] using hcs_lexed, fun after hafter => ?_⟩
  have hkeyword : (tokensOfAll t.packageBody).head? = some keyword := by rw [hbody]; rfl
  rw [← Java.byteOrderMark_append source.toList, hcs, hafter, packagePlace, hkeyword]
  simp

/-- At the keyword of a package declaration the search reads the name of the declaration if it is
plain, and nothing otherwise. -/
theorem readDeclaration_at (htree : Java.tree? source = .ok tree)
    (hat : PackageAt source tree t place later) :
    ∃ after, source.toList = place ++ after ∧ "package".toList <+: after ∧
      ∀ name, readDeclaration after = some name ↔
        t.isPlainPackage = true ∧ t.importedName? = some (String.ofList name) := by
  obtain ⟨before, keyword, gap, name, gap', semicolon, hparts⟩ := exists_parts htree hat
  obtain ⟨-, word, ts, htokens, hword, hts⟩ := hparts.name
  obtain ⟨cs, hlexed, hplace⟩ := lexed_at htree hat hparts
  have hlexed' : Lexed (keyword :: (tokensOfAll gap ++ word :: (ts ++ tokensOfAll gap' ++
      semicolon :: tokensOfAll later))) cs := by
    rw [htokens] at hlexed
    simpa using hlexed
  obtain ⟨after, hafter, hprefix, hread⟩ := readDeclaration_tokens hparts.keyword
    hparts.gap.cls_eq hword hts hparts.gap'.cls_eq hparts.semicolon hlexed'
  refine ⟨after, hplace after hafter, hprefix, fun found => ?_⟩
  have hplain : t.isPlainPackage =
      (tokensOfAll gap ++ word :: (ts ++ tokensOfAll gap')).all isPlain := by
    simp [hparts.isPlainPackage_eq, htokens]
  rw [hread, ← hplain, hparts.importedName?_eq]
  cases hall : t.isPlainPackage with
  | false => simp
  | true =>
    rw [hparts.isPlainPackage_eq, htokens, List.all_append, List.all_append] at hall
    simp only [Bool.and_eq_true] at hall
    have hsubset : word :: ts ⊆ keyword :: (tokensOfAll gap ++ word ::
        (ts ++ tokensOfAll gap' ++ semicolon :: tokensOfAll later)) := by
      intro token htoken
      rcases List.mem_cons.1 htoken with rfl | htoken
      · simp
      · simp [htoken]
    rw [nameText_of_isPlain htokens hword hts hall.1.2 hlexed' hsubset]
    simp [String.ofList_inj]

/-- Where a package declaration stands, the search reads it exactly if it begins a line and is
plain, and then under its name. -/
theorem readsAfter_package (htree : Java.tree? source = .ok tree)
    (hat : PackageAt source tree t place later) (name : List Char) :
    ReadsAfter source.toList place name ↔
      OpensLine place ∧ t.isPlainPackage = true ∧ t.importedName? = some (String.ofList name) := by
  obtain ⟨after, hsource, hkeyword, hread⟩ := readDeclaration_at htree hat
  rw [readsAfter_iff hsource hkeyword, hread]

theorem exists_importedName (htree : Java.tree? source = .ok tree)
    (hat : PackageAt source tree t place later) : ∃ name, t.importedName? = some name := by
  obtain ⟨before, keyword, gap, name, gap', semicolon, hparts⟩ := exists_parts htree hat
  exact ⟨_, hparts.importedName?_eq⟩

theorem package_eq_getLast? (tree : Tree) : (CompilationUnit.ofTree tree).package =
    (tree.children.filter (·.kind == .packageDeclaration)).getLast?.bind importedName? := by
  have hnamed : ∀ c : Tree, (c.kind == .packageDeclaration && c.isNamed) =
      (c.kind == .packageDeclaration) := by
    intro c
    cases hc : c.kind == .packageDeclaration with
    | false => rfl
    | true => simp [isNamed, eq_of_beq hc]
  simp only [CompilationUnit.ofTree, namedChildren, List.filter_filter, hnamed]

theorem package_eq (hat : PackageAt source tree t place later)
    (hlast : ∀ x ∈ later, x.kind ≠ .packageDeclaration) :
    (CompilationUnit.ofTree tree).package = t.importedName? := by
  obtain ⟨hkind, earlier, hchildren, -⟩ := hat
  have hnone : later.filter (·.kind == .packageDeclaration) = [] :=
    List.filter_eq_nil_iff.2 fun x hx => by simp [hlast x hx]
  have hthis : (t.kind == .packageDeclaration) = true := by simp [hkind]
  rw [package_eq_getLast?, hchildren, List.filter_append, List.filter_cons, if_pos hthis, hnone,
    List.getLast?_concat, Option.bind_some]

theorem package_eq_none (h : ∀ x ∈ tree.children, x.kind ≠ .packageDeclaration) :
    (CompilationUnit.ofTree tree).package = none := by
  have hnone : tree.children.filter (·.kind == .packageDeclaration) = [] :=
    List.filter_eq_nil_iff.2 fun x hx => by simp [h x hx]
  rw [package_eq_getLast?, hnone]
  rfl

theorem ReadsAfter.isPrefix {text name : List Char} (h : ReadsAfter text place name) :
    place <+: text := by
  obtain ⟨head, rest, ⟨rfl, -⟩, -, rfl⟩ := h
  exact List.prefix_append_right_inj head |>.2 (List.takeWhile_prefix _)

/-- The search finds the package of the tree if the last package declaration begins a line and is
plain, and nothing that the search can read stands before it. -/
theorem find?_eq_package (htree : Java.tree? source = .ok tree)
    (hat : PackageAt source tree t place later)
    (hlast : ∀ x ∈ later, x.kind ≠ .packageDeclaration) (hopens : OpensLine place)
    (hplain : t.isPlainPackage = true)
    (hfirst : ∀ place' name, ReadsAfter source.toList place' name → place.length ≤ place'.length) :
    find? source = (CompilationUnit.ofTree tree).package := by
  obtain ⟨name, hname⟩ := exists_importedName htree hat
  have hreads : ReadsAfter source.toList place name.toList :=
    (readsAfter_package htree hat _).2 ⟨hopens, hplain, by rw [hname, String.ofList_toList]⟩
  rw [package_eq hat hlast]
  cases hfind : find? source with
  | none => exact absurd hreads (find?_eq_none hfind)
  | some found =>
    obtain ⟨place', hreads', hmin⟩ := find?_first hfind
    have hlength : place'.length = place.length :=
      Nat.le_antisymm (hmin place _ hreads) (hfirst place' _ hreads')
    have hplace : place' = place := by
      rw [List.prefix_iff_eq_take.1 hreads'.isPrefix, List.prefix_iff_eq_take.1 hreads.isPrefix,
        hlength]
    rw [hplace, readsAfter_package htree hat] at hreads'
    rw [hreads'.2.2, String.ofList_toList]

/-- Without a package declaration and without anything that looks like one to the search, there is
no package for either. -/
theorem find?_eq_package_of_none
    (hnone : ∀ x ∈ tree.children, x.kind ≠ .packageDeclaration)
    (hreads : ∀ place name, ¬ ReadsAfter source.toList place name) :
    find? source = (CompilationUnit.ofTree tree).package := by
  rw [package_eq_none hnone]
  cases hfind : find? source with
  | none => rfl
  | some found =>
    obtain ⟨place, hreads', -⟩ := find?_first hfind
    exact absurd hreads' (hreads place _)

end PackageLine

/-! ## The files of a corpus -/

namespace SourceFile

variable {f : SourceFile} {tree : Tree}

theorem tree_eq_ok (h : f.tree.toOption = some tree) : f.tree = .ok tree := by
  cases htree : f.tree with
  | error e =>
    rw [htree] at h
    cases h
  | ok tree' =>
    rw [htree] at h
    cases h
    rfl

theorem unit_of_tree (h : f.tree = .ok tree) : f.unit = some (.ofTree tree) := by
  rw [f.tree_eq] at h
  rw [f.unit_eq, CompilationUnit.parse, h]
  rfl

end SourceFile

namespace Corpus

open PackageLine

/-- The two readings of the package of a file that parses. The search reads a package declaration
exactly where it begins a line and is plain, and under the same name; so the readings agree when the
last declaration is of that kind and nothing readable comes before it, or when there is nothing to
read for either. Where they agree, whatever is looked up in a file named after its type has the name
that was looked up. -/
theorem package_readings (c : Corpus) {file : Nat} {f : SourceFile} {tree : Tree}
    (hf : c.files[file]? = some f) (htree : f.tree = .ok tree) :
    (∀ t place later, PackageAt f.text tree t place later → ∀ name,
      ReadsAfter f.text.toList place name ↔
        OpensLine place ∧ t.isPlainPackage = true ∧
          t.importedName? = some (String.ofList name)) ∧
    (∀ t place later, PackageAt f.text tree t place later →
      (∀ x ∈ later, x.kind ≠ .packageDeclaration) → OpensLine place → t.isPlainPackage = true →
      (∀ place' name, ReadsAfter f.text.toList place' name → place.length ≤ place'.length) →
      f.package = (CompilationUnit.ofTree tree).package) ∧
    ((∀ x ∈ tree.children, x.kind ≠ .packageDeclaration) →
      (∀ place name, ¬ ReadsAfter f.text.toList place name) →
      f.package = (CompilationUnit.ofTree tree).package) ∧
    (f.package = (CompilationUnit.ofTree tree).package → ∀ name l i path t,
      c.resolveQualified? name = some (.declared l) → l.file = file → l.path = i :: path →
      (CompilationUnit.ofTree tree).types[i]? = some t → Path.stem? f.path = some t.name →
      l.qualifiedName = name) := by
  have htext : Java.tree? f.text = .ok tree := by rw [← f.tree_eq, htree]
  have hunit := SourceFile.unit_of_tree htree
  rw [f.package_eq]
  refine ⟨fun t place later hat => readsAfter_package htext hat, ?_, ?_, ?_⟩
  · intro t place later hat hlast hopens hplain hfirst
    exact find?_eq_package htext hat hlast hopens hplain hfirst
  · exact find?_eq_package_of_none
  · intro hpackage name l i path t hresolve hfile hpath ht hstem
    have hmeans := resolveQualified?_eq_some_iff.1 hresolve
    have hdot := (SourceFile.declaredIn_package hunit t (List.mem_of_getElem? ht)).not_mem_dot
    rw [← hfile] at hf
    refine hmeans.qualifiedName_eq hf hunit (f.package_eq.trans hpackage) fun stem hstem' => ?_
    rw [Option.mem_def.1 hstem', Option.some.injEq] at hstem
    exact hstem ▸ hdot

def plainPackage : SourceFile :=
  .ofText "B.java" "package a;\nclass B \x7b\x7d"

theorem plain_package_is_read : ∃ l,
    (Corpus.mk [plainPackage]).resolveQualified? "a.B" = some (.declared l) ∧
      l.qualifiedName = "a.B" := by
  have hparses : plainPackage.tree.toOption.isSome = true := by decide +kernel
  have hshape : ∀ tree ∈ plainPackage.tree.toOption,
      tree.children.map Java.Tree.kind = [.packageDeclaration, .classDeclaration] ∧
      (∀ t ∈ tree.children.head?, packagePlace plainPackage.text [] t = [] ∧
        t.isPlainPackage = true) ∧
      (CompilationUnit.ofTree tree).types.map (·.name) = ["B"] := by
    decide +kernel
  have hfound : ((Corpus.mk [plainPackage]).resolveQualified? "a.B").bind (fun r =>
      r.declaration?.map fun l => (l.file, l.path)) = some (0, [0]) := by decide +kernel
  obtain ⟨tree, htree⟩ := Option.isSome_iff_exists.1 hparses
  obtain ⟨hkinds, hfirst, htypes⟩ := hshape tree htree
  have hok : plainPackage.tree = .ok tree := SourceFile.tree_eq_ok htree
  have hfile : (Corpus.mk [plainPackage]).files[0]? = some plainPackage := rfl
  obtain ⟨-, hdeclared, -, hnamed⟩ := package_readings (Corpus.mk [plainPackage]) hfile hok
  obtain ⟨t, rest, hchildren, hkind, hrest⟩ := List.map_eq_cons_iff.1 hkinds
  obtain ⟨later, _, rfl, hlater, hnil⟩ := List.map_eq_cons_iff.1 hrest
  obtain rfl := List.map_eq_nil_iff.1 hnil
  obtain ⟨hplace, hplain⟩ := hfirst t (by rw [hchildren]; rfl)
  have hpackage := hdeclared t [] [later] ⟨hkind, [], hchildren, hplace.symm⟩
    (by simp [hlater]) ⟨[], [], rfl, .inl rfl, by simp⟩ hplain fun _ _ _ => Nat.zero_le _
  obtain ⟨r, hr, hl⟩ := Option.bind_eq_some_iff.1 hfound
  obtain ⟨l, hdeclaration, hplace⟩ := Option.map_eq_some_iff.1 hl
  rw [Prod.mk.injEq] at hplace
  cases r with
  | external name => cases hdeclaration
  | declared d =>
    cases hdeclaration
    obtain ⟨b, hb, hname⟩ := List.map_eq_singleton_iff.1 htypes
    refine ⟨l, hr, hnamed hpackage "a.B" l 0 [] b hr hplace.1 hplace.2 (by rw [hb]; rfl) ?_⟩
    rw [hname]
    decide +kernel

def commentedPackage : SourceFile :=
  .ofText "A.java" "/*\npackage old;\n*/\npackage a;\nclass A \x7b\x7d"

/-- The search takes the package line of a comment for that of the file. The file's type is then
found under a name that is not its own, and not under its own. -/
theorem package_line_in_comment : commentedPackage.package = some "old" ∧
    commentedPackage.unit.map (·.package) = some (some "a") ∧
    ((Corpus.mk [commentedPackage]).resolveQualified? "old.A").map (·.qualifiedName) =
      some "a.A" ∧
    ((Corpus.mk [commentedPackage]).resolveQualified? "a.A").map (·.qualifiedName) = none := by
  decide +kernel

end Corpus

end ApiRecovery
