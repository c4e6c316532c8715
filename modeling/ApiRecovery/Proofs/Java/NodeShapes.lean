import ApiRecovery.Java.Declaration.OfTree
import ApiRecovery.Proofs.Java.Derivation

/-!
# The shapes of declarations

Which children the nodes of some kinds have, read off the rules of the grammar: the name of a
declaration is a single word, and a package declaration is its annotations, the keyword, a dotted
name and a semicolon, with comments between them.
-/

open ApiRecovery.Java.Parser ApiRecovery.Java.Tree

namespace ApiRecovery.Java

/-! ## What each rule derives -/

section Inversion

variable {σ : Type} {rules : σ → Rule σ} {r s : Rule σ} {xs : List Tree}

theorem derives_seq : Derives rules (.seq r s) xs ↔
    ∃ ys zs, Derives rules r ys ∧ Derives rules s zs ∧ xs = ys ++ zs := by
  constructor
  · intro h
    cases h with
    | seq hr hs => exact ⟨_, _, hr, hs, rfl⟩
  · rintro ⟨ys, zs, hr, hs, rfl⟩
    exact .seq hr hs

theorem derives_alt : Derives rules (.alt r s) xs ↔ Derives rules r xs ∨ Derives rules s xs := by
  constructor
  · intro h
    cases h with
    | left hr => exact .inl hr
    | right hs => exact .inr hs
  · rintro (hr | hs)
    · exact .left hr
    · exact .right hs

theorem derives_role {role : Role} : Derives rules (.role role r) xs ↔
    ∃ ys, Derives rules r ys ∧ xs = ys.map (withRole role) := by
  constructor
  · intro h
    cases h with
    | role hr => exact ⟨_, hr, rfl⟩
  · rintro ⟨ys, hr, rfl⟩
    exact .role hr

theorem derives_node {kind : Kind} : Derives rules (.node kind r) xs ↔
    ∃ ys, Derives rules r ys ∧ xs = wrap kind ys := by
  constructor
  · intro h
    cases h with
    | node hr => exact ⟨_, hr, rfl⟩
  · rintro ⟨ys, hr, rfl⟩
    exact .node hr

theorem derives_call {symbol : σ} :
    Derives rules (.call symbol) xs ↔ Derives rules (rules symbol) xs := by
  constructor
  · intro h
    cases h with
    | call hr => exact hr
  · exact .call

theorem derives_keyword {w : String} :
    Derives rules (.keyword w) xs ↔ IsOneToken (·.isWord w) .anonymous xs := by
  constructor
  · intro h
    cases h with
    | keyword hw => exact hw
  · exact .keyword

theorem derives_mark {m : String} :
    Derives rules (.mark m) xs ↔ IsOneToken (·.isMark m) .anonymous xs := by
  constructor
  · intro h
    cases h with
    | mark hm => exact hm
  · exact .mark

theorem derives_name {kind : Kind} {except : List String} : Derives rules (.name kind except) xs ↔
    IsOneToken (fun t => t.cls == .word && !except.contains t.text) kind xs := by
  constructor
  · intro h
    cases h with
    | name hn => exact hn
  · exact .name

end Inversion

/-! ## What the Java grammar makes -/

namespace Rule

variable {σ : Type}

def givesNoRole : Rule σ → Bool
  | empty | keyword _ | name _ _ | mark _ | operator _ | token _ _ | node _ _ => true
  | seq r s | alt r s => r.givesNoRole && s.givesNoRole
  | many r => r.givesNoRole
  | role _ _ | call _ | chain _ _ => false

/-- Whether the first part that the rule gives is that of the name, to a single word. -/
def leadsToName : Rule σ → Bool
  | role .name (name _ _) => true
  | seq r s => r.leadsToName || (r.givesNoRole && s.leadsToName)
  | _ => false

end Rule

namespace Grammar

def describesPackage : JavaRule → Bool
  | .seq (.many (.call .annotationUse))
      (.seq (.keyword "package") (.seq (.call .qualifiedName) (.mark ";"))) => true
  | _ => false

/-- Whether the node is none that could be taken for a comment, and one of the expected shape if it
is a declaration of a type or of the package. -/
def isWellShaped (made : Kind × Option JavaRule) : Bool :=
  made.1 != .comment &&
    ((declarationKind? made.1).isNone || (made.2.map Rule.leadsToName).getD false) &&
    (made.1 != .packageDeclaration || (made.2.map describesPackage).getD false)

theorem kind_of_mem_operationLinks {level : Nat} {arrows : Bool} {link : Link Symbol}
    (h : link ∈ operationLinks level arrows) :
    link.kind = .binaryExpression ∨ link.kind = .instanceofExpression := by
  rcases List.mem_append.1 h with h | h
  · obtain ⟨operator, -, rfl⟩ := List.mem_map.1 h
    exact .inl rfl
  · split at h
    · rw [List.mem_singleton.1 h]
      exact .inr rfl
    · cases h

theorem isWellShaped_operationLinks (level : Nat) (arrows : Bool) :
    ((operationLinks level arrows).map fun link => (link.kind, none)).all isWellShaped = true := by
  rw [List.all_eq_true]
  intro made hmade
  obtain ⟨link, hlink, rfl⟩ := List.mem_map.1 hmade
  rcases kind_of_mem_operationLinks hlink with hkind | hkind
  · rw [hkind]
    rfl
  · rw [hkind]
    rfl

theorem all_isWellShaped (symbol : Symbol) : (rules symbol).makes.all isWellShaped = true := by
  cases symbol with
  | operation level arrows => exact isWellShaped_operationLinks level arrows
  | operationTail operator level arrows => rfl
  | expression arrows | unary arrows | primary arrows | ternaryTail arrows
  | assignmentTail arrows =>
    cases arrows <;> decide +kernel
  | _ => decide +kernel

end Grammar

/-! ## Comments and parts -/

section Parts

variable {σ : Type} {rules : σ → Rule σ} {r : Rule σ} {xs ys : List Tree} {t : Tree}

theorem AreComments.isComment (h : AreComments xs) : ∀ x ∈ xs, x.isComment = true := by
  intro x hx
  obtain ⟨t, -, rfl⟩ := h x hx
  rfl

theorem AreComments.role_eq (h : AreComments xs) : ∀ x ∈ xs, x.role = none := by
  intro x hx
  obtain ⟨t, -, rfl⟩ := h x hx
  rfl

theorem AreComments.cls_eq (h : AreComments xs) : ∀ t ∈ tokensOfAll xs, t.cls = .comment := by
  induction xs with
  | nil => simp [tokensOfAll]
  | cons x xs ih =>
    obtain ⟨hx, hxs⟩ := List.forall_mem_cons.1 h
    obtain ⟨t, ht, rfl⟩ := hx
    exact List.forall_mem_cons.2 ⟨ht, ih hxs⟩

/-- Comments play no part, also where what they stand in does. -/
theorem AreComments.map_withRole (h : AreComments xs) (role : Role) :
    xs.map (withRole role) = xs := by
  refine List.map_congr_left (fun x hx => ?_) |>.trans (List.map_id xs)
  obtain ⟨t, -, rfl⟩ := h x hx
  rfl

theorem wrap_comments (h : AreComments xs) (ht : t.isComment = false) (kind : Kind) :
    wrap kind (xs ++ t :: ys) = xs ++ [.node none kind (t :: ys)] := by
  have htake : (xs ++ t :: ys).takeWhile isComment = xs := by
    rw [List.takeWhile_append_of_pos h.isComment, List.takeWhile_cons_of_neg (by simp [ht]),
      List.append_nil]
  have hdrop : (xs ++ t :: ys).dropWhile isComment = t :: ys := by
    rw [List.dropWhile_append_of_pos h.isComment, List.dropWhile_cons_of_neg (by simp [ht])]
  rw [wrap, htake, hdrop]

theorem find?_dropWhile {α : Type} {p q : α → Bool} {l : List α}
    (h : ∀ x ∈ l, p x = true → q x = false) : (l.dropWhile p).find? q = l.find? q := by
  induction l with
  | nil => rfl
  | cons x l ih =>
    obtain ⟨hx, hl⟩ := List.forall_mem_cons.1 h
    by_cases hp : p x = true
    · rw [List.dropWhile_cons_of_pos hp, ih hl, List.find?_cons, hx hp]
    · rw [List.dropWhile_cons_of_neg hp]

variable (hrules : ∀ symbol, ∀ made ∈ (rules symbol).makes, made.1 ≠ .comment)

include hrules

theorem Derives.role_eq_none (h : Derives rules r xs)
    (hr : ∀ made ∈ r.makes, made.1 ≠ .comment) (hno : r.givesNoRole = true) :
    ∀ x ∈ xs, x.role = none := by
  have one : ∀ {test : Token → Bool} {kind : Kind} {xs : List Tree}, IsOneToken test kind xs →
      ∀ x ∈ xs, x.role = none := by
    rintro test kind xs ⟨comments, t, hcomments, -, rfl⟩
    exact List.forall_mem_append.2 ⟨hcomments.role_eq, by simp [Tree.role]⟩
  induction h with
  | empty | done => simp
  | keyword h | name h | mark h | token h => exact one h
  | operator marks hcomments =>
    exact List.forall_mem_append.2 ⟨hcomments.role_eq, by simp [Tree.role]⟩
  | seq _ _ ih ih' =>
    simp only [Rule.givesNoRole, Bool.and_eq_true] at hno
    exact List.forall_mem_append.2 ⟨ih (fun made hm => hr made (List.mem_append_left _ hm)) hno.1,
      ih' (fun made hm => hr made (List.mem_append_right _ hm)) hno.2⟩
  | left _ ih =>
    simp only [Rule.givesNoRole, Bool.and_eq_true] at hno
    exact ih (fun made hm => hr made (List.mem_append_left _ hm)) hno.1
  | right _ ih =>
    simp only [Rule.givesNoRole, Bool.and_eq_true] at hno
    exact ih (fun made hm => hr made (List.mem_append_right _ hm)) hno.2
  | again _ _ ih ih' => exact List.forall_mem_append.2 ⟨ih hr hno, ih' hr hno⟩
  | @node kind r xs hbody _ =>
    have hcomments := hbody.forall_mem preserved_comment hrules
      fun made hm => hr made (List.mem_cons_of_mem _ hm)
    refine List.forall_mem_append.2 ⟨fun x hx => ?_, by simp [Tree.role]⟩
    have hc := List.all_eq_true.1 List.all_takeWhile x hx
    obtain ⟨t, -, rfl⟩ := hcomments x (List.takeWhile_subset _ hx) hc
    rfl
  | role | call | base | link => cases hno

/-- Where a rule leads to a name, the first tree that plays a part is that name. -/
theorem Derives.exists_name (h : Derives rules r xs)
    (hr : ∀ made ∈ r.makes, made.1 ≠ .comment) (hname : r.leadsToName = true) :
    ∃ before kind t after, xs = before ++ .leaf (some .name) kind t :: after ∧
      (∀ x ∈ before, x.role = none) ∧ t.cls = .word := by
  induction r generalizing xs with
  | role role r ih =>
    unfold Rule.leadsToName at hname
    split at hname
    · rename_i kind except heq
      cases heq
      obtain ⟨ys, hys, rfl⟩ := derives_role.1 h
      obtain ⟨comments, t, hcomments, ht, rfl⟩ := derives_name.1 hys
      have hkind : kind ≠ .comment := hr _ (List.mem_singleton_self _)
      simp only [Bool.and_eq_true, beq_iff_eq] at ht
      refine ⟨comments, kind, t, [], ?_, hcomments.role_eq, ht.1⟩
      simp [hcomments.map_withRole, withRole, hkind]
    · rename_i heq
      cases heq
    · cases hname
  | seq r s ihr ihs =>
    have hr₁ : ∀ made ∈ r.makes, made.1 ≠ .comment := fun made hm =>
      hr made (List.mem_append_left _ hm)
    have hr₂ : ∀ made ∈ s.makes, made.1 ≠ .comment := fun made hm =>
      hr made (List.mem_append_right _ hm)
    obtain ⟨ys, zs, hys, hzs, rfl⟩ := derives_seq.1 h
    simp only [Rule.leadsToName, Bool.or_eq_true, Bool.and_eq_true] at hname
    rcases hname with hname | ⟨hno, hname⟩
    · obtain ⟨before, kind, t, after, rfl, hbefore, ht⟩ := ihr hys hr₁ hname
      exact ⟨before, kind, t, after ++ zs, by simp, hbefore, ht⟩
    · obtain ⟨before, kind, t, after, rfl, hbefore, ht⟩ := ihs hzs hr₂ hname
      have hys' := hys.role_eq_none hrules hr₁ hno
      exact ⟨ys ++ before, kind, t, after, by simp, List.forall_mem_append.2 ⟨hys', hbefore⟩, ht⟩
  | _ => cases hname

end Parts

/-! ## Names of declarations -/

theorem Rule.makes_subset {σ : Type} {r s : Rule σ} {kind : Kind}
    (h : (kind, some r) ∈ s.makes) : r.makes ⊆ s.makes := by
  induction s with
  | empty | call _ => cases h
  | keyword | name | mark | operator | token => simp [Rule.makes] at h
  | seq s s' ih ih' | alt s s' ih ih' =>
    rcases List.mem_append.1 h with h | h
    · exact fun made hm => List.mem_append_left _ (ih h hm)
    · exact fun made hm => List.mem_append_right _ (ih' h hm)
  | many s ih | role _ s ih => exact ih h
  | node kind' s ih =>
    rcases List.mem_cons.1 h with heq | h
    · cases heq
      exact fun made hm => List.mem_cons_of_mem _ hm
    · exact fun made hm => List.mem_cons_of_mem _ (ih h hm)
  | chain base links ih =>
    rcases List.mem_append.1 h with h | h
    · exact fun made hm => List.mem_append_left _ (ih h hm)
    · obtain ⟨link, -, heq⟩ := List.mem_map.1 h
      cases heq

theorem isWellShaped_of_mem {symbol : Grammar.Symbol} {kind : Kind}
    {body : Option Grammar.JavaRule} (h : (kind, body) ∈ (Grammar.rules symbol).makes) :
    kind ≠ .comment ∧
      ((declarationKind? kind).isSome → ∃ r, body = some r ∧ r.leadsToName = true) ∧
      (kind = .packageDeclaration → ∃ r, body = some r ∧ Grammar.describesPackage r = true) := by
  have hshape := List.all_eq_true.1 (Grammar.all_isWellShaped symbol) _ h
  simp only [Grammar.isWellShaped, Bool.and_eq_true, Bool.or_eq_true, bne_iff_ne] at hshape
  obtain ⟨⟨hcomment, hname⟩, hpackage⟩ := hshape
  refine ⟨hcomment, fun hdeclaration => ?_, fun hkind => ?_⟩
  · rcases hname with hname | hname
    · rw [Option.isNone_iff_eq_none] at hname
      simp [hname] at hdeclaration
    · cases body with
      | none => cases hname
      | some r => exact ⟨r, rfl, hname⟩
  · rcases hpackage with hpackage | hpackage
    · exact absurd hkind hpackage
    · cases body with
      | none => cases hpackage
      | some r => exact ⟨r, rfl, hpackage⟩

theorem makes_ne_comment (symbol : Grammar.Symbol) :
    ∀ made ∈ (Grammar.rules symbol).makes, made.1 ≠ .comment :=
  fun _ h => (isWellShaped_of_mem h).1

def IsNamedByWord (kind : Kind) (children : List Tree) : Prop :=
  (declarationKind? kind).isSome → ∃ kind' t, t.cls = .word ∧
    children.find? (fun c => c.role == some .name) = some (.leaf (some .name) kind' t)

theorem fits_isNamedByWord (symbol : Grammar.Symbol) :
    ∀ made ∈ (Grammar.rules symbol).makes, Rule.Fits Grammar.rules IsNamedByWord made := by
  rintro ⟨kind, body⟩ hmade
  obtain ⟨-, hname, -⟩ := isWellShaped_of_mem hmade
  cases body with
  | none =>
    intro children hdeclaration
    obtain ⟨r, heq, -⟩ := hname hdeclaration
    cases heq
  | some body =>
    intro xs hxs hdeclaration
    obtain ⟨r, heq, hleads⟩ := hname hdeclaration
    cases heq
    have hr : ∀ made ∈ body.makes, made.1 ≠ .comment := fun made hm =>
      makes_ne_comment symbol made (Rule.makes_subset hmade hm)
    have hcomments := hxs.forall_mem preserved_comment makes_ne_comment hr
    obtain ⟨before, kind', t, after, rfl, hbefore, ht⟩ :=
      hxs.exists_name makes_ne_comment hr hleads
    refine ⟨kind', t, ht, ?_⟩
    rw [find?_dropWhile]
    · have hnone : before.find? (fun c => c.role == some .name) = none := by
        rw [List.find?_eq_none]
        intro x hx
        simp [hbefore x hx]
      rw [List.find?_append, hnone]
      rfl
    · intro x hx hc
      obtain ⟨t, -, rfl⟩ := hcomments x hx hc
      rfl

/-! ## Package declarations -/

inductive IsDottedTail : List Token → Prop
  | nil : IsDottedTail []
  | cons {comments comments' ts : List Token} {dot word : Token} :
      (∀ t ∈ comments, t.cls = .comment) → dot.isMark "." = true →
      (∀ t ∈ comments', t.cls = .comment) → word.cls = .word → IsDottedTail ts →
      IsDottedTail (comments ++ dot :: (comments' ++ word :: ts))

theorem IsDottedTail.append {ts us : List Token} (hts : IsDottedTail ts) (hus : IsDottedTail us) :
    IsDottedTail (ts ++ us) := by
  induction hts with
  | nil => exact hus
  | cons hcomments hdot hcomments' hword _ ih =>
    simpa using IsDottedTail.cons hcomments hdot hcomments' hword ih

def IsDottedName (t : Tree) : Prop :=
  (t.kind = .identifier ∨ t.kind = .scopedIdentifier) ∧
    ∃ word ts, t.tokens = word :: ts ∧ word.cls = .word ∧ IsDottedTail ts

theorem exists_dottedName {xs : List Tree}
    (h : Derives Grammar.rules (.call .qualifiedName) xs) :
    ∃ comments t, AreComments comments ∧ IsDottedName t ∧ xs = comments ++ [t] := by
  rw [derives_call] at h
  generalize hr : Grammar.rules .qualifiedName = r at h
  -- on the derivation, for the chain's own rule only
  induction h with
  | base hbase =>
    cases hr
    obtain ⟨comments, t, hcomments, ht, rfl⟩ := derives_name.1 hbase
    simp only [Bool.and_eq_true, beq_iff_eq] at ht
    exact ⟨comments, _, hcomments, ⟨.inl rfl, t, [], rfl, ht.1, .nil⟩, rfl⟩
  | @link base links xs ys link _ hlink htail ih _ =>
    cases hr
    obtain ⟨comments, t, hcomments, ⟨hkind, first, ts, htokens, hfirst, hts⟩, rfl⟩ := ih rfl
    obtain rfl := List.mem_singleton.1 hlink
    obtain ⟨as, bs, has, hbs, rfl⟩ := derives_seq.1 htail
    obtain ⟨cs, dot, hcs, hdot, rfl⟩ := derives_mark.1 has
    obtain ⟨ws, hws, rfl⟩ := derives_role.1 hbs
    obtain ⟨cs', word, hcs', hword, rfl⟩ := derives_name.1 hws
    simp only [Bool.and_eq_true, beq_iff_eq] at hword
    have hseed : seeded (⟨.scopedIdentifier, some .scope, [], .qualifiedNameTail⟩ :
        Link Grammar.Symbol) (comments ++ [t]) = comments ++ [t.withRole .scope] := by
      simp [seeded, hcomments.map_withRole]
    have hnot : (t.withRole .scope).isComment = false := by
      cases t <;> rcases hkind with hkind | hkind <;> cases hkind <;> rfl
    rw [hseed, List.append_assoc, List.singleton_append, wrap_comments hcomments hnot]
    refine ⟨comments, _, hcomments, ⟨.inr rfl, first, ?_⟩, rfl⟩
    refine ⟨ts ++ (tokensOfAll cs ++ dot :: (tokensOfAll cs' ++ [word])), ?_, hfirst, ?_⟩
    · simp [tokens, tokensOfAll, tokensOfAll_append, htokens]
    · exact hts.append (.cons hcs.cls_eq hdot hcs'.cls_eq hword.1 .nil)
  | _ => cases hr

/-- The parts of a package declaration: annotations, the keyword, the name and a semicolon, and the
comments between them. -/
structure PackageParts (children before : List Tree) (keyword : Token) (gap : List Tree)
    (name : Tree) (gap' : List Tree) (semicolon : Token) : Prop where
  children_eq : children = before ++ .leaf none .anonymous keyword ::
    (gap ++ name :: (gap' ++ [.leaf none .anonymous semicolon]))
  before : ∀ x ∈ before,
    x.kind = .comment ∨ x.kind = .annotationCall ∨ x.kind = .annotationMarker
  keyword : keyword.isWord "package" = true
  gap : AreComments gap
  name : IsDottedName name
  gap' : AreComments gap'
  semicolon : semicolon.isMark ";" = true

theorem kind_of_mem_wrap {kind : Kind} {x : Tree} {xs : List Tree} (h : x ∈ wrap kind xs) :
    x.kind = .comment ∨ x.kind = kind := by
  rcases List.mem_append.1 h with h | h
  · have hc := List.all_eq_true.1 List.all_takeWhile x h
    exact .inl (by simpa [isComment] using hc)
  · rw [List.mem_singleton.1 h]
    exact .inr rfl

theorem kind_of_annotations {xs : List Tree}
    (h : Derives Grammar.rules (.many (.call .annotationUse)) xs) : ∀ x ∈ xs,
      x.kind = .comment ∨ x.kind = .annotationCall ∨ x.kind = .annotationMarker := by
  generalize hr : Rule.many (.call Grammar.Symbol.annotationUse) = r at h
  induction h with
  | done => simp
  | again hx _ _ ih =>
    cases hr
    refine List.forall_mem_append.2 ⟨?_, ih rfl⟩
    rcases derives_alt.1 (derives_call.1 hx) with hx | hx
    · obtain ⟨ys, -, rfl⟩ := derives_node.1 hx
      exact fun x hx => (kind_of_mem_wrap hx).imp_right .inl
    · obtain ⟨ys, -, rfl⟩ := derives_node.1 hx
      exact fun x hx => (kind_of_mem_wrap hx).imp_right .inr
  | _ => cases hr

theorem dropWhile_append_cons {α : Type} {p : α → Bool} {y : α} (hy : p y = false)
    (xs ys : List α) : (xs ++ y :: ys).dropWhile p = xs.dropWhile p ++ y :: ys := by
  induction xs with
  | nil => rw [List.nil_append, List.dropWhile_cons_of_neg (by simp [hy]), List.dropWhile_nil,
      List.nil_append]
  | cons x xs ih =>
    rw [List.cons_append]
    by_cases hx : p x = true
    · rw [List.dropWhile_cons_of_pos hx, List.dropWhile_cons_of_pos hx, ih]
    · rw [List.dropWhile_cons_of_neg hx, List.dropWhile_cons_of_neg hx, List.cons_append]

def HasPackageParts (kind : Kind) (children : List Tree) : Prop :=
  kind = .packageDeclaration → ∃ before keyword gap name gap' semicolon,
    PackageParts children before keyword gap name gap' semicolon

theorem exists_packageParts {r : Grammar.JavaRule} {xs : List Tree}
    (h : Derives Grammar.rules r xs) (hr : Grammar.describesPackage r = true) :
    ∃ before keyword gap name gap' semicolon,
      PackageParts (xs.dropWhile isComment) before keyword gap name gap' semicolon := by
  unfold Grammar.describesPackage at hr
  split at hr
  · obtain ⟨as, ys, has, hys, rfl⟩ := derives_seq.1 h
    obtain ⟨ks, zs, hks, hzs, rfl⟩ := derives_seq.1 hys
    obtain ⟨ns, ms, hns, hms, rfl⟩ := derives_seq.1 hzs
    obtain ⟨cs, keyword, hcs, hkeyword, rfl⟩ := derives_keyword.1 hks
    obtain ⟨gap, name, hgap, hname, rfl⟩ := exists_dottedName hns
    obtain ⟨gap', semicolon, hgap', hsemicolon, rfl⟩ := derives_mark.1 hms
    have hbefore : ∀ x ∈ as ++ cs,
        x.kind = .comment ∨ x.kind = .annotationCall ∨ x.kind = .annotationMarker := by
      refine List.forall_mem_append.2 ⟨kind_of_annotations has, fun x hx => ?_⟩
      obtain ⟨t, -, rfl⟩ := hcs x hx
      exact .inl rfl
    refine ⟨(as ++ cs).dropWhile isComment, keyword, gap, name, gap', semicolon, ?_,
      fun x hx => hbefore x (List.dropWhile_subset _ hx), hkeyword, hgap, hname, hgap', hsemicolon⟩
    have hkeyword' : (leaf none .anonymous keyword).isComment = false := rfl
    simpa using dropWhile_append_cons hkeyword' (as ++ cs)
      (gap ++ name :: (gap' ++ [leaf none .anonymous semicolon]))
  · cases hr

theorem fits_hasPackageParts (symbol : Grammar.Symbol) :
    ∀ made ∈ (Grammar.rules symbol).makes, Rule.Fits Grammar.rules HasPackageParts made := by
  rintro ⟨kind, body⟩ hmade
  obtain ⟨-, -, hpackage⟩ := isWellShaped_of_mem hmade
  cases body with
  | none =>
    intro children hkind
    obtain ⟨r, heq, -⟩ := hpackage hkind
    cases heq
  | some body =>
    intro xs hxs hkind
    obtain ⟨r, heq, hdescribes⟩ := hpackage hkind
    cases heq
    exact exists_packageParts hxs hdescribes

/-! ## The tree of a text -/

/-- What the nodes have that the grammar makes, all trees in the tree of a text have. -/
theorem everywhere_of_tree {p : Kind → List Tree → Prop} (hcomment : p .comment [])
    (hfits : ∀ symbol, ∀ made ∈ (Grammar.rules symbol).makes, Rule.Fits Grammar.rules p made)
    {source : String} {tree : Tree} (h : tree? source = .ok tree) :
    ∀ t ∈ tree.children, t.Everywhere p := by
  obtain ⟨read, comments, rfl, hread, hcomments, -⟩ := derives_of_tree h
  have hpreserved : Preserved Grammar.rules (Rule.Fits Grammar.rules p) (Everywhere p) :=
    preserved_everywhere hcomment
  exact List.forall_mem_append.2 ⟨hread.forall_mem hpreserved hfits (by simp [Rule.makes]),
    hpreserved.comments hcomments⟩

theorem namedByWord_of_tree {source : String} {tree : Tree} (h : tree? source = .ok tree) :
    ∀ t ∈ tree.children, t.Everywhere IsNamedByWord :=
  everywhere_of_tree (fun hkind => by cases hkind) fits_isNamedByWord h

theorem packageParts_of_tree {source : String} {tree : Tree} (h : tree? source = .ok tree) :
    ∀ t ∈ tree.children, t.Everywhere HasPackageParts :=
  everywhere_of_tree (fun hkind => by cases hkind) fits_hasPackageParts h

end ApiRecovery.Java
