import ApiRecovery.Java.Source

/-!
# Derivations

What a grammar derives, as a relation between a rule and trees. It forgets in which order the reader
tries the alternatives. Whatever the reader reads is derived, and spells the tokens that are gone
from its input; so what every derivation has, every tree of a text has.
-/

open ApiRecovery.Java.Parser ApiRecovery.Java.Tree

namespace ApiRecovery.Java

def AreComments (xs : List Tree) : Prop :=
  ∀ x ∈ xs, ∃ t : Token, t.cls = .comment ∧ x = .leaf none .comment t

/-- The trees are comments and then one leaf, whose token satisfies `p`. -/
def IsOneToken (p : Token → Bool) (kind : Kind) (xs : List Tree) : Prop :=
  ∃ comments t, AreComments comments ∧ p t = true ∧ xs = comments ++ [.leaf none kind t]

/-- The trees are what the rule describes. -/
inductive Derives {σ : Type} (rules : σ → Rule σ) : Rule σ → List Tree → Prop
  | empty : Derives rules .empty []
  | keyword {w xs} : IsOneToken (·.isWord w) .anonymous xs → Derives rules (.keyword w) xs
  | name {kind except xs} :
      IsOneToken (fun t => t.cls == .word && !except.contains t.text) kind xs →
      Derives rules (.name kind except) xs
  | mark {m xs} : IsOneToken (·.isMark m) .anonymous xs → Derives rules (.mark m) xs
  | operator {o comments} (marks : List Token) : AreComments comments →
      Derives rules (.operator o)
        (comments ++ [.node none .anonymous (marks.map (.leaf none .anonymous))])
  | token {kind cls xs} : IsOneToken (·.cls == cls) kind xs → Derives rules (.token kind cls) xs
  | seq {r s xs ys} : Derives rules r xs → Derives rules s ys → Derives rules (.seq r s) (xs ++ ys)
  | left {r s xs} : Derives rules r xs → Derives rules (.alt r s) xs
  | right {r s xs} : Derives rules s xs → Derives rules (.alt r s) xs
  | done {r} : Derives rules (.many r) []
  | again {r xs ys} : Derives rules r xs → Derives rules (.many r) ys →
      Derives rules (.many r) (xs ++ ys)
  | role {role r xs} : Derives rules r xs → Derives rules (.role role r) (xs.map (.withRole role))
  | node {kind r xs} : Derives rules r xs → Derives rules (.node kind r) (wrap kind xs)
  | call {symbol xs} : Derives rules (rules symbol) xs → Derives rules (.call symbol) xs
  | base {base links xs} : Derives rules base xs → Derives rules (.chain base links) xs
  | link {base links xs ys} {link : Link σ} : Derives rules (.chain base links) xs →
      link ∈ links → Derives rules (rules link.tail) ys →
      Derives rules (.chain base links) (wrap link.kind (seeded link xs ++ ys))

section Reading

variable {σ : Type} {rules : σ → Rule σ} {bound : Nat} {ts rest : List Token} {xs : List Tree}

@[simp] theorem tokensOfAll_map_withRole (role : Role) (xs : List Tree) :
    tokensOfAll (xs.map (withRole role)) = tokensOfAll xs := by
  induction xs with
  | nil => rfl
  | cons x xs ih => simp [tokensOfAll, ih]

theorem tokensOfAll_wrap (kind : Kind) (xs : List Tree) :
    tokensOfAll (wrap kind xs) = tokensOfAll xs := by
  have hxs : tokensOfAll (xs.takeWhile isComment) ++ tokensOfAll (xs.dropWhile isComment) =
      tokensOfAll xs := by
    rw [← tokensOfAll_append, List.takeWhile_append_dropWhile]
  simpa [wrap, tokensOfAll_append, tokensOfAll, tokens] using hxs

theorem tokensOfAll_seeded (link : Link σ) (xs : List Tree) :
    tokensOfAll (seeded link xs) = tokensOfAll xs := by
  unfold seeded
  split <;> simp

theorem tokensOfAll_leaves (marks : List Token) :
    tokensOfAll (marks.map (.leaf none .anonymous)) = marks := by
  induction marks with
  | nil => rfl
  | cons t marks ih => simp [tokensOfAll, tokens, ih]

theorem leadingComments_sound (ts : List Token) : AreComments (leadingComments ts).1 ∧
    ts = tokensOfAll (leadingComments ts).1 ++ (leadingComments ts).2 := by
  induction ts with
  | nil => simp [leadingComments, AreComments, tokensOfAll]
  | cons t ts ih =>
    obtain ⟨hcomments, hts⟩ := ih
    by_cases ht : t.cls = .comment
    · simp only [leadingComments, ht, beq_self_eq_true, if_true]
      refine ⟨?_, by simpa [tokensOfAll, tokens] using hts⟩
      intro x hx
      rcases List.mem_cons.1 hx with rfl | hx
      · exact ⟨t, ht, rfl⟩
      · exact hcomments x hx
    · simp [leadingComments, ht, AreComments, tokensOfAll]

theorem readOne_sound {p : Token → Bool} {kind : Kind} (h : readOne p kind ts = some (xs, rest)) :
    IsOneToken p kind xs ∧ ts = tokensOfAll xs ++ rest := by
  have hleading := leadingComments_sound ts
  unfold readOne at h
  split at h
  · rename_i comments t after heq
    rw [heq] at hleading
    split at h
    · rename_i hp
      cases h
      refine ⟨⟨comments, t, hleading.1, hp, rfl⟩, ?_⟩
      simpa [tokensOfAll_append, tokensOfAll, tokens] using hleading.2
    · cases h
  · cases h

theorem readMarks_sound {cs : List Char} (h : readMarks cs ts = some (xs, rest)) :
    ∃ marks : List Token, xs = marks.map (.leaf none .anonymous) ∧ ts = marks ++ rest := by
  induction cs generalizing ts xs with
  | nil =>
    cases h
    exact ⟨[], rfl, rfl⟩
  | cons c cs ih =>
    cases ts with
    | nil => cases h
    | cons t ts =>
      simp only [readMarks] at h
      split at h
      · obtain ⟨⟨ys, after⟩, hys, heq⟩ := Option.map_eq_some_iff.1 h
        cases heq
        obtain ⟨marks, rfl, rfl⟩ := ih hys
        exact ⟨t :: marks, rfl, rfl⟩
      · cases h

theorem readOperator_sound {o : String} (h : readOperator o ts = some (xs, rest)) :
    Derives rules (.operator o) xs ∧ ts = tokensOfAll xs ++ rest := by
  obtain ⟨hcomments, hts⟩ := leadingComments_sound ts
  unfold readOperator at h
  dsimp only at h
  split at h
  · cases h
  · rename_i leaves after hmarks
    split at h
    · cases h
    · cases h
      obtain ⟨marks, rfl, hafter⟩ := readMarks_sound hmarks
      refine ⟨.operator marks hcomments, ?_⟩
      rw [hafter] at hts
      simpa [tokensOfAll_append, tokensOfAll, tokens, tokensOfAll_leaves] using hts

/-- What is true of the reader at a bound: it derives, and it loses no token. -/
structure ReadsSoundly (rules : σ → Rule σ) (bound : Nat) : Prop where
  run : ∀ {r ts xs rest}, Parser.run rules bound r ts = some (xs, rest) →
    Derives rules r xs ∧ ts = tokensOfAll xs ++ rest
  chain : ∀ {base all links seed ts xs rest},
    runChain rules bound links seed ts = some (xs, rest) → links ⊆ all →
    Derives rules (.chain base all) seed →
    Derives rules (.chain base all) xs ∧ tokensOfAll seed ++ ts = tokensOfAll xs ++ rest
  link : ∀ {base all links seed ts xs rest},
    runLink rules bound links seed ts = some (xs, rest) → links ⊆ all →
    Derives rules (.chain base all) seed →
    Derives rules (.chain base all) xs ∧ tokensOfAll seed ++ ts = tokensOfAll xs ++ rest

theorem readsSoundly_zero : ReadsSoundly rules 0 := by
  constructor
  · intro r ts xs rest h
    simp [Parser.run] at h
  · intro base all links seed ts xs rest h
    simp [runChain] at h
  · intro base all links seed ts xs rest h
    simp [runLink] at h

theorem run_succ_sound (ih : ReadsSoundly rules bound) {r : Rule σ}
    (h : Parser.run rules (bound + 1) r ts = some (xs, rest)) :
    Derives rules r xs ∧ ts = tokensOfAll xs ++ rest := by
  cases r with
  | empty =>
    simp only [Parser.run] at h
    cases h
    exact ⟨.empty, rfl⟩
  | keyword w => exact (readOne_sound h).imp_left .keyword
  | name kind except => exact (readOne_sound h).imp_left .name
  | mark m => exact (readOne_sound h).imp_left .mark
  | operator o => exact readOperator_sound h
  | token kind cls => exact (readOne_sound h).imp_left .token
  | seq r s =>
    simp only [Parser.run] at h
    split at h
    · cases h
    · rename_i ys after hr
      split at h
      · cases h
      · rename_i zs after' hs
        cases h
        obtain ⟨hys, rfl⟩ := ih.run hr
        obtain ⟨hzs, rfl⟩ := ih.run hs
        exact ⟨.seq hys hzs, by simp [tokensOfAll_append]⟩
  | alt r s =>
    simp only [Parser.run] at h
    split at h
    · exact (ih.run h).imp_left .right
    · rename_i found hfound
      cases h
      exact (ih.run hfound).imp_left .left
  | many r =>
    simp only [Parser.run] at h
    split at h
    · cases h
      exact ⟨.done, rfl⟩
    · rename_i ys after hr
      split at h
      · cases h
      · rename_i zs after' hs
        cases h
        obtain ⟨hys, rfl⟩ := ih.run hr
        obtain ⟨hzs, rfl⟩ := ih.run hs
        exact ⟨.again hys hzs, by simp [tokensOfAll_append]⟩
  | role role r =>
    simp only [Parser.run] at h
    split at h
    · cases h
    · rename_i ys after hr
      cases h
      obtain ⟨hys, rfl⟩ := ih.run hr
      exact ⟨.role hys, by simp⟩
  | node kind r =>
    simp only [Parser.run] at h
    split at h
    · cases h
    · rename_i ys after hr
      cases h
      obtain ⟨hys, rfl⟩ := ih.run hr
      exact ⟨.node hys, by rw [tokensOfAll_wrap]⟩
  | call symbol => exact (ih.run h).imp_left .call
  | chain base links =>
    simp only [Parser.run] at h
    split at h
    · cases h
    · rename_i ys after hr
      obtain ⟨hys, rfl⟩ := ih.run hr
      exact ih.chain h (fun _ hl => hl) (.base hys)

theorem runChain_succ_sound (ih : ReadsSoundly rules bound) {base : Rule σ}
    {all links : List (Link σ)} {seed : List Tree}
    (h : runChain rules (bound + 1) links seed ts = some (xs, rest)) (hlinks : links ⊆ all)
    (hseed : Derives rules (.chain base all) seed) :
    Derives rules (.chain base all) xs ∧ tokensOfAll seed ++ ts = tokensOfAll xs ++ rest := by
  simp only [runChain] at h
  split at h
  · cases h
    exact ⟨hseed, rfl⟩
  · rename_i ys after hlink
    obtain ⟨hys, hts⟩ := ih.link hlink hlinks hseed
    rw [hts]
    exact ih.chain h hlinks hys

theorem runLink_succ_sound (ih : ReadsSoundly rules bound) {base : Rule σ}
    {all links : List (Link σ)} {seed : List Tree}
    (h : runLink rules (bound + 1) links seed ts = some (xs, rest)) (hlinks : links ⊆ all)
    (hseed : Derives rules (.chain base all) seed) :
    Derives rules (.chain base all) xs ∧ tokensOfAll seed ++ ts = tokensOfAll xs ++ rest := by
  cases links with
  | nil => simp [runLink] at h
  | cons link links =>
    obtain ⟨hlink, hlinks⟩ := List.cons_subset.1 hlinks
    simp only [runLink] at h
    split at h
    · split at h
      · exact ih.link h hlinks hseed
      · rename_i ys after hr
        cases h
        obtain ⟨hys, rfl⟩ := ih.run hr
        refine ⟨.link hseed hlink hys, ?_⟩
        simp [tokensOfAll_wrap, tokensOfAll_append, tokensOfAll_seeded]
    · exact ih.link h hlinks hseed

theorem readsSoundly (rules : σ → Rule σ) (bound : Nat) : ReadsSoundly rules bound := by
  induction bound with
  | zero => exact readsSoundly_zero
  | succ bound ih =>
    exact ⟨run_succ_sound ih, runChain_succ_sound ih, runLink_succ_sound ih⟩

/-- The tree of a text is derived, and it has all tokens of the text. -/
theorem derives_of_tree {source : String} {tree : Tree} (h : tree? source = .ok tree) :
    ∃ read comments, tree = .node none .program (read ++ comments) ∧
      Derives Grammar.rules (.many (.call .topLevel)) read ∧ AreComments comments ∧
      tokensOfAll (read ++ comments) = Lexer.read source := by
  unfold tree? at h
  dsimp only at h
  split at h
  · rename_i trees htrees
    cases h
    unfold topLevelTrees at htrees
    split at htrees
    · rename_i read rest hrun
      obtain ⟨hread, hts⟩ := (readsSoundly _ _).run hrun
      obtain ⟨hcomments, hrest⟩ := leadingComments_sound rest
      rw [Prod.mk.injEq] at htrees
      obtain ⟨rfl, hnone⟩ := htrees
      refine ⟨read, _, rfl, hread, hcomments, ?_⟩
      rw [hnone, List.append_nil] at hrest
      rw [tokensOfAll_append, ← hrest, hts]
    · rw [Prod.mk.injEq] at htrees
      obtain ⟨rfl, hnone⟩ := htrees
      exact ⟨[], [], rfl, .done, by simp [AreComments], by rw [hnone]; rfl⟩
  · cases h

end Reading

/-! ## What all trees inside have -/

namespace Tree

mutual

/-- The tree and all trees inside satisfy `p`, a property of their kind and children. -/
def Everywhere (p : Kind → List Tree → Prop) : Tree → Prop
  | leaf _ kind _ => p kind []
  | node _ kind children => p kind children ∧ EverywhereInAll p children

def EverywhereInAll (p : Kind → List Tree → Prop) : List Tree → Prop
  | [] => True
  | t :: ts => Everywhere p t ∧ EverywhereInAll p ts

end

variable {p q : Kind → List Tree → Prop}

theorem everywhereInAll_iff {ts : List Tree} :
    EverywhereInAll p ts ↔ ∀ t ∈ ts, t.Everywhere p := by
  induction ts with
  | nil => simp [EverywhereInAll]
  | cons t ts ih => simp [EverywhereInAll, ih]

theorem Everywhere.self {t : Tree} (h : t.Everywhere p) : p t.kind t.children := by
  cases t with
  | leaf role kind token => exact h
  | node role kind children => exact h.1

theorem Everywhere.of_mem_children {t c : Tree} (h : t.Everywhere p) (hc : c ∈ t.children) :
    c.Everywhere p := by
  cases t with
  | leaf role kind token => cases hc
  | node role kind children => exact everywhereInAll_iff.1 h.2 c hc

@[simp] theorem everywhere_withRole {role : Role} {t : Tree} :
    (t.withRole role).Everywhere p ↔ t.Everywhere p := by
  cases t <;> simp [withRole, Everywhere]

theorem mem_tokensOfAll {t : Tree} {ts : List Tree} {token : Token} (ht : t ∈ ts)
    (h : token ∈ t.tokens) : token ∈ tokensOfAll ts := by
  induction ts with
  | nil => cases ht
  | cons first ts ih =>
    rw [tokensOfAll, List.mem_append]
    rcases List.mem_cons.1 ht with rfl | ht
    · exact .inl h
    · exact .inr (ih ht)

mutual

/-- What follows from `p` and from a property of all tokens is true everywhere as well. -/
theorem Everywhere.imp {good : Token → Prop}
    (h : ∀ kind children, p kind children → (∀ t ∈ tokensOfAll children, good t) →
      q kind children) :
    (t : Tree) → t.Everywhere p → (∀ token ∈ t.tokens, good token) → t.Everywhere q
  | leaf _ kind _, hp, _ => h kind [] hp (by simp [tokensOfAll])
  | node _ kind children, hp, hgood =>
    ⟨h kind children hp.1 hgood, EverywhereInAll.imp h children hp.2 hgood⟩

theorem EverywhereInAll.imp {good : Token → Prop}
    (h : ∀ kind children, p kind children → (∀ t ∈ tokensOfAll children, good t) →
      q kind children) :
    (ts : List Tree) → EverywhereInAll p ts → (∀ token ∈ tokensOfAll ts, good token) →
      EverywhereInAll q ts
  | [], _, _ => trivial
  | t :: ts, hp, hgood =>
    ⟨Everywhere.imp h t hp.1 fun token ht => hgood token (List.mem_append_left _ ht),
      EverywhereInAll.imp h ts hp.2 fun token ht => hgood token (List.mem_append_right _ ht)⟩

end

end Tree

namespace Rule

variable {σ : Type}

/-- The kinds of the trees that a rule makes by itself; where a node is made of what one rule
describes, with that rule. -/
def makes : Rule σ → List (Kind × Option (Rule σ))
  | empty | call _ => []
  | keyword _ | mark _ | operator _ => [(.anonymous, none)]
  | name kind _ | token kind _ => [(kind, none)]
  | seq r s | alt r s => r.makes ++ s.makes
  | many r | role _ r => r.makes
  | node kind r => (kind, some r) :: r.makes
  | chain base links => base.makes ++ links.map fun link => (link.kind, none)

end Rule

section Induction

variable {σ : Type} {rules : σ → Rule σ} {r : Rule σ} {xs : List Tree}

/-- A property of trees is kept by whatever the rules do, when `Made` holds of all that they
make. -/
structure Preserved (rules : σ → Rule σ) (Made : Kind × Option (Rule σ) → Prop)
    (Q : Tree → Prop) : Prop where
  comment : ∀ t : Token, t.cls = .comment → Q (.leaf none .comment t)
  leaf : ∀ kind t, Made (kind, none) → Q (.leaf none kind t)
  open_node : ∀ kind xs, Made (kind, none) → (∀ x ∈ xs, Q x) → Q (.node none kind xs)
  node : ∀ kind r xs, Made (kind, some r) → Derives rules r xs → (∀ x ∈ xs, Q x) →
    Q (.node none kind (xs.dropWhile isComment))
  role : ∀ role x, Q x → Q (x.withRole role)

variable {Made : Kind × Option (Rule σ) → Prop} {Q : Tree → Prop}

theorem Preserved.comments (hQ : Preserved rules Made Q) (h : AreComments xs) :
    ∀ x ∈ xs, Q x := by
  intro x hx
  obtain ⟨t, ht, rfl⟩ := h x hx
  exact hQ.comment t ht

theorem Preserved.oneToken (hQ : Preserved rules Made Q) {test : Token → Bool} {kind : Kind}
    (hmade : Made (kind, none)) (h : IsOneToken test kind xs) : ∀ x ∈ xs, Q x := by
  obtain ⟨comments, t, hcomments, -, rfl⟩ := h
  exact List.forall_mem_append.2 ⟨hQ.comments hcomments, by simpa using hQ.leaf kind t hmade⟩

theorem Preserved.seeded (hQ : Preserved rules Made Q) {link : Link σ} (h : ∀ x ∈ xs, Q x) :
    ∀ x ∈ seeded link xs, Q x := by
  unfold Parser.seeded
  split
  · intro x hx
    obtain ⟨y, hy, rfl⟩ := List.mem_map.1 hx
    exact hQ.role _ y (h y hy)
  · exact h

/-- What the rules keep, all trees have that they derive. -/
theorem Derives.forall_mem (hQ : Preserved rules Made Q)
    (hrules : ∀ symbol, ∀ made ∈ (rules symbol).makes, Made made) (h : Derives rules r xs)
    (hr : ∀ made ∈ r.makes, Made made) : ∀ x ∈ xs, Q x := by
  induction h with
  | empty | done => simp
  | keyword h | name h | mark h | token h => exact hQ.oneToken (hr _ (List.mem_singleton_self _)) h
  | @operator o comments marks hcomments =>
    have hanonymous := hr (.anonymous, none) (List.mem_singleton_self _)
    have hmarks : ∀ x ∈ marks.map (.leaf none .anonymous), Q x := by
      intro x hx
      obtain ⟨t, -, rfl⟩ := List.mem_map.1 hx
      exact hQ.leaf .anonymous t hanonymous
    refine List.forall_mem_append.2 ⟨hQ.comments hcomments, ?_⟩
    simpa using hQ.open_node .anonymous _ hanonymous hmarks
  | seq _ _ ih ih' =>
    exact List.forall_mem_append.2 ⟨ih fun made hm => hr made (List.mem_append_left _ hm),
      ih' fun made hm => hr made (List.mem_append_right _ hm)⟩
  | left _ ih => exact ih fun made hm => hr made (List.mem_append_left _ hm)
  | right _ ih => exact ih fun made hm => hr made (List.mem_append_right _ hm)
  | again _ _ ih ih' => exact List.forall_mem_append.2 ⟨ih hr, ih' hr⟩
  | role _ ih => exact List.forall_mem_map.2 fun x hx => hQ.role _ x (ih hr x hx)
  | @node kind r xs hbody ih =>
    have hall := ih fun made hm => hr made (List.mem_cons_of_mem _ hm)
    refine List.forall_mem_append.2 ⟨fun x hx => hall x (List.takeWhile_subset _ hx), ?_⟩
    simpa using hQ.node kind r xs (hr _ (List.mem_cons_self ..)) hbody hall
  | call _ ih => exact ih (hrules _)
  | base _ ih => exact ih fun made hm => hr made (List.mem_append_left _ hm)
  | @link base links xs ys link _ hlink _ ih ih' =>
    have hmade : Made (link.kind, none) :=
      hr _ (List.mem_append_right _ (List.mem_map.2 ⟨link, hlink, rfl⟩))
    have hall : ∀ x ∈ Parser.seeded link xs ++ ys, Q x :=
      List.forall_mem_append.2 ⟨hQ.seeded (ih hr), ih' (hrules _)⟩
    refine List.forall_mem_append.2 ⟨fun x hx => hall x (List.takeWhile_subset _ hx), ?_⟩
    simpa using hQ.open_node link.kind _ hmade fun x hx => hall x (List.dropWhile_subset _ hx)

/-- Trees of that kind satisfy `p`, whatever children or only such as the rule describes. -/
def Rule.Fits (rules : σ → Rule σ) (p : Kind → List Tree → Prop) : Kind × Option (Rule σ) → Prop
  | (kind, none) => ∀ children, p kind children
  | (kind, some r) => ∀ xs, Derives rules r xs → p kind (xs.dropWhile Tree.isComment)

theorem preserved_everywhere {p : Kind → List Tree → Prop} (hcomment : p .comment []) :
    Preserved rules (Rule.Fits rules p) (Everywhere p) where
  comment _ _ := hcomment
  leaf _ _ hfits := hfits []
  open_node _ xs hfits hall := ⟨hfits xs, everywhereInAll_iff.2 hall⟩
  node _ _ xs hfits hbody hall :=
    ⟨hfits xs hbody, everywhereInAll_iff.2 fun x hx => hall x (List.dropWhile_subset _ hx)⟩
  role _ _ hx := everywhere_withRole.2 hx

/-- Where no rule makes a tree that could be taken for a comment, comments are as they were
read. -/
theorem preserved_comment : Preserved rules (fun made => made.1 ≠ .comment)
    (fun x => x.isComment = true → ∃ t : Token, t.cls = .comment ∧ x = .leaf none .comment t) where
  comment t ht _ := ⟨t, ht, rfl⟩
  leaf kind t hkind hc := absurd (by simpa [isComment, Tree.kind] using hc) hkind
  open_node kind xs hkind _ hc := absurd (by simpa [isComment, Tree.kind] using hc) hkind
  node kind r xs hkind _ _ hc := absurd (by simpa [isComment, Tree.kind] using hc) hkind
  role role x hx hc := by
    have hc' : x.isComment = true := by cases x <;> exact hc
    obtain ⟨t, ht, rfl⟩ := hx hc'
    exact ⟨t, ht, rfl⟩

end Induction

end ApiRecovery.Java
