import ApiRecovery.Proofs.Java.NodeShapes
import Mathlib.Data.List.Infix
import Mathlib.Data.List.Lex

/-!
# The string literals of a tree

The search for string literals with a stack finds what walking through the tree by recursion finds:
the literals that are not inside another literal, each once and in the order of the text. The search
keeps to named trees. In the tree of a text no literal is missed by that, for what is inside a
keyword or punctuation mark is a mark itself.
-/

open ApiRecovery.Java.Parser ApiRecovery.Java.Tree

namespace ApiRecovery.Java

namespace Tree

/-! ## Walking through a tree -/

mutual

/-- The string literals in a tree that are not inside another one, each with the path of child
indices that leads to it. -/
def outerLiterals : Tree → List (List Nat × Tree)
  | leaf role kind token => if kind = .stringLiteral then [([], leaf role kind token)] else []
  | node role kind children =>
    if kind = .stringLiteral then [([], node role kind children)] else outerLiteralsFrom 0 children

def outerLiteralsFrom (i : Nat) : List Tree → List (List Nat × Tree)
  | [] => []
  | t :: ts =>
    (if t.isNamed then (outerLiterals t).map fun l => (i :: l.1, l.2) else []) ++
      outerLiteralsFrom (i + 1) ts

end

def literalValues (t : Tree) : List String :=
  t.outerLiterals.map fun l => literalValue l.2.text

theorem outerLiterals_eq (t : Tree) : t.outerLiterals =
    if t.kind = .stringLiteral then [([], t)] else outerLiteralsFrom 0 t.children := by
  cases t with
  | leaf role kind token => rw [outerLiterals, children, outerLiteralsFrom, Tree.kind]
  | node role kind children => rw [outerLiterals, Tree.children, Tree.kind]

theorem map_literalValue_outerLiteralsFrom (i : Nat) (ts : List Tree) :
    (outerLiteralsFrom i ts).map (fun l => literalValue l.2.text) =
      (ts.filter isNamed).flatMap literalValues := by
  induction ts generalizing i with
  | nil => simp [outerLiteralsFrom]
  | cons t ts ih =>
    rw [outerLiteralsFrom, List.map_append, ih]
    cases h : t.isNamed with
    | true => simp [h, literalValues, Function.comp_def]
    | false => simp [h]

theorem literalValues_eq (t : Tree) : t.literalValues =
    if t.kind = .stringLiteral then [literalValue t.text]
    else t.namedChildren.flatMap literalValues := by
  rw [literalValues, outerLiterals_eq]
  split
  · rfl
  · exact map_literalValue_outerLiteralsFrom 0 t.children

end Tree

/-! ## The search -/

namespace LiteralSearch

/-- What has been found and what will be found in the trees on the stack. -/
def outcome (s : LiteralSearch) : List String :=
  s.found.toList ++ s.stack.flatMap literalValues

/-- A visit does not change the outcome: the tree's literals move from the stack to what has been
found, or stay on the stack with its children. -/
theorem outcome_visit (t : Tree) (rest : List Tree) (found : Array String) :
    (visit t rest found).outcome = outcome ⟨t :: rest, found⟩ := by
  rw [outcome, stack_visit, outcome, List.flatMap_cons, t.literalValues_eq, visit]
  by_cases h : t.kind = .stringLiteral
  · simp [h]
  · simp [h]

theorem toList_run (s : LiteralSearch) : s.run.toList = s.outcome := by
  induction s using run.induct with
  | case1 found => simp [run, outcome]
  | case2 t rest found ih => rw [run, ih, outcome_visit]

end LiteralSearch

namespace Tree

theorem toList_collectLiterals (root : Tree) (found : Array String) :
    (root.collectLiterals found).toList = found.toList ++ root.literalValues := by
  rw [collectLiterals, LiteralSearch.toList_run, LiteralSearch.outcome, List.flatMap_singleton]

/-! ## Places of literals -/

def descendant? (t : Tree) : List Nat → Option Tree
  | [] => some t
  | i :: path => t.children[i]?.bind fun c => c.descendant? path

/-- The path leads to a string literal that is not inside another one. -/
structure IsOuterLiteral (root : Tree) (path : List Nat) (t : Tree) : Prop where
  leads : root.descendant? path = some t
  literal : t.kind = .stringLiteral
  outer : ∀ around u, around <+: path → around ≠ path → root.descendant? around = some u →
    u.kind ≠ .stringLiteral

def IsNamedPath (root : Tree) (path : List Nat) : Prop :=
  ∀ around u, around <+: path → around ≠ [] → root.descendant? around = some u → u.isNamed = true

variable {t u : Tree} {i : Nat} {path : List Nat}

theorem descendant?_cons : t.descendant? (i :: path) = some u ↔
    ∃ c, t.children[i]? = some c ∧ c.descendant? path = some u :=
  Option.bind_eq_some_iff

theorem isOuterLiteral_nil : t.IsOuterLiteral [] u ↔ t = u ∧ t.kind = .stringLiteral := by
  constructor
  · intro h
    cases h.leads
    exact ⟨rfl, h.literal⟩
  · rintro ⟨rfl, hkind⟩
    exact ⟨rfl, hkind, fun around _ hprefix hne => absurd (List.prefix_nil.1 hprefix) hne⟩

theorem isOuterLiteral_cons : t.IsOuterLiteral (i :: path) u ↔
    t.kind ≠ .stringLiteral ∧ ∃ c, t.children[i]? = some c ∧ c.IsOuterLiteral path u := by
  constructor
  · intro h
    obtain ⟨c, hc, hleads⟩ := descendant?_cons.1 h.leads
    refine ⟨h.outer [] t List.nil_prefix (by simp) rfl, c, hc, hleads, h.literal, ?_⟩
    intro around v hprefix hne hv
    exact h.outer (i :: around) v (by simpa using hprefix) (by simpa using hne)
      (descendant?_cons.2 ⟨c, hc, hv⟩)
  · rintro ⟨hkind, c, hc, h⟩
    refine ⟨descendant?_cons.2 ⟨c, hc, h.leads⟩, h.literal, fun around v hprefix hne hv => ?_⟩
    cases around with
    | nil =>
      cases hv
      exact hkind
    | cons j around =>
      obtain ⟨rfl, hbelow⟩ := List.cons_prefix_cons.1 hprefix
      obtain ⟨c', hc', hv⟩ := descendant?_cons.1 hv
      obtain rfl : c = c' := Option.some.inj (hc.symm.trans hc')
      exact h.outer around v hbelow (by simpa using hne) hv

theorem isNamedPath_nil (t : Tree) : t.IsNamedPath [] :=
  fun _ _ hprefix hne => absurd (List.prefix_nil.1 hprefix) hne

theorem isNamedPath_cons {c : Tree} (hc : t.children[i]? = some c) :
    t.IsNamedPath (i :: path) ↔ c.isNamed = true ∧ c.IsNamedPath path := by
  constructor
  · intro h
    refine ⟨h [i] c (by simp) (by simp) (descendant?_cons.2 ⟨c, hc, rfl⟩), ?_⟩
    intro around v hprefix _ hv
    exact h (i :: around) v (by simpa using hprefix) (by simp) (descendant?_cons.2 ⟨c, hc, hv⟩)
  · rintro ⟨hnamed, h⟩ around v hprefix hne hv
    cases around with
    | nil => exact absurd rfl hne
    | cons j around =>
      obtain ⟨rfl, hbelow⟩ := List.cons_prefix_cons.1 hprefix
      obtain ⟨c', hc', hv⟩ := descendant?_cons.1 hv
      obtain rfl : c = c' := Option.some.inj (hc.symm.trans hc')
      cases around with
      | nil =>
        cases hv
        exact hnamed
      | cons k around => exact h (k :: around) v hbelow (by simp) hv

theorem mem_outerLiteralsFrom {ts : List Tree} {j : Nat} {p : List Nat} :
    (p, u) ∈ outerLiteralsFrom j ts ↔ ∃ i c path, ts[i]? = some c ∧ c.isNamed = true ∧
      (path, u) ∈ c.outerLiterals ∧ p = (j + i) :: path := by
  induction ts generalizing j with
  | nil => simp [outerLiteralsFrom]
  | cons t ts ih =>
    have hfirst : (p, u) ∈
        (if t.isNamed then t.outerLiterals.map fun l => (j :: l.1, l.2) else []) ↔
          ∃ path, t.isNamed = true ∧ (path, u) ∈ t.outerLiterals ∧ p = j :: path := by
      cases t.isNamed <;> simp [eq_comm]
    rw [outerLiteralsFrom, List.mem_append, hfirst, ih]
    constructor
    · rintro (⟨path, hnamed, hmem, rfl⟩ | ⟨i, c, path, hc, hnamed, hmem, rfl⟩)
      · exact ⟨0, t, path, rfl, hnamed, hmem, rfl⟩
      · exact ⟨i + 1, c, path, hc, hnamed, hmem, by rw [Nat.add_right_comm, Nat.add_assoc]⟩
    · rintro ⟨i, c, path, hc, hnamed, hmem, rfl⟩
      cases i with
      | zero =>
        cases hc
        exact .inl ⟨path, hnamed, hmem, rfl⟩
      | succ i =>
        exact .inr ⟨i, c, path, hc, hnamed, hmem, by rw [Nat.add_right_comm, Nat.add_assoc]⟩

theorem mem_outerLiterals_cons : (i :: path, u) ∈ t.outerLiterals ↔
    t.kind ≠ .stringLiteral ∧ ∃ c, t.children[i]? = some c ∧ c.isNamed = true ∧
      (path, u) ∈ c.outerLiterals := by
  rw [outerLiterals_eq]
  split
  · rename_i hkind
    exact iff_of_false (by simp) fun h => h.1 hkind
  · rename_i hkind
    rw [mem_outerLiteralsFrom, and_iff_right hkind]
    constructor
    · rintro ⟨j, c, path', hc, hnamed, hmem, heq⟩
      cases heq
      exact ⟨c, by simpa using hc, hnamed, hmem⟩
    · rintro ⟨c, hc, hnamed, hmem⟩
      exact ⟨i, c, path, hc, hnamed, hmem, by simp⟩

theorem mem_outerLiterals_nil : ([], u) ∈ t.outerLiterals ↔ t = u ∧ t.kind = .stringLiteral := by
  rw [outerLiterals_eq]
  split
  · rename_i hkind
    simp [hkind, eq_comm]
  · rename_i hkind
    simp [hkind, mem_outerLiteralsFrom]

theorem mem_outerLiterals_iff : (path, u) ∈ t.outerLiterals ↔
    t.IsOuterLiteral path u ∧ t.IsNamedPath path := by
  induction path generalizing t with
  | nil => rw [mem_outerLiterals_nil, isOuterLiteral_nil, and_iff_left t.isNamedPath_nil]
  | cons i path ih =>
    rw [mem_outerLiterals_cons, isOuterLiteral_cons, and_assoc]
    refine and_congr_right fun _ => ?_
    constructor
    · rintro ⟨c, hc, hnamed, hmem⟩
      obtain ⟨houter, hpath⟩ := ih.1 hmem
      exact ⟨⟨c, hc, houter⟩, (isNamedPath_cons hc).2 ⟨hnamed, hpath⟩⟩
    · rintro ⟨⟨c, hc, houter⟩, hpath⟩
      obtain ⟨hnamed, hpath⟩ := (isNamedPath_cons hc).1 hpath
      exact ⟨c, hc, hnamed, ih.2 ⟨houter, hpath⟩⟩

mutual

/-- The walk comes to the literals in the order of their paths, so to each once. -/
theorem pairwise_outerLiterals : (t : Tree) → t.outerLiterals.Pairwise fun l m => l.1 < m.1
  | leaf role kind token => by
    rw [outerLiterals]
    split
    · exact List.pairwise_singleton _ _
    · exact .nil
  | node role kind children => by
    rw [outerLiterals]
    split
    · exact List.pairwise_singleton _ _
    · exact pairwise_outerLiteralsFrom 0 children

theorem pairwise_outerLiteralsFrom : (i : Nat) → (ts : List Tree) →
    (outerLiteralsFrom i ts).Pairwise fun l m => l.1 < m.1
  | _, [] => by
    rw [outerLiteralsFrom]
    exact .nil
  | i, t :: ts => by
    have hfirst : (t.outerLiterals.map fun l => (i :: l.1, l.2)).Pairwise fun l m => l.1 < m.1 :=
      List.pairwise_map.2 ((pairwise_outerLiterals t).imp fun h =>
        List.cons_lt_cons_iff.2 (.inr ⟨rfl, h⟩))
    rw [outerLiteralsFrom, List.pairwise_append]
    refine ⟨?_, pairwise_outerLiteralsFrom (i + 1) ts, ?_⟩
    · split
      · exact hfirst
      · exact .nil
    · -- what comes later has a greater first index
      rintro ⟨p, v⟩ hp ⟨q, w⟩ hq
      obtain ⟨j, -, rest, -, -, -, rfl⟩ := mem_outerLiteralsFrom.1 hq
      split at hp
      · obtain ⟨l, -, heq⟩ := List.mem_map.1 hp
        cases heq
        exact List.cons_lt_cons_iff.2 (.inl (by omega))
      · cases hp

end

/-! ## Named trees -/

def HoldsOnlyMarks (kind : Kind) (children : List Tree) : Prop :=
  kind = .anonymous → ∀ c ∈ children, c.kind = .anonymous

theorem kind_of_descendant? (h : t.Everywhere HoldsOnlyMarks) (hkind : t.kind = .anonymous)
    (hu : t.descendant? path = some u) : u.kind = .anonymous := by
  induction path generalizing t with
  | nil =>
    cases hu
    exact hkind
  | cons i path ih =>
    obtain ⟨c, hc, hu⟩ := descendant?_cons.1 hu
    have hmem := List.mem_of_getElem? hc
    exact ih (h.of_mem_children hmem) (h.self hkind c hmem) hu

/-- A path to a literal leads through named trees, for a literal is not inside a mark. -/
theorem IsOuterLiteral.isNamedPath (houter : t.IsOuterLiteral path u)
    (h : t.Everywhere HoldsOnlyMarks) : t.IsNamedPath path := by
  induction path generalizing t with
  | nil => exact t.isNamedPath_nil
  | cons i path ih =>
    obtain ⟨-, c, hc, houter⟩ := isOuterLiteral_cons.1 houter
    have heverywhere := h.of_mem_children (List.mem_of_getElem? hc)
    refine (isNamedPath_cons hc).2 ⟨?_, ih houter heverywhere⟩
    refine bne_iff_ne.2 fun hkind => ?_
    have hanonymous := kind_of_descendant? heverywhere hkind houter.leads
    rw [houter.literal] at hanonymous
    cases hanonymous

end Tree

/-! ## What the grammar makes -/

namespace Rule

variable {σ : Type}

/-- Whether the nodes are named that the rule makes of more than one tree. -/
def makesNamedNodes : Rule σ → Bool
  | empty | keyword _ | name _ _ | mark _ | operator _ | token _ _ | call _ => true
  | seq r s | alt r s => r.makesNamedNodes && s.makesNamedNodes
  | many r | role _ r => r.makesNamedNodes
  | node kind r => kind != .anonymous && r.makesNamedNodes
  | chain base links => base.makesNamedNodes && links.all fun link => link.kind != .anonymous

end Rule

section Derivations

variable {σ : Type} {rules : σ → Rule σ} {r : Rule σ} {xs : List Tree}

theorem everywhere_wrap {kind : Kind} (hkind : kind ≠ .anonymous)
    (h : ∀ x ∈ xs, x.Everywhere HoldsOnlyMarks) :
    ∀ x ∈ wrap kind xs, x.Everywhere HoldsOnlyMarks := by
  refine List.forall_mem_append.2 ⟨fun x hx => h x (List.takeWhile_subset _ hx), ?_⟩
  refine List.forall_mem_singleton.2 ⟨fun heq => absurd heq hkind, ?_⟩
  exact everywhereInAll_iff.2 fun x hx => h x (List.dropWhile_subset _ hx)

theorem everywhere_seeded {link : Link σ} (h : ∀ x ∈ xs, x.Everywhere HoldsOnlyMarks) :
    ∀ x ∈ seeded link xs, x.Everywhere HoldsOnlyMarks := by
  unfold seeded
  split
  · exact List.forall_mem_map.2 fun x hx => everywhere_withRole.2 (h x hx)
  · exact h

theorem AreComments.holdsOnlyMarks (h : AreComments xs) :
    ∀ x ∈ xs, x.Everywhere HoldsOnlyMarks := by
  intro x hx
  obtain ⟨t, -, rfl⟩ := h x hx
  exact fun hkind => by cases hkind

theorem IsOneToken.holdsOnlyMarks {test : Token → Bool} {kind : Kind}
    (h : IsOneToken test kind xs) : ∀ x ∈ xs, x.Everywhere HoldsOnlyMarks := by
  obtain ⟨comments, t, hcomments, -, rfl⟩ := h
  refine List.forall_mem_append.2 ⟨hcomments.holdsOnlyMarks, List.forall_mem_singleton.2 ?_⟩
  exact fun _ c hc => by cases hc

/-- Where all rules make named nodes, an anonymous node is an operator, which holds its marks. -/
theorem Derives.holdsOnlyMarks (hrules : ∀ symbol, (rules symbol).makesNamedNodes = true)
    (h : Derives rules r xs) (hr : r.makesNamedNodes = true) :
    ∀ x ∈ xs, x.Everywhere HoldsOnlyMarks := by
  induction h with
  | empty | done => simp
  | keyword h | name h | mark h | token h => exact h.holdsOnlyMarks
  | @operator o comments marks hcomments =>
    refine List.forall_mem_append.2 ⟨hcomments.holdsOnlyMarks, List.forall_mem_singleton.2 ?_⟩
    refine ⟨fun _ => ?_, everywhereInAll_iff.2 ?_⟩
    · exact List.forall_mem_map.2 fun _ _ => rfl
    · exact List.forall_mem_map.2 fun _ _ _ c hc => by cases hc
  | seq _ _ ih ih' =>
    simp only [Rule.makesNamedNodes, Bool.and_eq_true] at hr
    exact List.forall_mem_append.2 ⟨ih hr.1, ih' hr.2⟩
  | left _ ih =>
    simp only [Rule.makesNamedNodes, Bool.and_eq_true] at hr
    exact ih hr.1
  | right _ ih =>
    simp only [Rule.makesNamedNodes, Bool.and_eq_true] at hr
    exact ih hr.2
  | again _ _ ih ih' => exact List.forall_mem_append.2 ⟨ih hr, ih' hr⟩
  | role _ ih => exact List.forall_mem_map.2 fun x hx => everywhere_withRole.2 (ih hr x hx)
  | node _ ih =>
    simp only [Rule.makesNamedNodes, Bool.and_eq_true, bne_iff_ne] at hr
    exact everywhere_wrap hr.1 (ih hr.2)
  | call _ ih => exact ih (hrules _)
  | base _ ih =>
    simp only [Rule.makesNamedNodes, Bool.and_eq_true] at hr
    exact ih hr.1
  | link _ hlink _ ih ih' =>
    have hlinks := hr
    simp only [Rule.makesNamedNodes, Bool.and_eq_true, List.all_eq_true, bne_iff_ne] at hlinks
    exact everywhere_wrap (hlinks.2 _ hlink)
      (List.forall_mem_append.2 ⟨everywhere_seeded (ih hr), ih' (hrules _)⟩)

end Derivations

namespace Grammar

theorem isNamed_operationLinks (level : Nat) (arrows : Bool) :
    (operationLinks level arrows).all (fun link => link.kind != .anonymous) = true := by
  refine List.all_eq_true.2 fun link hlink => ?_
  rcases kind_of_mem_operationLinks hlink with hkind | hkind
  · rw [hkind]
    rfl
  · rw [hkind]
    rfl

theorem makesNamedNodes_rules (symbol : Symbol) : (rules symbol).makesNamedNodes = true := by
  cases symbol with
  | operation level arrows => exact isNamed_operationLinks level arrows
  | operationTail operator level arrows => rfl
  | expression arrows | unary arrows | primary arrows | ternaryTail arrows
  | assignmentTail arrows =>
    cases arrows <;> decide +kernel
  | _ => decide +kernel

end Grammar

theorem holdsOnlyMarks_of_tree {source : String} {tree : Tree} (h : tree? source = .ok tree) :
    tree.Everywhere HoldsOnlyMarks := by
  obtain ⟨read, comments, rfl, hread, hcomments, -⟩ := derives_of_tree h
  refine ⟨fun hkind => (by cases hkind), everywhereInAll_iff.2 ?_⟩
  exact List.forall_mem_append.2
    ⟨hread.holdsOnlyMarks Grammar.makesNamedNodes_rules rfl, hcomments.holdsOnlyMarks⟩

/-! ## The literals of a unit -/

/-- The search puts the values of literals behind what was found before: one for each literal that
is not inside another one, in the order of their paths, as the walk by recursion comes to them. It
looks at named trees only, which are all that can hold a literal in the tree of a text. -/
theorem Tree.collectLiterals_finds_outer_literals (root : Tree) (found : Array String) :
    (root.collectLiterals found).toList =
        found.toList ++ root.outerLiterals.map (fun l => literalValue l.2.text) ∧
      (root.outerLiterals.map Prod.fst).Pairwise (· < ·) ∧
      (∀ path t, (path, t) ∈ root.outerLiterals ↔
        root.IsOuterLiteral path t ∧ root.IsNamedPath path) ∧
      ∀ source, tree? source = .ok root →
        (CompilationUnit.ofTree root).stringLiterals =
            root.outerLiterals.map (fun l => literalValue l.2.text) ∧
          ∀ path t, (path, t) ∈ root.outerLiterals ↔ root.IsOuterLiteral path t := by
  refine ⟨root.toList_collectLiterals found, List.pairwise_map.2 root.pairwise_outerLiterals,
    fun path t => mem_outerLiterals_iff, fun source hsource => ⟨?_, fun path t => ?_⟩⟩
  · exact root.toList_collectLiterals #[]
  · rw [mem_outerLiterals_iff]
    exact and_iff_left_of_imp fun h => h.isNamedPath (holdsOnlyMarks_of_tree hsource)

-- the literal in the template's expression is inside another literal
example : (tree? "class A \x7b Object s = STR.\"a\\\x7b\"b\"\x7dc\", t = \"d\"; \x7d").toOption.map
    (fun t => (t.collectLiterals #[]).toList) = some ["a\\\x7b\"b\"\x7dc", "d"] := by
  decide +kernel

end ApiRecovery.Java
