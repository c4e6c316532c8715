import ApiRecovery.Proofs.Java.NodeShapes
import ApiRecovery.Proofs.Java.Tokens

/-!
# The names of declarations

How the qualified names of a text's declarations are made: every declaration, at whatever depth, has
the name of what encloses it, a dot and its own name; and its own name is a word.
-/

open ApiRecovery.Java.Tree

namespace ApiRecovery.Java

def nameBelow (outer : Option String) (name : String) : String :=
  match outer with
  | some outer => outer ++ "." ++ name
  | none => name

/-- The declaration, and all it encloses, are named after what is around them. -/
inductive DeclaredIn : Option String → Declaration → Prop
  | intro {outer : Option String} {d : Declaration} : IsWord d.name.toList →
      d.qualifiedName = nameBelow outer d.name →
      (∀ m ∈ d.members, DeclaredIn (some d.qualifiedName) m) → DeclaredIn outer d

namespace DeclaredIn

variable {outer : Option String} {d : Declaration}

theorem isWord (h : DeclaredIn outer d) : IsWord d.name.toList := by
  cases h with
  | intro hname _ _ => exact hname

theorem qualifiedName_eq (h : DeclaredIn outer d) :
    d.qualifiedName = nameBelow outer d.name := by
  cases h with
  | intro _ hqualified _ => exact hqualified

theorem member (h : DeclaredIn outer d) {m : Declaration} (hm : m ∈ d.members) :
    DeclaredIn (some d.qualifiedName) m := by
  cases h with
  | intro _ _ hmembers => exact hmembers m hm

end DeclaredIn

def HasWordName (kind : Kind) (children : List Tree) : Prop :=
  (declarationKind? kind).isSome → ∃ name,
    children.find? (fun c => c.role == some .name) = some name ∧ IsWord name.text.toList

theorem hasWordName_of_isNamedByWord (kind : Kind) (children : List Tree)
    (h : IsNamedByWord kind children)
    (hwords : ∀ t ∈ tokensOfAll children, t.cls = .word → IsWord t.text.toList) :
    HasWordName kind children := by
  intro hkind
  obtain ⟨kind', t, ht, hfind⟩ := h hkind
  have hmem : t ∈ tokensOfAll children :=
    mem_tokensOfAll (List.mem_of_find?_eq_some hfind) (by simp [tokens])
  exact ⟨_, hfind, hwords t hmem ht⟩

/-! ## The declarations of a tree -/

mutual

theorem declaredIn_of_declaration? : (t : Tree) → t.Everywhere HasWordName →
    ∀ {outer : Option String} {before : List String} {d : Declaration},
      declaration? outer before t = some d → DeclaredIn outer d
  | leaf _ _ _, _, _, _, _, h => by cases h
  | node role kind children, ht, outer, before, d, h => by
    unfold declaration? at h
    split at h
    · rename_i declarationKind nameTree hkind hname
      cases h
      obtain ⟨name, hfind, hword⟩ := ht.1 (by rw [hkind]; rfl)
      obtain rfl : nameTree = name := Option.some.inj (hname.symm.trans hfind)
      exact .intro hword rfl (declaredIn_of_body children ht.2)
    · cases h

theorem declaredIn_of_body : (ts : List Tree) → EverywhereInAll HasWordName ts →
    ∀ {outer : String}, ∀ d ∈ declarationsInBody outer ts, DeclaredIn (some outer) d
  | [], _, _, _, hd => by simp [declarationsInBody] at hd
  | t :: ts, hts, outer, d, hd => by
    unfold declarationsInBody at hd
    split at hd
    · cases hd
    · rename_i heq
      cases heq
      exact declaredIn_of_declarations _ hts.1.2 d hd
    · rename_i heq
      cases heq
      exact declaredIn_of_body ts hts.2 d hd

theorem declaredIn_of_declarations : (ts : List Tree) → EverywhereInAll HasWordName ts →
    ∀ {outer : Option String} {before : List String}, ∀ d ∈ declarations outer before ts,
      DeclaredIn outer d
  | [], _, _, _, _, hd => by simp [declarations] at hd
  | t :: ts, hts, outer, before, d, hd => by
    simp only [declarations, List.mem_append, Option.mem_toList] at hd
    rcases hd with (hd | hd) | hd
    · exact declaredIn_of_declaration? t hts.1 hd
    · exact declaredIn_of_enumRest t hts.1 d hd
    · exact declaredIn_of_declarations ts hts.2 d hd

theorem declaredIn_of_enumRest : (t : Tree) → t.Everywhere HasWordName →
    ∀ {outer : Option String}, ∀ d ∈ declarationsOfEnumRest outer t, DeclaredIn outer d
  | leaf _ _ _, _, _, _, hd => by simp [declarationsOfEnumRest] at hd
  | node role kind children, ht, outer, d, hd => by
    unfold declarationsOfEnumRest at hd
    split at hd
    · rename_i heq
      cases heq
      exact declaredIn_of_declarations children ht.2 d hd
    · cases hd

end

/-! ## The declarations of a text -/

theorem hasWordName_of_tree {source : String} {tree : Tree} (h : tree? source = .ok tree) :
    EverywhereInAll HasWordName tree.children := by
  obtain ⟨read, comments, htree, -, -, htokens⟩ := derives_of_tree h
  have hnamed := namedByWord_of_tree h
  rw [htree] at hnamed ⊢
  refine everywhereInAll_iff.2 fun t ht => ?_
  refine Everywhere.imp hasWordName_of_isNamedByWord t (hnamed t ht) fun token htoken hword => ?_
  have hmem : token ∈ Lexer.read source := by
    rw [← htokens]
    exact mem_tokensOfAll ht htoken
  exact (Lexed.read source).isWord_of_mem hmem hword

/-- The types of a text are named after its package, and all that they enclose after them. -/
theorem declaredIn_package {source : String} {unit : CompilationUnit}
    (h : CompilationUnit.parse source = .ok unit) :
    ∀ d ∈ unit.types, DeclaredIn unit.package d := by
  unfold CompilationUnit.parse at h
  cases htree : tree? source with
  | error e =>
    rw [htree] at h
    cases h
  | ok tree =>
    rw [htree] at h
    cases h
    exact declaredIn_of_declarations _ (hasWordName_of_tree htree)

end ApiRecovery.Java
