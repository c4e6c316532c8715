import ApiRecovery.Corpus.Resolve

/-!
# The declarations of a corpus

Whatever a name stands for is declared in the corpus or known by its name only. The corpus declares
finitely many qualified names.
-/

namespace ApiRecovery

open Java (Declaration CompilationUnit)

namespace Java

theorem Declaration.descendant?_append (d : Declaration) (path : List Nat) (i : Nat) :
    d.descendant? (path ++ [i]) = (d.descendant? path).bind fun e => e.members[i]? := by
  induction path generalizing d with
  | nil => cases h : d.members[i]? <;> simp [descendant?, h]
  | cons j path ih =>
    simp only [List.cons_append, descendant?]
    cases d.members[j]? with
    | none => rfl
    | some m => exact ih m

theorem CompilationUnit.declaration?_append {u : CompilationUnit} {path : List Nat}
    {d : Declaration} (h : u.declaration? path = some d) (i : Nat) :
    u.declaration? (path ++ [i]) = d.members[i]? := by
  cases path with
  | nil => simp [declaration?] at h
  | cons j path =>
    simp only [List.cons_append, declaration?] at h ⊢
    split at h
    · cases h
    · rw [Declaration.descendant?_append, h]
      rfl

theorem Declaration.mem_enclosedByAll {path : List Nat} {x : List Nat × Declaration}
    {ms : List Declaration} {m : Declaration} {i j : Nat} (hm : ms[j]? = some m)
    (hx : x ∈ m.enclosed (path ++ [i + j])) : x ∈ enclosedByAll path i ms := by
  induction ms generalizing i j with
  | nil => simp at hm
  | cons first rest ih =>
    rw [enclosedByAll, List.mem_append]
    cases j with
    | zero =>
      rw [List.getElem?_cons_zero, Option.some.injEq] at hm
      exact .inl (hm ▸ hx)
    | succ j =>
      have hij : i + (j + 1) = i + 1 + j := by omega
      exact .inr (ih hm (hij ▸ hx))

theorem Declaration.enclosed_eq (path : List Nat) (d : Declaration) :
    d.enclosed path = (path, d) :: enclosedByAll path 0 d.members := by
  cases d
  simp only [enclosed]

/-- What an index path leads to is enclosed. -/
theorem Declaration.mem_enclosed {d e : Declaration} {path : List Nat}
    (h : d.descendant? path = some e) (base : List Nat) : (base ++ path, e) ∈ d.enclosed base := by
  induction path generalizing d base with
  | nil =>
    cases h
    simp [enclosed_eq]
  | cons i path ih =>
    simp only [descendant?] at h
    split at h
    · cases h
    · rename_i m hm
      rw [enclosed_eq]
      refine List.mem_cons_of_mem _ (mem_enclosedByAll (j := i) hm ?_)
      have hm' := ih h (base ++ [0 + i])
      simpa using hm'

theorem CompilationUnit.mem_allDeclarations {u : CompilationUnit} {path : List Nat}
    {d : Declaration} (h : u.declaration? path = some d) : (path, d) ∈ u.allDeclarations := by
  cases path with
  | nil => simp [declaration?] at h
  | cons i path =>
    simp only [declaration?] at h
    split at h
    · cases h
    · rename_i t ht
      refine Declaration.mem_enclosedByAll (j := i) ht ?_
      have hd := Declaration.mem_enclosed h [0 + i]
      simpa using hd

end Java

namespace Corpus

variable {c : Corpus}

/-- The place is one of the corpus, and its declaration is the one there. -/
def Declares (c : Corpus) (l : Located) : Prop :=
  ∃ unit, c.unit? l.file = some unit ∧ unit.declaration? l.path = some l.declaration

/-- A resolved type is external or declared in the corpus. -/
def Provides (c : Corpus) : Resolved → Prop
  | .declared l => c.Declares l
  | .external _ => True

theorem declares_member {l m : Located} {name : String} (hl : c.Declares l)
    (h : l.member? name = some m) : c.Declares m := by
  obtain ⟨unit, hunit, hd⟩ := hl
  unfold Located.member? at h
  split at h
  · cases h
  · rename_i i _
    obtain ⟨e, he, rfl⟩ := Option.map_eq_some_iff.1 h
    exact ⟨unit, hunit, by rw [Java.CompilationUnit.declaration?_append hd, he]⟩

theorem declares_descend {names : List String} {l m : Located} (hl : c.Declares l)
    (h : l.descend? names = some m) : c.Declares m := by
  induction names generalizing l with
  | nil =>
    cases h
    exact hl
  | cons name names ih =>
    simp only [Located.descend?] at h
    split at h
    · cases h
    · rename_i e he
      exact ih (declares_member hl he) h

theorem declares_topLevel {file : Nat} {name : String} {l : Located}
    (h : c.topLevel? file name = some l) : c.Declares l := by
  unfold topLevel? at h
  split at h
  · cases h
  · rename_i unit hunit
    split at h
    · cases h
    · rename_i i _
      obtain ⟨t, ht, rfl⟩ := Option.map_eq_some_iff.1 h
      exact ⟨unit, hunit, by simp [Java.CompilationUnit.declaration?, ht, Declaration.descendant?]⟩

theorem declares_resolveSplit {outer members : List String} {l : Located}
    (h : c.resolveSplit outer members = some (some l)) : c.Declares l := by
  induction outer generalizing members with
  | nil => simp [resolveSplit] at h
  | cons last outer ih =>
    simp only [resolveSplit] at h
    split at h
    · rw [Option.some.injEq] at h
      obtain ⟨t, ht, hl⟩ := Option.bind_eq_some_iff.1 h
      exact declares_descend (declares_topLevel ht) hl
    · exact ih h

theorem provides_resolveQualified {name : String} {r : Resolved}
    (h : c.resolveQualified? name = some r) : c.Provides r := by
  unfold resolveQualified? at h
  split at h
  · rename_i found hfound
    obtain ⟨l, rfl, rfl⟩ := Option.map_eq_some_iff.1 h
    exact declares_resolveSplit hfound
  · split at h
    · cases h
      trivial
    · cases h

theorem declares_resolveEnclosing {unit : CompilationUnit} {file : Nat} {name : String}
    {paths : List (List Nat)} {l : Located} (hunit : c.unit? file = some unit)
    (h : resolveEnclosing unit file name paths = some l) : c.Declares l := by
  induction paths with
  | nil => simp [resolveEnclosing] at h
  | cons path outer ih =>
    simp only [resolveEnclosing] at h
    split at h
    · exact ih h
    · rename_i d hd
      have declared : c.Declares ⟨file, path, d⟩ := ⟨unit, hunit, hd⟩
      split at h
      · rename_i m hm
        cases h
        exact declares_member declared hm
      · split at h
        · cases h
          exact declared
        · exact ih h

theorem provides_resolveSimple {scope : Scope} {name : String} {r : Resolved}
    (h : c.resolveSimple? scope name = some r) : c.Provides r := by
  unfold resolveSimple? at h
  split at h
  · cases h
  · rename_i unit hunit
    simp only [Option.or_eq_some_iff, Option.map_eq_some_iff] at h
    obtain ⟨l, hl, rfl⟩ | ⟨-, h | ⟨-, h | ⟨-, h | ⟨-, h⟩⟩⟩⟩ := h
    · obtain hl | ⟨-, hl⟩ := hl
      · exact declares_resolveEnclosing hunit hl
      · exact declares_topLevel hl
    · obtain ⟨i, -, rfl⟩ := Option.map_eq_some_iff.1 h
      cases hi : c.resolveQualified? i.path with
      | none => trivial
      | some found => exact provides_resolveQualified hi
    · unfold resolveInPackage? at h
      split at h
      · rename_i hd
        cases h
        exact provides_resolveQualified hd
      · cases h
    · obtain ⟨i, -, hi⟩ := List.exists_of_findSome?_eq_some h
      exact provides_resolveQualified hi
    · unfold resolveImplicit? at h
      dsimp only at h
      split at h
      · cases h
        trivial
      · cases h

theorem provides_resolveMembers {found r : Resolved} {names : List String} (hf : c.Provides found)
    (h : resolveMembers found names = .ok r) : c.Provides r := by
  induction names generalizing found with
  | nil =>
    cases found <;> cases h <;> exact hf
  | cons name names ih =>
    cases found with
    | declared d =>
      simp only [resolveMembers] at h
      split at h
      · rename_i m hm
        have provided : c.Provides (.declared m) := declares_member hf hm
        exact ih provided h
      · cases h
    | external outer =>
      have provided : c.Provides (.external (outer ++ "." ++ name)) := trivial
      exact ih provided h

/-- What a name stands for is external or declared in the corpus. -/
theorem provides_resolveName {scope : Scope} {name : String} {r : Resolved}
    (h : c.resolveName scope name = .ok r) : c.Provides r := by
  unfold resolveName at h
  dsimp only at h
  split at h
  · rename_i found hfound
    exact provides_resolveMembers (provides_resolveSimple hfound) h
  · split at h
    · rename_i found hfound
      cases h
      exact provides_resolveQualified hfound
    · cases h

def declaredNames (c : Corpus) : List String :=
  c.files.flatMap fun f => match f.unit with
    | none => []
    | some unit => unit.allDeclarations.map fun (_, d) => d.qualifiedName

theorem mem_declaredNames {l : Located} (h : c.Declares l) :
    l.qualifiedName ∈ c.declaredNames := by
  obtain ⟨unit, hunit, hd⟩ := h
  obtain ⟨f, hf, hu⟩ := Option.bind_eq_some_iff.1 hunit
  refine List.mem_flatMap.2 ⟨f, List.mem_of_getElem? hf, ?_⟩
  rw [hu]
  exact List.mem_map.2 ⟨_, Java.CompilationUnit.mem_allDeclarations hd, rfl⟩

end Corpus

end ApiRecovery
