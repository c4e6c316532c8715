import ApiRecovery.Corpus.Declares
import ApiRecovery.Proofs.Java.DeclaredNames
import Mathlib.Data.List.Forall2
import Mathlib.Data.List.Infix

/-!
# Index paths

The list of a unit's declarations, the way along an index path and the qualified names agree. The
list holds what the index paths lead to, in the order of the paths. A qualified name is made of the
package and the names along the path. And the paths of a text's unit are those of its tree, where
what comes after the constants of an enum belongs to the enum.
-/

namespace ApiRecovery.Java

/-! ## The list of declarations -/

namespace Declaration

/-- What holds of a declaration if it holds of its members, holds of all. -/
theorem induction_members {motive : Declaration → Prop}
    (step : ∀ d, (∀ m ∈ d.members, motive m) → motive d) (d : Declaration) : motive d := by
  induction hn : sizeOf d using Nat.strongRecOn generalizing d with
  | ind n ih =>
    refine step d fun m hm => ih (sizeOf m) ?_ m rfl
    have hmember := List.sizeOf_lt_of_mem hm
    cases d
    simp only [mk.sizeOf_spec] at hn hmember
    omega

theorem enclosedByAll_eq (base : List Nat) (i : Nat) (ms : List Declaration) :
    enclosedByAll base i ms = (ms.zipIdx i).flatMap fun x => x.1.enclosed (base ++ [x.2]) := by
  induction ms generalizing i with
  | nil => rfl
  | cons m ms ih => rw [enclosedByAll, ih, List.zipIdx_cons, List.flatMap_cons]

variable {base : List Nat} {x : List Nat × Declaration}

/-- What some declarations enclose is below one of them, given that so it is for each. -/
theorem exists_of_mem_enclosedByAll {ms : List Declaration}
    (h : ∀ m ∈ ms, ∀ {base : List Nat}, x ∈ m.enclosed base →
      ∃ path, x.1 = base ++ path ∧ m.descendant? path = some x.2)
    (hx : x ∈ enclosedByAll base 0 ms) :
    ∃ i m path, ms[i]? = some m ∧ x.1 = base ++ i :: path ∧ m.descendant? path = some x.2 := by
  rw [enclosedByAll_eq] at hx
  obtain ⟨⟨m, i⟩, hm, hx⟩ := List.mem_flatMap.1 hx
  have hi : ms[i]? = some m := List.mem_zipIdx_iff_getElem?.1 hm
  obtain ⟨path, hpath, hd⟩ := h m (List.mem_of_getElem? hi) hx
  exact ⟨i, m, path, hi, by simpa using hpath, hd⟩

theorem exists_of_mem_enclosed (d : Declaration) : ∀ {base : List Nat}, x ∈ d.enclosed base →
    ∃ path, x.1 = base ++ path ∧ d.descendant? path = some x.2 := by
  induction d using induction_members with
  | step d ih =>
    intro base hx
    rw [enclosed_eq] at hx
    rcases List.mem_cons.1 hx with rfl | hx
    · exact ⟨[], (List.append_nil base).symm, rfl⟩
    · obtain ⟨i, m, path, hi, hpath, hd⟩ := exists_of_mem_enclosedByAll ih hx
      exact ⟨i :: path, hpath, by rw [descendant?, hi]; exact hd⟩

/-- Declarations that are listed in the order of their paths stay so one after another. -/
theorem pairwise_enclosedByAll {ms : List Declaration}
    (h : ∀ m ∈ ms, ∀ base, (m.enclosed base).Pairwise fun x y => x.1 < y.1) (base : List Nat) :
    (enclosedByAll base 0 ms).Pairwise fun x y => x.1 < y.1 := by
  rw [enclosedByAll_eq, List.pairwise_flatMap]
  have hindices : ((ms.zipIdx 0).map Prod.snd).Pairwise (· < ·) := by
    rw [List.zipIdx_map_snd]
    exact List.pairwise_lt_range'
  refine ⟨fun x hx => h x.1 (List.fst_mem_of_mem_zipIdx hx) _,
    (List.pairwise_map.1 hindices).imp ?_⟩
  intro x y hlt a ha b hb
  obtain ⟨p, hp, -⟩ := exists_of_mem_enclosed x.1 ha
  obtain ⟨q, hq, -⟩ := exists_of_mem_enclosed y.1 hb
  rw [hp, hq, List.append_assoc, List.append_assoc]
  exact List.append_left_lt (List.cons_lt_cons_iff.2 (.inl hlt))

theorem pairwise_enclosed (d : Declaration) : ∀ base,
    (d.enclosed base).Pairwise fun x y => x.1 < y.1 := by
  induction d using induction_members with
  | step d ih =>
    intro base
    rw [enclosed_eq]
    refine .cons (fun x hx => ?_) (pairwise_enclosedByAll ih base)
    obtain ⟨i, m, path, -, hpath, -⟩ :=
      exists_of_mem_enclosedByAll (fun m _ => exists_of_mem_enclosed m) hx
    have hlonger : base ++ [] < base ++ i :: path := List.append_left_lt (List.nil_lt_cons i path)
    rw [List.append_nil] at hlonger
    exact hpath ▸ hlonger

end Declaration

namespace CompilationUnit

theorem mem_allDeclarations_iff {u : CompilationUnit} {path : List Nat} {d : Declaration} :
    (path, d) ∈ u.allDeclarations ↔ u.declaration? path = some d := by
  refine ⟨fun h => ?_, mem_allDeclarations⟩
  obtain ⟨i, t, rest, hi, hpath, hd⟩ := Declaration.exists_of_mem_enclosedByAll
    (fun m _ => Declaration.exists_of_mem_enclosed m) h
  obtain rfl : path = i :: rest := hpath
  rw [declaration?, hi]
  exact hd

theorem pairwise_allDeclarations (u : CompilationUnit) :
    (u.allDeclarations.map Prod.fst).Pairwise (· < ·) :=
  List.pairwise_map.2
    (Declaration.pairwise_enclosedByAll (fun m _ => Declaration.pairwise_enclosed m) [])

end CompilationUnit

/-! ## The names along a path -/

theorem filterMap_inits_cons {f g : List Nat → Option Declaration} {i : Nat}
    (h : ∀ rest, f (i :: rest) = g rest) (path : List Nat) :
    (i :: path).inits.filterMap f = (f []).toList ++ path.inits.filterMap g := by
  have hbelow : (f ∘ fun rest => i :: rest) = g := funext h
  rw [List.inits_cons, List.filterMap_cons, List.filterMap_map, hbelow]
  cases f [] <;> rfl

theorem Declaration.descendant?_cons (d : Declaration) (i : Nat) (path : List Nat) :
    d.descendant? (i :: path) = d.members[i]?.bind fun m => m.descendant? path := by
  rw [descendant?]
  cases d.members[i]? <;> rfl

theorem CompilationUnit.declaration?_cons (u : CompilationUnit) (i : Nat) (path : List Nat) :
    u.declaration? (i :: path) = u.types[i]?.bind fun d => d.descendant? path := by
  rw [declaration?]
  cases u.types[i]? <;> rfl

theorem nameBelow_eq_join (outer : Option String) (name : String) :
    nameBelow outer name = Text.join "." (outer.toList ++ [name]) := by
  cases outer <;> simp [nameBelow, Text.join]

theorem DeclaredIn.qualifiedName_descendant? {outer : Option String} {d e : Declaration}
    (h : DeclaredIn outer d) {path : List Nat} (hpath : d.descendant? path = some e) :
    e.qualifiedName = Text.join "."
      (outer.toList ++ (path.inits.filterMap d.descendant?).map (·.name)) := by
  induction path generalizing outer d with
  | nil =>
    cases hpath
    rw [h.qualifiedName_eq, nameBelow_eq_join]
    rfl
  | cons i path ih =>
    rw [Declaration.descendant?_cons] at hpath
    obtain ⟨m, hi, hpath⟩ := Option.bind_eq_some_iff.1 hpath
    have hinits := filterMap_inits_cons (f := d.descendant?) (g := m.descendant?) (i := i)
      (fun rest => by rw [Declaration.descendant?_cons, hi, Option.bind_some]) path
    have hbelow : (path.inits.filterMap m.descendant?).map (·.name) ≠ [] := by
      cases path <;> simp [Declaration.descendant?]
    -- the names from the member on are put behind the qualified name of the declaration
    rw [hinits, ih (h.member (List.mem_of_getElem? hi)) hpath, h.qualifiedName_eq,
      nameBelow_eq_join, Text.join, Text.join, Text.join, Option.toList_some,
      String.intercalate_append_of_ne_nil (by simp) hbelow, String.intercalate_singleton,
      ← String.intercalate_append_of_ne_nil (by simp) hbelow, List.append_assoc]
    rfl

theorem CompilationUnit.qualifiedName_eq_join {u : CompilationUnit}
    (h : ∀ d ∈ u.types, DeclaredIn u.package d) {path : List Nat} {d : Declaration}
    (hd : u.declaration? path = some d) :
    d.qualifiedName = Text.join "."
      (u.package.toList ++ (path.inits.filterMap u.declaration?).map (·.name)) := by
  cases path with
  | nil => cases hd
  | cons i path =>
    rw [declaration?_cons] at hd
    obtain ⟨t, hi, hd⟩ := Option.bind_eq_some_iff.1 hd
    have hinits := filterMap_inits_cons (f := u.declaration?) (g := t.descendant?) (i := i)
      (fun rest => by rw [declaration?_cons, hi, Option.bind_some]) path
    rw [hinits]
    exact (h t (List.mem_of_getElem? hi)).qualifiedName_descendant? hd

/-! ## The paths of a tree -/

namespace Tree

mutual

/-- The tree or, of what comes after the constants of an enum, the trees that it consists of. -/
def items : Tree → List Tree
  | node _ .enumBodyDeclarations children => itemsOfAll children
  | t => [t]

def itemsOfAll : List Tree → List Tree
  | [] => []
  | t :: ts => items t ++ itemsOfAll ts

end

def declared? (t : Tree) : Option (DeclarationKind × String) :=
  match declarationKind? t.kind, t.child? .name with
  | some kind, some name => some (kind, name.text)
  | _, _ => none

def declaring (ts : List Tree) : List Tree :=
  (itemsOfAll ts).filter (·.declared?.isSome)

def inBody : List Tree → List Tree
  | [] => []
  | node (some .body) _ children :: _ => children
  | _ :: ts => inBody ts

def memberAt? (t : Tree) : List Nat → Option Tree
  | [] => some t
  | i :: path => (declaring (inBody t.children))[i]?.bind fun m => m.memberAt? path

def declaringAt? (ts : List Tree) : List Nat → Option Tree
  | [] => none
  | i :: path => (declaring ts)[i]?.bind fun t => t.memberAt? path

/-- What a tree declares, inside `outer` and after some comments. -/
def Declares (outer : Option String) (d : Declaration) (t : Tree) : Prop :=
  ∃ before, declaration? outer before t = some d

variable {outer : Option String} {before : List String} {d : Declaration} {t : Tree}

theorem map_declaration? (outer : Option String) (before : List String) (t : Tree) :
    (declaration? outer before t).map (fun d => (d.kind, d.name)) = t.declared? := by
  cases t with
  | leaf => simp [declaration?, declared?, child?, children]
  | node role kind children =>
    simp only [declaration?, declared?, Tree.kind]
    cases declarationKind? kind <;> cases (node role kind children).child? .name <;> rfl

theorem declarationsInBody_eq (outer : String) (ts : List Tree) :
    declarationsInBody outer ts = declarations (some outer) [] (inBody ts) := by
  induction ts with
  | nil => simp [declarationsInBody, inBody, declarations]
  | cons t ts ih =>
    unfold declarationsInBody inBody
    split <;> simp_all

theorem Declares.members_eq (h : Declares outer d t) :
    d.members = declarations (some d.qualifiedName) [] (inBody t.children) := by
  obtain ⟨before, h⟩ := h
  cases t with
  | leaf => cases h
  | node role kind children =>
    unfold declaration? at h
    split at h
    · cases h
      exact declarationsInBody_eq _ children
    · cases h

mutual

/-- The declarations of some trees are those of the trees that declare something. -/
theorem forall₂_declarations (outer : Option String) : (before : List String) → (ts : List Tree) →
    List.Forall₂ (Declares outer) (declarations outer before ts) (declaring ts)
  | _, [] => by
    simp [declarations, declaring, itemsOfAll]
  | before, t :: ts => by
    rw [declarations, declaring, itemsOfAll, List.filter_append]
    exact List.rel_append (forall₂_items outer before t) (forall₂_declarations outer _ ts)

theorem forall₂_items (outer : Option String) : (before : List String) → (t : Tree) →
    List.Forall₂ (Declares outer)
      ((declaration? outer before t).toList ++ declarationsOfEnumRest outer t)
      ((items t).filter (·.declared?.isSome))
  | _, leaf _ _ _ => by
    simp [declaration?, declarationsOfEnumRest, items, declared?, child?, children]
  | before, node role kind children => by
    by_cases hkind : kind = .enumBodyDeclarations
    · subst hkind
      rw [declarationsOfEnumRest, items, declaration?]
      exact forall₂_declarations outer [] children
    · have hother : ∀ role' children', node role kind children =
          node role' .enumBodyDeclarations children' → False := by
        rintro _ _ heq
        cases heq
        exact hkind rfl
      rw [declarationsOfEnumRest.eq_2 _ _ hother, items.eq_2 _ hother, List.append_nil,
        List.filter_singleton, ← map_declaration? outer before]
      cases hd : declaration? outer before (node role kind children) with
      | none => exact .nil
      | some d => exact .cons ⟨before, hd⟩ .nil

end

theorem rel_getElem?_of_forall₂ {α β : Type} {R : α → β → Prop} {as : List α} {bs : List β}
    (h : List.Forall₂ R as bs) (i : Nat) : Option.Rel R as[i]? bs[i]? := by
  induction h generalizing i with
  | nil => exact .none
  | cons hab _ ih =>
    cases i with
    | zero => exact .some hab
    | succ i => exact ih i

theorem rel_bind {α β α' β' : Type} {R : α → β → Prop} {R' : α' → β' → Prop} {a? : Option α}
    {b? : Option β} {f : α → Option α'} {g : β → Option β'} (h : Option.Rel R a? b?)
    (hfg : ∀ a b, R a b → Option.Rel R' (f a) (g b)) : Option.Rel R' (a?.bind f) (b?.bind g) := by
  cases h with
  | none => exact .none
  | some hab => exact hfg _ _ hab

/-- Going from member to member is going from tree to tree. -/
theorem Declares.rel_memberAt? (h : Declares outer d t) (path : List Nat) :
    Option.Rel (fun d t => ∃ outer, Declares outer d t) (d.descendant? path) (t.memberAt? path) := by
  induction path generalizing outer d t with
  | nil => exact .some ⟨outer, h⟩
  | cons i path ih =>
    have hmembers := rel_getElem?_of_forall₂
      (forall₂_declarations (some d.qualifiedName) [] (inBody t.children)) i
    rw [← h.members_eq] at hmembers
    rw [Declaration.descendant?_cons, memberAt?]
    exact rel_bind hmembers fun m t hm => ih hm

theorem map_eq_bind_declared? {d? : Option Declaration} {t? : Option Tree}
    (h : Option.Rel (fun d t => ∃ outer, Declares outer d t) d? t?) :
    d?.map (fun d => (d.kind, d.name)) = t?.bind declared? := by
  cases h with
  | none => rfl
  | some hd =>
    obtain ⟨outer, before, hd⟩ := hd
    rw [Option.bind_some, ← map_declaration? outer before, hd]

end Tree

/-- The index paths of a unit lead through it as they lead through the tree. -/
theorem CompilationUnit.map_declaration?_ofTree (root : Tree) (path : List Nat) :
    ((ofTree root).declaration? path).map (fun d => (d.kind, d.name)) =
      (Tree.declaringAt? root.children path).bind Tree.declared? := by
  cases path with
  | nil => rfl
  | cons i path =>
    have htypes := Tree.rel_getElem?_of_forall₂
      (Tree.forall₂_declarations (ofTree root).package [] root.children) i
    rw [declaration?_cons, Tree.declaringAt?]
    exact Tree.map_eq_bind_declared?
      (Tree.rel_bind htypes fun d t hd => Tree.Declares.rel_memberAt? hd path)

theorem CompilationUnit.exists_tree {source : String} {unit : CompilationUnit}
    (h : CompilationUnit.parse source = .ok unit) :
    ∃ tree, tree? source = .ok tree ∧ ofTree tree = unit := by
  unfold CompilationUnit.parse at h
  cases htree : tree? source with
  | error e =>
    rw [htree] at h
    cases h
  | ok tree =>
    rw [htree] at h
    cases h
    exact ⟨tree, rfl, rfl⟩

/-- The declarations of a unit are listed in the order of their index paths, each with the path that
leads to it. In the unit of a text the paths are those of the tree, and a qualified name is made of
the package and the names along the path. -/
theorem CompilationUnit.paths_and_names_agree :
    (∀ u : CompilationUnit,
      (∀ path d, (path, d) ∈ u.allDeclarations ↔ u.declaration? path = some d) ∧
      (u.allDeclarations.map Prod.fst).Pairwise (· < ·)) ∧
    ∀ source unit, CompilationUnit.parse source = .ok unit →
      (∃ tree, tree? source = .ok tree ∧ ∀ path,
        (unit.declaration? path).map (fun d => (d.kind, d.name)) =
          (Tree.declaringAt? tree.children path).bind Tree.declared?) ∧
      ∀ path d, unit.declaration? path = some d → d.qualifiedName = Text.join "."
        (unit.package.toList ++ (path.inits.filterMap unit.declaration?).map (·.name)) := by
  refine ⟨fun u => ⟨fun _ _ => u.mem_allDeclarations_iff, u.pairwise_allDeclarations⟩,
    fun source unit hparse => ⟨?_, fun path d hd => ?_⟩⟩
  · obtain ⟨tree, htree, rfl⟩ := exists_tree hparse
    exact ⟨tree, htree, map_declaration?_ofTree tree⟩
  · exact qualifiedName_eq_join (declaredIn_package hparse) hd

example : (CompilationUnit.parse "package p; enum E \x7b A; class B \x7b\x7d \x7d").toOption.map
    (fun unit => unit.allDeclarations.map fun x => (x.1, x.2.qualifiedName)) =
      some [([0], "p.E"), ([0, 0], "p.E.B")] := by
  decide +kernel

end ApiRecovery.Java
