import ApiRecovery.Proofs.Corpus.OwnNames
import ApiRecovery.Proofs.Corpus.Scoping
import ApiRecovery.Proofs.Schema.Numbering
import ApiRecovery.Schema.Generator
import Mathlib.Data.List.Basic

/-!
# What a class extends

The name of a superclass is looked up twice, to decide whether the description of the class mentions
it and to describe it, and both times from the body of the class. The scope that the class stands in
differs from its body in nothing but the members of the class, so these are what the place of the
lookup can change.
-/

namespace ApiRecovery

open Java (Declaration CompilationUnit FirstSteps TypeRef)

/-! ## One step outwards -/

def Located.outerScope (l : Located) : Scope :=
  ⟨l.file, l.path.dropLast⟩

/-- On the way to a member every step leads to the first of its siblings, and so does the last. -/
theorem Java.FirstSteps.firstAt_member {e p d : Declaration} {path : List Nat} {i : Nat}
    (h : FirstSteps e.members (path ++ [i])) (hp : e.descendant? path = some p)
    (hd : p.members[i]? = some d) :
    FirstAt (fun x : Declaration => x.name = d.name) p.members i d := by
  induction path generalizing e with
  | nil =>
    cases hp
    obtain ⟨d', hfirst, -⟩ := h
    obtain rfl : d' = d := Option.some.inj (hfirst.at_index.symm.trans hd)
    exact hfirst
  | cons j path ih =>
    obtain ⟨m, hm, hsteps⟩ := h
    simp only [Declaration.descendant?, hm.at_index] at hp
    exact ih hsteps hp

namespace Corpus

variable {c : Corpus} {d m : Located} {name head : String} {rest : List String}

/-- The place is one of the corpus, and no step on the way to it passes by an earlier sibling of the
same name. -/
def DeclaresFirst (c : Corpus) (l : Located) : Prop :=
  ∃ unit, c.unit? l.file = some unit ∧ unit.declaration? l.path = some l.declaration ∧
    FirstSteps unit.types l.path

theorem DeclaresFirst.declares (h : c.DeclaresFirst d) : c.Declares d := by
  obtain ⟨unit, hunit, hd, -⟩ := h
  exact ⟨unit, hunit, hd⟩

theorem enclosingPaths_append (path : List Nat) (i : Nat) :
    enclosingPaths (path ++ [i]) = (path ++ [i]) :: enclosingPaths path := by
  have hinner : ∀ n ∈ List.range path.length,
      (path ++ [i]).take (n + 1) = path.take (n + 1) := fun n hn =>
    List.take_append_of_le_length (List.mem_range.1 hn)
  simp only [enclosingPaths, List.length_append, List.length_singleton, List.range_succ,
    List.reverse_append, List.reverse_singleton, List.singleton_append, List.map_cons,
    List.map_reverse]
  rw [List.map_congr_left hinner, List.take_of_length_le (by simp)]

/-- From the body of a declaration its members are seen first, then the declaration itself. -/
theorem resolveSimple?_scope (h : c.Declares d) (name : String) :
    c.resolveSimple? d.scope name = ((d.member? name).map Resolved.declared).or
      (if d.declaration.name = name then some (.declared d)
        else c.resolveSimple? d.outerScope name) := by
  obtain ⟨file, path, declaration⟩ := d
  obtain ⟨unit, hunit, hd⟩ := h
  dsimp only at hunit hd
  obtain rfl | ⟨path, i, rfl⟩ := List.eq_nil_or_concat' path
  · cases hd
  simp only [Located.scope, Located.outerScope, resolveSimple?, hunit, List.dropLast_concat,
    enclosingPaths_append, resolveEnclosing, hd]
  cases (Located.mk file (path ++ [i]) declaration).member? name with
  | some m => rfl
  | none =>
    by_cases hname : declaration.name = name
    · simp [hname]
    · simp [hname]

/-- A declaration is seen from the scope that it stands in. -/
theorem resolveSimple?_outerScope_self (h : c.DeclaresFirst d) :
    c.resolveSimple? d.outerScope d.declaration.name = some (.declared d) := by
  obtain ⟨file, path, declaration⟩ := d
  obtain ⟨unit, hunit, hd, hsteps⟩ := h
  dsimp only at hunit hd hsteps
  obtain rfl | ⟨path, i, rfl⟩ := List.eq_nil_or_concat' path
  · cases hd
  simp only [Located.outerScope, List.dropLast_concat]
  cases path with
  | nil =>
    -- a type at top level
    obtain ⟨t, hfirst, -⟩ := hsteps
    obtain rfl : t = declaration := by
      simpa [CompilationUnit.declaration?, hfirst.at_index, Declaration.descendant?] using hd
    have htop := topLevel?_eq_some_iff.2 ⟨unit, i, t, hunit, hfirst, rfl⟩
    simp [resolveSimple?, hunit, enclosingPaths, resolveEnclosing, htop]
  | cons j path =>
    -- a member of the declaration around it
    obtain ⟨t, ht, hbelow⟩ := hsteps
    obtain ⟨parent, hparent, hmember⟩ := Option.bind_eq_some_iff.1
      ((Declaration.descendant?_append t path i).symm.trans
        (by simpa [CompilationUnit.declaration?, ht.at_index] using hd))
    have hfirst := hbelow.firstAt_member hparent hmember
    have outer : c.Declares ⟨file, j :: path, parent⟩ :=
      ⟨unit, hunit, by simpa [CompilationUnit.declaration?, ht.at_index] using hparent⟩
    have hfound : (Located.mk file (j :: path) parent).member? declaration.name =
        some ⟨file, (j :: path) ++ [i], declaration⟩ :=
      Located.member?_eq_some_iff.2 ⟨i, declaration, hfirst, rfl⟩
    have hbody := resolveSimple?_scope outer declaration.name
    rw [hfound] at hbody
    exact hbody

/-- From its body the members of a declaration are seen first, then what is seen from around it. -/
theorem resolveSimple?_scope_eq_or (h : c.DeclaresFirst d) (name : String) :
    c.resolveSimple? d.scope name =
      ((d.member? name).map Resolved.declared).or (c.resolveSimple? d.outerScope name) := by
  rw [resolveSimple?_scope h.declares]
  by_cases hname : d.declaration.name = name
  · rw [if_pos hname, ← hname, resolveSimple?_outerScope_self h]
  · rw [if_neg hname]

theorem declaresFirst_topLevel {file : Nat} (h : c.topLevel? file name = some d) :
    c.DeclaresFirst d := by
  obtain ⟨unit, i, t, hunit, hfirst, rfl⟩ := topLevel?_eq_some_iff.1 h
  refine ⟨unit, hunit, ?_, t, ?_, trivial⟩
  · simp [CompilationUnit.declaration?, hfirst.at_index, Declaration.descendant?]
  · rwa [hfirst.holds]

theorem resolveName_scope_of_member (h : c.DeclaresFirst d)
    (hsplit : Text.split '.' (Text.trim name) = head :: rest) (hm : d.HasMember head m) :
    c.resolveName d.scope name = resolveMembers (.declared m) rest := by
  simp [resolveName, hsplit, resolveSimple?_scope_eq_or h, Located.member?_eq_some_iff.2 hm]

theorem resolveName_scope_of_no_member (h : c.DeclaresFirst d)
    (hsplit : Text.split '.' (Text.trim name) = head :: rest) (hm : ∀ m, ¬ d.HasMember head m) :
    c.resolveName d.scope name = c.resolveName d.outerScope name := by
  simp [resolveName, hsplit, resolveSimple?_scope_eq_or h, Located.member?_eq_none_iff.2 hm]

end Corpus

/-! ## The supertype of a description -/

theorem Java.TypeRef.name?_eq_some_iff {type : TypeRef} {name : String} :
    type.name? = some name ↔ ∃ arguments, type = .named name arguments := by
  cases type <;> simp [TypeRef.name?]

namespace Sources

variable {s : Sources} {d : Located} {name : String} {arguments : List TypeRef} {found : Resolved}

/-- Whether a resolved superclass is left in the description of a class. -/
def isComposed (s : Sources) (found : Resolved) : Bool :=
  found.qualifiedName != "java.lang.Object" &&
    !s.isInRole .ignoreWhenExtended found.qualifiedName

/-- What the name of a superclass stands for, seen from `scope`, if the description of the class
mentions that. -/
def supertypeAt? (s : Sources) (scope : Scope) (name : String) : Option Resolved :=
  (s.corpus.resolveName scope name).toOption.filter s.isComposed

theorem keepsSuperclass_named (scope : Scope) (name : String) (arguments : List TypeRef) :
    s.keepsSuperclass scope (.named name arguments) = (s.supertypeAt? scope name).isSome := by
  simp only [keepsSuperclass, supertypeAt?, TypeRef.name?, Option.map_some]
  cases s.corpus.resolveName scope name with
  | error e => rfl
  | ok found =>
    simp only [Except.toOption, Option.isSome_filter, Option.any_some]
    rfl

theorem resolveName_of_supertypeAt? {scope : Scope} (h : s.supertypeAt? scope name = some found) :
    s.corpus.resolveName scope name = .ok found := by
  obtain ⟨hfound, -⟩ := Option.filter_eq_some_iff.1 h
  obtain ⟨r, hr, rfl⟩ := Corpus.exists_resolveName_eq_ok (f := id)
    (by rw [Option.map_id]; exact hfound)
  exact hr

theorem describeClass_of_extends
    (hextends : d.declaration.superclass? = some (.named name arguments)) (stack : List String)
    (env : Environment) (next : Nat) :
    (s.describeClass stack env d next).1 =
      classSchema (s.describeFields stack env d.scope next d.declaration.dataFields).1
        ((s.supertypeAt? d.scope name).map fun _ => (s.describe stack env d.scope
          (next + (s.describeFields stack env d.scope next d.declaration.dataFields).2.length)
          (.named name arguments)).1) := by
  have hkept : s.superclass? d =
      if (s.supertypeAt? d.scope name).isSome then some (.named name arguments) else none := by
    rw [superclass?, hextends, Option.filter_some, keepsSuperclass_named]
  cases h : s.supertypeAt? d.scope name with
  | none =>
    rw [h] at hkept
    rw [describeClass_of_none hkept]
    rfl
  | some found =>
    rw [h] at hkept
    rw [describeClass_of_some hkept]
    rfl

theorem plan_of_supertypeAt? {scope : Scope} {env : Environment}
    (h : s.supertypeAt? scope name = some found) (hparameter : env.lookup name = .notParameter)
    (hfixed : fixedSchema? name = none) (stack : List String) :
    s.plan stack env scope (.named name arguments) =
      s.planTarget stack env scope name arguments found := by
  rw [plan, hparameter]
  simp only [hfixed, resolveName_of_supertypeAt? h]

/-- A class is composed with what the name of its superclass stands for in its own body, where that
is found and kept, and described as that. This is what the name stands for around the class, unless
the class has a member type that its first segment names: then the name begins at the member,
whatever it stands for around the class. -/
theorem supertype_is_seen_from_body {head : String} {rest : List String}
    (h : s.corpus.DeclaresFirst d)
    (hextends : d.declaration.superclass? = some (.named name arguments))
    (hsplit : Text.split '.' (Text.trim name) = head :: rest) :
    (∀ stack env next, (s.describeClass stack env d next).1 =
      classSchema (s.describeFields stack env d.scope next d.declaration.dataFields).1
        ((s.supertypeAt? d.scope name).map fun _ => (s.describe stack env d.scope
          (next + (s.describeFields stack env d.scope next d.declaration.dataFields).2.length)
          (.named name arguments)).1)) ∧
    (∀ found, s.supertypeAt? d.scope name = some found →
      ∀ stack env, env.lookup name = .notParameter → fixedSchema? name = none →
        s.plan stack env d.scope (.named name arguments) =
          s.planTarget stack env d.scope name arguments found) ∧
    ((∀ m, ¬ d.HasMember head m) →
      s.supertypeAt? d.scope name = s.supertypeAt? d.outerScope name) ∧
    ∀ m, d.HasMember head m → s.supertypeAt? d.scope name =
      (Corpus.resolveMembers (.declared m) rest).toOption.filter s.isComposed := by
  refine ⟨fun stack env next => ?composed, fun found hfound stack env => ?planned,
    fun hm => ?around, fun m hm => ?captured⟩
  case composed => exact describeClass_of_extends hextends stack env next
  case planned =>
    intro hparameter hfixed
    exact plan_of_supertypeAt? hfound hparameter hfixed stack
  case around => rw [supertypeAt?, supertypeAt?, Corpus.resolveName_scope_of_no_member h hsplit hm]
  case captured => rw [supertypeAt?, Corpus.resolveName_scope_of_member h hsplit hm]

/-- A member type of another name leaves the superclass alone. -/
theorem supertype_beside_member_type :
    let s : Sources := ⟨.ofSources [
      ("A.java", "class A extends B \x7b class C \x7b\x7d \x7d"),
      ("B.java", "class B \x7b\x7d")], {}⟩
    ∃ d, s.corpus.topLevel? 0 "A" = some d ∧ (∃ m, d.HasMember "C" m) ∧
      s.supertypeAt? d.scope "B" = s.supertypeAt? d.outerScope "B" ∧
      (s.supertypeAt? d.scope "B").map (·.qualifiedName) = some "B" := by
  intro s
  have hevaluated : (s.corpus.topLevel? 0 "A").map (fun d =>
      (d.declaration.superclass?.bind (·.name?), (d.member? "C").isSome, (d.member? "B").isNone,
        (s.supertypeAt? d.scope "B").map (·.qualifiedName))) =
      some (some "B", true, true, some "B") := by
    decide +kernel
  obtain ⟨d, hd, hvalues⟩ := Option.map_eq_some_iff.1 hevaluated
  simp only [Prod.mk.injEq] at hvalues
  obtain ⟨hname, hmember, hno, hsupertype⟩ := hvalues
  obtain ⟨superclass, hextends, hname⟩ := Option.bind_eq_some_iff.1 hname
  obtain ⟨arguments, rfl⟩ := TypeRef.name?_eq_some_iff.1 hname
  obtain ⟨m, hm⟩ := Option.isSome_iff_exists.1 hmember
  have hno' := Located.member?_eq_none_iff.1 (Option.isNone_iff_eq_none.1 hno)
  have hsplit : Text.split '.' (Text.trim "B") = ["B"] := by decide
  have hsame := (supertype_is_seen_from_body (Corpus.declaresFirst_topLevel hd) hextends
    hsplit).2.2.1 hno'
  exact ⟨d, hd, ⟨m, Located.member?_eq_some_iff.1 hm⟩, hsame, hsupertype⟩

/-- A member type that is called like the superclass takes its place. -/
theorem member_type_captures_supertype :
    let s : Sources := ⟨.ofSources [
      ("A.java", "class A extends B \x7b static class B \x7b\x7d \x7d"),
      ("B.java", "class B \x7b\x7d")], {}⟩
    ∃ d, s.corpus.topLevel? 0 "A" = some d ∧
      (s.supertypeAt? d.outerScope "B").map (·.qualifiedName) = some "B" ∧
      (s.plainClass d 0).2.map (·.target.qualifiedName) = ["A.B"] := by
  intro s
  have hevaluated : (s.corpus.topLevel? 0 "A").map (fun d =>
      ((s.superclass? d).bind fun t =>
        (s.plan [] (.unbound d.declaration.typeParameters) d.scope t).target?.map (·.qualifiedName),
      d.declaration.dataFields.length,
      (s.supertypeAt? d.outerScope "B").map (·.qualifiedName))) =
      some (some "A.B", 0, some "B") := by
    decide +kernel
  obtain ⟨d, hd, hvalues⟩ := Option.map_eq_some_iff.1 hevaluated
  simp only [Prod.mk.injEq] at hvalues
  obtain ⟨hplan, hfields, hsupertype⟩ := hvalues
  obtain ⟨superclass, hextends, hplan⟩ := Option.bind_eq_some_iff.1 hplan
  obtain ⟨target, htarget, hqualified⟩ := Option.map_eq_some_iff.1 hplan
  obtain ⟨name, hparent⟩ := describe_of_target? htarget 0
  refine ⟨d, hd, hsupertype, ?_⟩
  rw [plainClass, describeClass_of_some hextends, List.eq_nil_of_length_eq_zero hfields,
    describeFields_nil]
  simp [hparent, hqualified]

end Sources

end ApiRecovery
