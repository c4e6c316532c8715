import ApiRecovery.Corpus.Declares
import ApiRecovery.Schema.Registry
import ApiRecovery.Schema.Resolve

/-!
# Making components

A generator remembers which references it has given out. Closing it makes a component for each type
that a reference stands for; that may need further references, so it goes on in passes until no
reference is left. This ends: a qualified name is converted once, and only the conversion of a
declaration gives out references, to declarations of the corpus or to types that are not declared.
-/

namespace ApiRecovery

open Java (TypeRef)

structure Generator where
  /-- all references so far; the index of a reference is its number -/
  references : List Reference := []
  /-- how many of them have been looked after -/
  done : Nat := 0
  registry : Registry := {}

structure Components where
  registry : Registry
  paths : List String

namespace Sources

/-- The schema of a class that is reached without arguments. -/
def plainClass (s : Sources) (d : Located) (next : Nat) : Schema × List Reference :=
  s.describeClass [] (.unbound d.declaration.typeParameters) d next

/-- The name that a reference's component should have, its schema, and the references in it. -/
def component (s : Sources) (target : Resolved) (next : Nat) : String × Schema × List Reference :=
  match target with
  | .external name => (name, .free, [])
  | .declared d =>
    match d.declaration.kind with
    | .classType => (Naming.display d.declaration, s.plainClass d next)
    | .enum => (Naming.display d.declaration, .enumeration d.declaration.enumConstants, [])
    | _ => (d.qualifiedName, .free, [])

end Sources

namespace Generator

def pending (g : Generator) : List Reference :=
  g.references.drop g.done

/-- The schema of a type; its references wait for `close`. -/
def resolve (g : Generator) (s : Sources) (env : Environment) (scope : Scope) (type : TypeRef) :
    Schema × Generator :=
  let (schema, issued) := s.describe [] env scope g.references.length type
  (schema, { g with references := g.references ++ issued })

def resolveClass (g : Generator) (s : Sources) (env : Environment) (d : Located) :
    Schema × Generator :=
  let (schema, issued) := s.describeClass [] env d g.references.length
  (schema, { g with references := g.references ++ issued })

/-- Whether a component has been made for the type that a reference stands for. -/
def isConverted (g : Generator) (r : Reference) : Bool :=
  g.registry.isProcessed r.target.qualifiedName

theorem isConverted_iff {g : Generator} {r : Reference} :
    g.isConverted r = true ↔ r.target.qualifiedName ∈ g.registry.processed := by
  rw [isConverted, Registry.isProcessed, List.contains_iff_mem]

/-- Looks after one reference: the first one to a qualified name makes its component. -/
def convert (g : Generator) (s : Sources) (r : Reference) : Generator :=
  if g.isConverted r then { g with done := g.done + 1 }
  else
    let qualifiedName := r.target.qualifiedName
    let (preferred, schema, issued) := s.component r.target g.references.length
    let registry := (g.registry.markProcessed qualifiedName).register preferred qualifiedName schema
    { references := g.references ++ issued, done := g.done + 1, registry := registry.2 }

def convertAll (g : Generator) (s : Sources) (rs : List Reference) : Generator :=
  rs.foldl (fun g r => g.convert s r) g

/-- Looks after the references that wait now. -/
def pass (g : Generator) (s : Sources) : Generator :=
  g.convertAll s g.pending

theorem convert_of_converted {g : Generator} {r : Reference} (h : g.isConverted r = true)
    (s : Sources) : g.convert s r = { g with done := g.done + 1 } := by
  rw [convert, if_pos h]

theorem convert_of_new {g : Generator} {r : Reference} (h : g.isConverted r = false)
    (s : Sources) :
    g.convert s r =
      { references := g.references ++ (s.component r.target g.references.length).2.2
        done := g.done + 1
        registry := ((g.registry.markProcessed r.target.qualifiedName).register
          (s.component r.target g.references.length).1 r.target.qualifiedName
          (s.component r.target g.references.length).2.1).2 } := by
  rw [convert, if_neg (Bool.eq_false_iff.1 h)]

def issuedBy (g : Generator) (s : Sources) (r : Reference) : List Reference :=
  if g.isConverted r then [] else (s.component r.target g.references.length).2.2

theorem convert_references (g : Generator) (s : Sources) (r : Reference) :
    (g.convert s r).references = g.references ++ g.issuedBy s r := by
  unfold convert issuedBy
  split <;> simp

theorem convert_done (g : Generator) (s : Sources) (r : Reference) :
    (g.convert s r).done = g.done + 1 := by
  unfold convert
  split <;> rfl

theorem convert_isProcessed (g : Generator) (s : Sources) (r : Reference) (q : String) :
    (g.convert s r).registry.isProcessed q =
      (q == r.target.qualifiedName || g.registry.isProcessed q) := by
  unfold convert
  split
  · rename_i h
    by_cases hq : q = r.target.qualifiedName
    · rw [isConverted] at h
      simp [hq, h]
    · simp [hq]
  · simp only [Registry.register, Registry.markProcessed, Registry.isProcessed,
      List.contains_insert]

/-- Only the conversion of a declaration gives out references, to what the corpus provides. -/
theorem issuedBy_ne_nil {g : Generator} {s : Sources} {r : Reference} (h : g.issuedBy s r ≠ []) :
    (∃ d, r.target = .declared d) ∧ g.isConverted r = false ∧
      ∀ i ∈ g.issuedBy s r, s.corpus.Provides i.target := by
  unfold issuedBy at h ⊢
  split at h
  · exact absurd rfl h
  · rename_i hr
    rw [if_neg hr]
    unfold Sources.component at h ⊢
    split at h
    · exact absurd rfl h
    · rename_i d hd
      refine ⟨⟨d, hd⟩, Bool.eq_false_iff.2 hr, fun i hi => ?_⟩
      cases hk : d.declaration.kind <;> simp only [hk] at h hi
      case classType =>
        exact Corpus.provides_resolveName ((Sources.describe_resolves s).2.1 _ _ _ _ i hi)
      all_goals exact absurd rfl h

/-- What looking after some references does: those that it gives out come last, and they are given
out only if one of the references is to a declaration that had not been converted. -/
theorem convertAll_spec (g : Generator) (s : Sources) (rs : List Reference) :
    (g.convertAll s rs).done = g.done + rs.length ∧
    (∀ q, (g.convertAll s rs).registry.isProcessed q = true ↔
      g.registry.isProcessed q = true ∨ ∃ r ∈ rs, r.target.qualifiedName = q) ∧
    ∃ issued, (g.convertAll s rs).references = g.references ++ issued ∧
      (∀ i ∈ issued, s.corpus.Provides i.target) ∧
      (issued ≠ [] → ∃ r ∈ rs, (∃ d, r.target = .declared d) ∧ g.isConverted r = false) := by
  induction rs generalizing g with
  | nil => exact ⟨rfl, by simp [convertAll], [], by simp [convertAll]⟩
  | cons r rs ih =>
    obtain ⟨hdone, hprocessed, issued, hrefs, hprovided, hfresh⟩ := ih (g.convert s r)
    have hcons : g.convertAll s (r :: rs) = (g.convert s r).convertAll s rs := rfl
    rw [hcons]
    refine ⟨?_, fun q => ?_, g.issuedBy s r ++ issued, ?_, ?_, ?_⟩
    · rw [hdone, convert_done, List.length_cons]
      omega
    · rw [hprocessed, convert_isProcessed]
      simp only [Bool.or_eq_true, beq_iff_eq, List.mem_cons, exists_eq_or_imp]
      grind
    · rw [hrefs, convert_references, List.append_assoc]
    · intro i hi
      obtain hi | hi := List.mem_append.1 hi
      · exact (issuedBy_ne_nil (List.ne_nil_of_mem hi)).2.2 i hi
      · exact hprovided i hi
    · intro hne
      by_cases h : g.issuedBy s r = []
      · rw [h, List.nil_append] at hne
        obtain ⟨r', hr', hd, hc⟩ := hfresh hne
        refine ⟨r', List.mem_cons_of_mem _ hr', hd, ?_⟩
        rw [isConverted, convert_isProcessed, Bool.or_eq_false_iff] at hc
        exact hc.2
      · obtain ⟨hd, hc, -⟩ := issuedBy_ne_nil h
        exact ⟨r, List.mem_cons_self, hd, hc⟩

/-- After a pass those references wait that it has given out. -/
theorem pass_spec (g : Generator) (s : Sources) :
    (∀ q, (g.pass s).registry.isProcessed q = true ↔
      g.registry.isProcessed q = true ∨ ∃ r ∈ g.pending, r.target.qualifiedName = q) ∧
    (∀ i ∈ (g.pass s).pending, s.corpus.Provides i.target) ∧
    ((g.pass s).pending ≠ [] →
      ∃ r ∈ g.pending, (∃ d, r.target = .declared d) ∧ g.isConverted r = false) := by
  obtain ⟨hdone, hprocessed, issued, hrefs, hprovided, hfresh⟩ := g.convertAll_spec s g.pending
  have hpending : ∃ n, (g.pass s).pending = issued.drop n := by
    have hlen : g.references.length ≤ g.done + g.pending.length := by
      rw [pending, List.length_drop]
      omega
    refine ⟨g.done + g.pending.length - g.references.length, ?_⟩
    rw [pending, pass, hdone, hrefs, List.drop_append, List.drop_eq_nil_of_le hlen,
      List.nil_append]
  obtain ⟨n, hn⟩ := hpending
  refine ⟨hprocessed, fun i hi => hprovided i (List.mem_of_mem_drop (hn ▸ hi)), fun h => hfresh ?_⟩
  rintro rfl
  exact h (by rw [hn, List.drop_nil])

theorem countP_lt_countP {p p' : String → Bool} {l : List String} {q : String}
    (h : ∀ q, p q = true → p' q = true) (hq : q ∈ l) (hp : p q = false) (hp' : p' q = true) :
    l.countP p < l.countP p' := by
  induction l with
  | nil => cases hq
  | cons x l ih =>
    have hle := List.countP_mono_left (fun y _ => h y : ∀ y ∈ l, p y = true → p' y = true)
    rw [List.countP_cons, List.countP_cons]
    obtain rfl | hq := List.mem_cons.1 hq
    · rw [hp, hp']
      simpa using Nat.lt_succ_of_le hle
    · have hlt := ih hq
      have hx : (if p x = true then 1 else 0) ≤ if p' x = true then 1 else 0 := by
        by_cases hpx : p x = true
        · simp [hpx, h x hpx]
        · simp [hpx]
      omega

/-- Whether what a reference stands for is external or of a name that the corpus declares. -/
def isKnown (s : Sources) (r : Reference) : Bool :=
  match r.target with
  | .declared d => s.corpus.declaredNames.contains d.qualifiedName
  | .external _ => true

theorem isKnown_of_provides {s : Sources} {r : Reference} (h : s.corpus.Provides r.target) :
    isKnown s r = true := by
  unfold isKnown
  split
  · rename_i d hd
    rw [hd] at h
    simpa using Corpus.mem_declaredNames h
  · rfl

/-- What is left to do: nothing where no reference waits, or the names of the corpus that have not
been converted and a pass more, or, where a name is unknown, two more than there are names. -/
def work (g : Generator) (s : Sources) : Nat :=
  if g.pending = [] then 0
  else if g.pending.all (isKnown s) then
    s.corpus.declaredNames.countP (fun q => !g.registry.isProcessed q) + 1
  else s.corpus.declaredNames.length + 2

theorem work_pass_lt (g : Generator) (s : Sources) (h : g.pending ≠ []) :
    (g.pass s).work s < g.work s := by
  obtain ⟨hprocessed, hprovided, hfresh⟩ := g.pass_spec s
  have hknown : (g.pass s).pending.all (isKnown s) = true :=
    List.all_eq_true.2 fun i hi => isKnown_of_provides (hprovided i hi)
  unfold work
  rw [if_neg h]
  by_cases hnext : (g.pass s).pending = []
  · rw [if_pos hnext]
    split <;> exact Nat.zero_lt_succ _
  · rw [if_neg hnext, if_pos hknown]
    split
    · rename_i hall
      obtain ⟨r, hr, ⟨d, hd⟩, hc⟩ := hfresh hnext
      have hname : r.target.qualifiedName ∈ s.corpus.declaredNames := by
        have hk := List.all_eq_true.1 hall r hr
        rw [isKnown, hd] at hk
        rw [hd]
        exact List.contains_iff_mem.1 hk
      refine Nat.succ_lt_succ (countP_lt_countP ?_ hname ?_ ?_)
      · intro q hq
        rw [Bool.not_eq_true'] at hq ⊢
        exact Bool.eq_false_iff.2 fun hg => Bool.eq_false_iff.1 hq ((hprocessed q).2 (.inl hg))
      · rw [(hprocessed _).2 (.inr ⟨r, hr, rfl⟩)]
        rfl
      · rw [Bool.not_eq_true']
        exact hc
    · have hle := List.countP_le_length (l := s.corpus.declaredNames)
        (p := fun q => !(g.pass s).registry.isProcessed q)
      omega

/-- Makes the components of all references, and of those that they need in turn. -/
def close (g : Generator) (s : Sources) : Generator :=
  if _h : g.pending = [] then g else (g.pass s).close s
termination_by g.work s
decreasing_by exact g.work_pass_lt s _h

theorem close_of_nil {g : Generator} (h : g.pending = []) (s : Sources) : g.close s = g := by
  rw [close, dif_pos h]

theorem close_of_ne_nil {g : Generator} (h : g.pending ≠ []) (s : Sources) :
    g.close s = (g.pass s).close s := by
  rw [close, dif_neg h]

/-- What every pass keeps, closing keeps. -/
theorem close_induction {motive : Generator → Prop} {s : Sources}
    (pass : ∀ g, motive g → motive (g.pass s)) (g : Generator) (h : motive g) :
    motive (g.close s) := by
  induction g using close.induct s with
  | case1 g hnil => rwa [close_of_nil hnil]
  | case2 g hne ih =>
    rw [close_of_ne_nil hne]
    exact ih (pass g h)

/-- After closing no reference waits. -/
theorem pending_close (g : Generator) (s : Sources) : (g.close s).pending = [] := by
  induction g using close.induct s with
  | case1 g hnil => rwa [close_of_nil hnil]
  | case2 g hne ih => rwa [close_of_ne_nil hne]

def path (g : Generator) (id : Nat) (r : Reference) : String :=
  if id < g.done then (g.registry.path? r.target.qualifiedName).getD Schema.unknownPath
  else Schema.unknownPath

def finish (g : Generator) : Components :=
  let paths := g.references.zipIdx.map fun (r, id) => g.path id r
  { registry := g.registry.patch paths, paths }

end Generator

end ApiRecovery
