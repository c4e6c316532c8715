import ApiRecovery.Proofs.Corpus.QualifiedNames
import ApiRecovery.Proofs.Java.DeclaredNames

/-!
# Looking up own names

A qualified name is made on the way down to a declaration and taken apart again when it is looked
up. Where files are named after their types, the two agree: what a qualified name finds has that
name, and a declaration is found by its own, unless a longer beginning of it has a file too or an
earlier sibling is named alike.
-/

namespace ApiRecovery

open Java (Declaration CompilationUnit DeclaredIn)

namespace Java

/-- Every step of the index path leads to the first of the siblings with that name. -/
def FirstSteps : List Declaration → List Nat → Prop
  | _, [] => True
  | siblings, i :: path =>
    ∃ d, FirstAt (fun e : Declaration => e.name = d.name) siblings i d ∧ FirstSteps d.members path

theorem DeclaredIn.not_mem_dot {outer : Option String} {d : Declaration} (h : DeclaredIn outer d) :
    '.' ∉ d.name.toList :=
  h.isWord.not_mem (by decide)

/-- The segments of a member's qualified name. -/
theorem DeclaredIn.split_member {outer : String} {m : Declaration}
    (h : DeclaredIn (some outer) m) :
    Text.split '.' m.qualifiedName = Text.split '.' outer ++ [m.name] := by
  rw [h.qualifiedName_eq, nameBelow, Text.split_append_dot, Text.split_of_not_mem h.not_mem_dot]

theorem getLast?_split_nameBelow {stem : String} (h : '.' ∉ stem.toList) (outer : Option String) :
    (Text.split '.' (nameBelow outer stem)).getLast? = some stem := by
  cases outer with
  | none => simp [nameBelow, Text.split_of_not_mem h]
  | some outer => exact Text.getLast?_split_append h outer

end Java

namespace Located

variable {l m : Located} {names : List String} {outer : Option String}

theorem HasMember.declaredIn {name : String} (h : l.HasMember name m)
    (hl : DeclaredIn outer l.declaration) :
    DeclaredIn (some l.qualifiedName) m.declaration := by
  obtain ⟨i, d, hd, rfl⟩ := h
  exact hl.member (List.mem_of_getElem? hd.at_index)

theorem Descends.file_eq (h : l.Descends names m) : m.file = l.file := by
  induction h with
  | here => rfl
  | member hm _ ih =>
    obtain ⟨i, d, -, rfl⟩ := hm
    exact ih

/-- The names of a chain of members are the last segments of the qualified name at its end. -/
theorem Descends.split_qualifiedName (h : l.Descends names m)
    (hl : DeclaredIn outer l.declaration) :
    Text.split '.' m.qualifiedName = Text.split '.' l.qualifiedName ++ names := by
  induction h generalizing outer with
  | here => simp
  | @member l m n name names hm _ ih =>
    have hdeclared := hm.declaredIn hl
    have hsegments : Text.split '.' m.qualifiedName = Text.split '.' l.qualifiedName ++ [name] := by
      rw [qualifiedName, hdeclared.split_member, hm.name_eq]
    rw [ih hdeclared, hsegments, List.append_assoc]
    rfl

/-- An index path of first siblings is a chain of members. -/
theorem exists_descends (file : Nat) (base : List Nat) {t d : Declaration} {path : List Nat}
    (hsteps : Java.FirstSteps t.members path) (h : t.descendant? path = some d) :
    ∃ names, (⟨file, base, t⟩ : Located).Descends names ⟨file, base ++ path, d⟩ := by
  induction path generalizing t base with
  | nil =>
    cases h
    exact ⟨[], by simpa using Descends.here⟩
  | cons i path ih =>
    obtain ⟨m, hm, hsteps⟩ := hsteps
    simp only [Declaration.descendant?, hm.at_index] at h
    obtain ⟨names, hnames⟩ := ih (base ++ [i]) hsteps h
    refine ⟨m.name :: names, .member ⟨i, m, hm, rfl⟩ ?_⟩
    simpa using hnames

end Located

namespace SourceFile

variable {f : SourceFile} {unit : CompilationUnit} {name : String}

theorem declaredIn_package (h : f.unit = some unit) :
    ∀ d ∈ unit.types, DeclaredIn unit.package d := by
  rw [f.unit_eq] at h
  cases hparse : CompilationUnit.parse f.text with
  | error e =>
    rw [hparse] at h
    cases h
  | ok u =>
    rw [hparse] at h
    cases h
    exact Java.declaredIn_package hparse

theorem primaryTypeName?_eq_some_iff : f.primaryTypeName? = some name ↔
    ∃ stem, Path.stem? f.path = some stem ∧ name = Java.nameBelow f.package stem := by
  unfold SourceFile.primaryTypeName? Java.nameBelow
  rw [Option.map_eq_some_iff]
  constructor
  · rintro ⟨stem, hstem, rfl⟩
    exact ⟨stem, hstem, rfl⟩
  · rintro ⟨stem, hstem, rfl⟩
    exact ⟨stem, hstem, rfl⟩

end SourceFile

namespace Corpus

variable {c : Corpus} {file : Nat} {f : SourceFile} {unit : CompilationUnit} {name : String}
  {l : Located}

theorem exists_file_of_unit? (h : c.unit? file = some unit) :
    ∃ f, c.files[file]? = some f ∧ f.unit = some unit :=
  Option.bind_eq_some_iff.1 h

theorem Indexed.primaryTypeName?_eq (h : c.Indexed name file) (hf : c.files[file]? = some f) :
    f.primaryTypeName? = some name := by
  obtain ⟨g, hg⟩ := h
  obtain rfl : g = f := Option.some.inj (hg.at_index.symm.trans hf)
  exact hg.holds

/-- Where the readings of the package agree and the stem is a single segment, a qualified name finds
a declaration of that name. -/
theorem MeansQualified.qualifiedName_eq (h : c.MeansQualified name (.declared l))
    (hf : c.files[l.file]? = some f) (hunit : f.unit = some unit)
    (hpackage : f.package = unit.package) (hstem : ∀ stem ∈ Path.stem? f.path, '.' ∉ stem.toList) :
    l.qualifiedName = name := by
  cases h with
  | @declared n file last primary l hn hfile hlast hprimary hl =>
    obtain ⟨unit', i, t, hunit', ht, rfl⟩ := hprimary
    have hfile_eq : l.file = file := hl.file_eq
    rw [hfile_eq] at hf
    obtain ⟨f', hf', hu⟩ := exists_file_of_unit? hunit'
    obtain rfl : f' = f := Option.some.inj (hf'.symm.trans hf)
    obtain rfl : unit' = unit := Option.some.inj (hu.symm.trans hunit)
    obtain ⟨stem, hstem_eq, hname⟩ :=
      SourceFile.primaryTypeName?_eq_some_iff.1 (hfile.primaryTypeName?_eq hf)
    have hdeclared := SourceFile.declaredIn_package hunit t (List.mem_of_getElem? ht.at_index)
    -- the segments of the beginning that has the file
    have hsegments : Text.split '.' (Text.join "." ((Text.split '.' name).take n)) =
        (Text.split '.' name).take n := by
      refine Text.split_join ?_ fun p hp => Text.not_mem_of_mem_split (List.take_subset _ _ hp)
      rw [ne_eq, List.take_eq_nil_iff, not_or]
      exact ⟨Nat.pos_iff_ne_zero.1 hn.1.2.1, Text.split_ne_nil _ _⟩
    have hstem_last : stem = last := by
      have hlast' := Java.getLast?_split_nameBelow (hstem stem hstem_eq) f'.package
      rw [← hname, hsegments, List.getLast?_take, if_neg (Nat.pos_iff_ne_zero.1 hn.1.2.1),
        hlast] at hlast'
      exact (Option.some.inj hlast').symm
    have htop : t.qualifiedName = Text.join "." ((Text.split '.' name).take n) := by
      rw [hdeclared.qualifiedName_eq, hname, hpackage, hstem_last, ht.holds]
    apply Text.split_injective '.'
    rw [hl.split_qualifiedName hdeclared]
    show Text.split '.' t.qualifiedName ++ _ = _
    rw [htop, hsegments, List.take_append_drop]

/-- Segments that have a file are the longest beginning that has one if no longer one has. -/
theorem longestIndexed_append {outer names : List String} (hpos : 0 < outer.length)
    (hindexed : c.Indexed (Text.join "." outer) file)
    (hlonger : ∀ n, outer.length < n → n ≤ (outer ++ names).length →
      ¬ c.IndexedUpTo (outer ++ names) n) :
    c.LongestIndexed (outer ++ names) (outer ++ names).length outer.length := by
  refine ⟨⟨?_, hpos, file, by rwa [List.take_left]⟩, ?_⟩
  · rw [List.length_append]
    exact Nat.le_add_right _ _
  · rintro n ⟨hn, hindexed'⟩
    by_contra hlt
    exact hlonger n (Nat.lt_of_not_le hlt) hn hindexed'

/-- A declaration that is reached by first siblings from the type its file is indexed under is found
by its own name, unless a longer beginning of that name has a file too. -/
theorem meansQualified_own_name {i : Nat} {path : List Nat} {t d : Declaration}
    (hunit : c.unit? file = some unit) (ht : unit.types[i]? = some t)
    (hd : unit.declaration? (i :: path) = some d) (hsteps : Java.FirstSteps unit.types (i :: path))
    (hindexed : c.Indexed t.qualifiedName file)
    (hlonger : ∀ n, (Text.split '.' t.qualifiedName).length < n →
      n ≤ (Text.split '.' d.qualifiedName).length →
      ¬ c.IndexedUpTo (Text.split '.' d.qualifiedName) n) :
    c.MeansQualified d.qualifiedName (.declared ⟨file, i :: path, d⟩) := by
  obtain ⟨f, hf, hu⟩ := exists_file_of_unit? hunit
  have hdeclared := SourceFile.declaredIn_package hu t (List.mem_of_getElem? ht)
  obtain ⟨t', ht', hmembers⟩ := hsteps
  obtain rfl : t' = t := Option.some.inj (ht'.at_index.symm.trans ht)
  simp only [CompilationUnit.declaration?, ht] at hd
  obtain ⟨names, hnames⟩ := Located.exists_descends file [i] hmembers hd
  have hsegments : Text.split '.' d.qualifiedName = Text.split '.' t'.qualifiedName ++ names :=
    hnames.split_qualifiedName hdeclared
  have hlast : (Text.split '.' t'.qualifiedName).getLast? = some t'.name := by
    rw [hdeclared.qualifiedName_eq]
    exact Java.getLast?_split_nameBelow hdeclared.not_mem_dot _
  have hpos := List.length_pos_iff.2 (Text.split_ne_nil '.' t'.qualifiedName)
  have hlongest : c.LongestIndexed (Text.split '.' d.qualifiedName)
      (Text.split '.' d.qualifiedName).length (Text.split '.' t'.qualifiedName).length := by
    rw [hsegments] at hlonger ⊢
    exact longestIndexed_append hpos (by rwa [Text.join_split]) hlonger
  refine .declared hlongest ?_ ?_ ⟨unit, i, t', hunit, ht', rfl⟩ ?_
  · rwa [hsegments, List.take_left, Text.join_split]
  · rw [hsegments, List.getElem?_append_left (Nat.sub_lt hpos Nat.one_pos),
      ← List.getLast?_eq_getElem?, hlast]
  · rwa [hsegments, List.drop_left]

/-- Where no file stem has a dot and both readings of every file's package agree, looking up a
qualified name and naming a declaration are inverse to each other: what a name finds is so named,
and a declaration is found by its own name. -/
theorem resolveQualified?_inverse (c : Corpus)
    (hstems : ∀ f ∈ c.files, ∀ stem ∈ Path.stem? f.path, '.' ∉ stem.toList)
    (hpackages : ∀ f ∈ c.files, ∀ unit ∈ f.unit, f.package = unit.package) :
    (∀ name l, c.resolveQualified? name = some (.declared l) → l.qualifiedName = name) ∧
    ∀ file unit i path t d, c.unit? file = some unit → unit.types[i]? = some t →
      unit.declaration? (i :: path) = some d → Java.FirstSteps unit.types (i :: path) →
      c.Indexed t.qualifiedName file →
      (∀ n, (Text.split '.' t.qualifiedName).length < n →
        n ≤ (Text.split '.' d.qualifiedName).length →
        ¬ c.IndexedUpTo (Text.split '.' d.qualifiedName) n) →
      c.resolveQualified? d.qualifiedName = some (.declared ⟨file, i :: path, d⟩) := by
  constructor
  · intro name l h
    have hmeans := resolveQualified?_eq_some_iff.1 h
    obtain ⟨unit, hunit, -⟩ := provides_resolveQualified h
    obtain ⟨f, hf, hu⟩ := exists_file_of_unit? hunit
    have hmem := List.mem_of_getElem? hf
    exact hmeans.qualifiedName_eq hf hu (hpackages f hmem unit hu) (hstems f hmem)
  · intro file unit i path t d hunit ht hd hsteps hindexed hlonger
    exact resolveQualified?_eq_some_iff.2
      (meansQualified_own_name hunit ht hd hsteps hindexed hlonger)

def nestedTypeFile : Corpus :=
  .ofSources [("a/B.java", "package a; class B \x7b class C \x7b\x7d \x7d")]

theorem nested_type_has_own_name : ∃ d, d.name = "C" ∧
    nestedTypeFile.resolveQualified? "a.B.C" = some (.declared ⟨0, [0, 0], d⟩) := by
  have hstems : ∀ f ∈ nestedTypeFile.files, ∀ stem ∈ Path.stem? f.path, '.' ∉ stem.toList := by
    decide +kernel
  have hpackages : ∀ f ∈ nestedTypeFile.files, ∀ unit ∈ f.unit, f.package = unit.package := by
    decide +kernel
  have hsome : (nestedTypeFile.unit? 0).isSome = true := by decide +kernel
  have htypes : ∀ unit ∈ nestedTypeFile.unit? 0, unit.types.map (·.qualifiedName) = ["a.B"] ∧
      unit.types.flatMap (·.members.map fun m => (m.name, m.qualifiedName)) = [("C", "a.B.C")] := by
    decide +kernel
  obtain ⟨unit, hunit⟩ := Option.isSome_iff_exists.1 hsome
  obtain ⟨houtermost, hmembers⟩ := htypes unit hunit
  obtain ⟨t, ht, hname⟩ := List.map_eq_singleton_iff.1 houtermost
  rw [ht, List.flatMap_singleton] at hmembers
  obtain ⟨d, hd, hnames⟩ := List.map_eq_singleton_iff.1 hmembers
  rw [Prod.mk.injEq] at hnames
  have hsteps : Java.FirstSteps unit.types [0, 0] := by
    rw [ht]
    refine ⟨t, firstAt_cons.2 (.inl ⟨rfl, rfl, rfl⟩), ?_⟩
    rw [hd]
    exact ⟨d, firstAt_cons.2 (.inl ⟨rfl, rfl, rfl⟩), trivial⟩
  have hindexed : nestedTypeFile.Indexed t.qualifiedName 0 := by
    rw [hname]
    exact fileForType?_eq_some_iff.1 (by decide +kernel)
  have hlonger : ∀ n, (Text.split '.' t.qualifiedName).length < n →
      n ≤ (Text.split '.' d.qualifiedName).length →
      ¬ nestedTypeFile.IndexedUpTo (Text.split '.' d.qualifiedName) n := by
    rw [hname, hnames.2]
    intro n hlt hle
    obtain rfl : n = 3 := Nat.le_antisymm hle hlt
    rintro ⟨-, file, hfile⟩
    have hnone : nestedTypeFile.fileForType? "a.B.C" = none := by decide +kernel
    have hfound := fileForType?_eq_some_iff.2 hfile
    cases hnone.symm.trans hfound
  refine ⟨d, hnames.1, ?_⟩
  have hfound := (resolveQualified?_inverse nestedTypeFile hstems hpackages).2 0 unit 0 [0] t d
    hunit (by rw [ht]; rfl) (by simp [CompilationUnit.declaration?, ht, Declaration.descendant?, hd])
    hsteps hindexed hlonger
  rwa [hnames.2] at hfound

end Corpus

end ApiRecovery
