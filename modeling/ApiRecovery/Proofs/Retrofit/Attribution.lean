import ApiRecovery.Proofs.Classification.Casts
import ApiRecovery.Retrofit.Locate

/-!
# What messages are attributed to

The kinds of parameter annotations are read off the code that complains about a wrong use of them.
An `if` statement tests for a type by the first type test in its condition. A message that gives
away a kind is attributed to the type of the innermost such statement around it, in whichever part
of the statement the message stands and however the test is used; so also in the part where the test
has failed.
-/

namespace ApiRecovery

open Java (Tree Kind Role)

/-! ## Tests and messages -/

def isParameterKind (name : String) : Bool :=
  AnnotationSet.parameterSamples.any fun (kind, _) => kind == name

namespace Java.Tree

/-- The type that an `if` statement tests for: that of the first type test in its condition. -/
def testedName? (t : Tree) : Option String :=
  if t.kind = .ifStatement then
    (((t.child? .condition).bind typeTest?).bind testedType?).map text
  else none

def messageKind? : Tree → Option String
  | node role .stringLiteral children =>
    kindOfMessage? (literalValue (node role .stringLiteral children).text)
  | _ => none

/-- The type of the innermost test among trees around a place, unless it has the name of a kind. -/
def candidate? (around : List Tree) : Option String :=
  (around.findSome? testedName?).filter fun name => !isParameterKind name

/-- What is recorded at a tree with others around it, a kind with a type as written. -/
def recorded? (p : List Tree × Tree) : Option (String × String) :=
  match p.2.messageKind? with
  | some kind => ((candidate? p.1).filter (· != "ParameterizedType")).map fun type => (kind, type)
  | none => (p.2.testedName?.filter isParameterKind).map fun name => (name, name)

/-- Whether a tree and all trees around it are named: keywords and punctuation are passed over. -/
def isReached (p : List Tree × Tree) : Bool :=
  (p.2 :: p.1).all isNamed

theorem candidate?_cons (t : Tree) (around : List Tree) :
    candidate? (t :: around) =
      match t.testedName? with
      | some name => if isParameterKind name then none else some name
      | none => candidate? around := by
  rw [candidate?, List.findSome?_cons]
  cases t.testedName? with
  | none => rfl
  | some name => cases h : isParameterKind name <;> simp [Option.filter, h]

/-- A tree records what it does, and then the trees inside it. -/
theorem parameterAnnotations_node (around : List Tree) (role : Option Role) (kind : Kind)
    (children : List Tree) :
    parameterAnnotations (candidate? around) (node role kind children) =
      (recorded? (around, node role kind children)).toList ++
        parameterAnnotationsOfAll (candidate? (node role kind children :: around)) children := by
  rw [candidate?_cons]
  cases kind with
  | ifStatement =>
    simp only [parameterAnnotations, recorded?, messageKind?, testedName?, Tree.kind, if_true]
    cases (((node role .ifStatement children).child? .condition).bind typeTest?).bind
        testedType? with
    | none => rfl
    | some type =>
      have hfold : (AnnotationSet.parameterSamples.any fun (kind, _) => kind == type.text) =
          isParameterKind type.text := rfl
      simp only [hfold, Option.map_some]
      cases h : isParameterKind type.text <;> simp [Option.filter, h]
  | stringLiteral =>
    simp only [parameterAnnotations, recorded?, messageKind?, testedName?, Tree.kind, reduceCtorEq,
      if_false]
    cases kindOfMessage? (literalValue (node role .stringLiteral children).text) with
    | none => simp
    | some kind =>
      cases (candidate? around).filter (· != "ParameterizedType") <;> rfl
  | _ => rfl

/-! ## The walk -/

/-- A tree is around all that is inside it. -/
theorem mem_of_mem_placed {around : List Tree} {t : Tree} {p : List Tree × Tree}
    (h : p ∈ t.placed around) : t ∈ p.2 :: p.1 := by
  cases t with
  | leaf role kind token =>
    rw [placed, List.mem_singleton] at h
    rw [h]
    exact List.mem_cons_self
  | node role kind children =>
    rw [placed, List.mem_cons] at h
    rcases h with rfl | h
    · exact List.mem_cons_self
    · have hsuffix := suffix_of_mem_placedInAll children h
      exact List.mem_cons_of_mem _ (hsuffix.subset List.mem_cons_self)

theorem recorded?_leaf (around : List Tree) (role : Option Role) (kind : Kind) (token : Token) :
    recorded? (around, leaf role kind token) = none := by
  simp [recorded?, messageKind?, testedName?, child?, children]

mutual

theorem parameterAnnotations_eq {around : List Tree} (h : around.all isNamed) : (t : Tree) →
    t.isNamed → parameterAnnotations (candidate? around) t =
      ((t.placed around).filter isReached).filterMap recorded?
  | leaf role kind token, hnamed => by
    have hreached : isReached (around, leaf role kind token) := by simp [isReached, h, hnamed]
    rw [placed, List.filter_cons_of_pos hreached, List.filterMap_cons_none (recorded?_leaf ..),
      parameterAnnotations]
    rfl
  | node role kind children, hnamed => by
    have hreached : isReached (around, node role kind children) := by simp [isReached, h, hnamed]
    have hinside : (node role kind children :: around).all isNamed := by simp [h, hnamed]
    rw [parameterAnnotations_node, placed, List.filter_cons_of_pos hreached, List.filterMap_cons,
      parameterAnnotationsOfAll_eq hinside children]
    cases recorded? (around, node role kind children) <;> rfl

theorem parameterAnnotationsOfAll_eq {around : List Tree} (h : around.all isNamed) :
    (ts : List Tree) → parameterAnnotationsOfAll (candidate? around) ts =
      ((placedInAll around ts).filter isReached).filterMap recorded?
  | [] => by rw [parameterAnnotationsOfAll, placedInAll]; rfl
  | t :: ts => by
    rw [parameterAnnotationsOfAll, placedInAll, List.filter_append, List.filterMap_append,
      parameterAnnotationsOfAll_eq h ts]
    by_cases hnamed : t.isNamed
    · rw [if_pos hnamed, parameterAnnotations_eq h t hnamed]
    · have hnone : (t.placed around).filter isReached = [] := by
        refine List.filter_eq_nil_iff.2 fun p hp hreached => hnamed ?_
        exact List.all_eq_true.1 hreached t (mem_of_mem_placed hp)
      rw [if_neg hnamed, hnone, List.filterMap_nil]

end

/-- A place lies in the part `part` of a statement `test` that tests for the type, with the trees
`outer` around it, and neither the place nor any tree between them tests for one. -/
def IsInnermostTest (type : String) (p : List Tree × Tree) (part test : Tree) (outer : List Tree) :
    Prop :=
  test.testedName? = some type ∧
    ∃ inner, p.2 :: p.1 = inner ++ part :: test :: outer ∧
      ∀ t ∈ inner ++ [part], t.testedName? = none

def isAttributable (type : String) : Bool :=
  !isParameterKind type && type != "ParameterizedType"

/-- A message of the kind stands at a place, and the innermost test around it is for the type. -/
def IsMessageFor (kind type : String) (p : List Tree × Tree) : Prop :=
  p.2.messageKind? = some kind ∧ isAttributable type ∧
    ∃ part test outer, IsInnermostTest type p part test outer

/-- Why a type is recorded under a kind at a place: it has the name of the kind and is tested for
there, or a message is attributed to it. -/
def IsReason (kind type : String) (p : List Tree × Tree) : Prop :=
  (p.2.testedName? = some type ∧ isParameterKind type ∧ kind = type) ∨ IsMessageFor kind type p

theorem messageKind?_of_testedName? {t : Tree} {type : String} (h : t.testedName? = some type) :
    t.messageKind? = none := by
  unfold messageKind?
  split
  · cases h
  · rfl

theorem testedName?_of_messageKind? {t : Tree} {kind : String} (h : t.messageKind? = some kind) :
    t.testedName? = none := by
  refine Option.eq_none_iff_forall_ne_some.2 fun type htested => ?_
  rw [messageKind?_of_testedName? htested] at h
  cases h

/-- Around a place that is no test, the first test outwards is the innermost one. -/
theorem findSome?_testedName?_eq_some_iff {p : List Tree × Tree} {type : String}
    (h : p.2.testedName? = none) : p.1.findSome? testedName? = some type ↔
      ∃ part test outer, IsInnermostTest type p part test outer := by
  have hplace : p.1.findSome? testedName? = (p.2 :: p.1).findSome? testedName? := by
    rw [List.findSome?_cons, h]
  rw [hplace, List.findSome?_eq_some_iff]
  constructor
  · rintro ⟨before, test, outer, heq, htest, hbefore⟩
    rcases List.eq_nil_or_concat before with rfl | ⟨inner, part, rfl⟩
    · obtain ⟨rfl, -⟩ := List.cons.inj heq
      rw [h] at htest
      cases htest
    · rw [List.concat_eq_append] at heq hbefore
      exact ⟨part, test, outer, htest, inner, by rw [heq, List.append_assoc]; rfl, hbefore⟩
  · rintro ⟨part, test, outer, htest, inner, heq, hinner⟩
    exact ⟨inner ++ [part], test, outer, by rw [heq, List.append_assoc]; rfl, htest, hinner⟩

theorem recorded?_eq_some_iff {p : List Tree × Tree} {kind type : String} :
    recorded? p = some (kind, type) ↔ IsReason kind type p := by
  rw [IsReason, IsMessageFor]
  cases hmessage : p.2.messageKind? with
  | some found =>
    have hnone := testedName?_of_messageKind? hmessage
    have hcandidate : ∀ {name}, (candidate? p.1).filter (· != "ParameterizedType") = some name ↔
        isAttributable name ∧ ∃ part test outer, IsInnermostTest name p part test outer := by
      intro name
      rw [candidate?, Option.filter_eq_some_iff, Option.filter_eq_some_iff,
        findSome?_testedName?_eq_some_iff hnone, isAttributable, Bool.and_eq_true]
      tauto
    simp only [recorded?, hmessage, hnone, Option.map_eq_some_iff, hcandidate]
    constructor
    · rintro ⟨name, hname, heq⟩
      cases heq
      exact .inr ⟨rfl, hname⟩
    · rintro (⟨h, -⟩ | ⟨heq, h⟩)
      · cases h
      · cases heq
        exact ⟨type, h, rfl⟩
  | none =>
    simp only [recorded?, hmessage, Option.map_eq_some_iff, Option.filter_eq_some_iff]
    constructor
    · rintro ⟨name, ⟨htested, hkind⟩, heq⟩
      cases heq
      exact .inl ⟨htested, hkind, rfl⟩
    · rintro (⟨htested, hkind, rfl⟩ | ⟨h, -⟩)
      · exact ⟨kind, ⟨htested, hkind⟩, rfl⟩
      · cases h

/-- What is recorded in a tree, with the reasons. -/
theorem mem_parameterAnnotations_iff {t : Tree} (h : t.isNamed) {kind type : String} :
    (kind, type) ∈ parameterAnnotations none t ↔
      ∃ p ∈ t.placed [], isReached p ∧ IsReason kind type p := by
  rw [show (none : Option String) = candidate? [] from rfl, parameterAnnotations_eq rfl t h]
  simp only [List.mem_filterMap, List.mem_filter, recorded?_eq_some_iff, and_assoc]

/-! ## Passed tests -/

mutual

/-- Whether a condition is a test for the type, in parentheses or as one side of `&&`: it holds only
if the test passes. -/
def passesFor (type : String) : Tree → Bool
  | leaf _ _ _ => false
  | node role kind children =>
    match kind with
    | .instanceofExpression => (node role kind children).testedType?.any (·.text == type)
    | .parenthesizedExpression => anyPassesFor type children
    | .binaryExpression =>
      ((node role kind children).child? .operator).map text == some "&&" &&
        anyPassesFor type children
    | _ => false

def anyPassesFor (type : String) : List Tree → Bool
  | [] => false
  | t :: ts => passesFor type t || anyPassesFor type ts

end

/-- Whether a part of a statement that tests for the type runs only when such a test has passed. -/
def hasPassed (type : String) (part test : Tree) : Bool :=
  test.testedName? == some type && part.role == some .consequence &&
    (test.child? .condition).any (passesFor type)

/-- Whether the first of some trees, each inside the next, is where a test for the type has
passed. -/
def isGuarded (type : String) : List Tree → Bool
  | part :: test :: outer => hasPassed type part test || isGuarded type (test :: outer)
  | _ => false

/-- Messages are recorded only for types that have passed a test where they stand. -/
def RecordsPassedOnly (t : Tree) : Prop :=
  ∀ p ∈ t.placed [], isReached p → ∀ kind type, IsMessageFor kind type p →
    isGuarded type (p.2 :: p.1)

theorem isGuarded_append {type : String} {part test : Tree} {inner outer : List Tree}
    (h : ∀ t ∈ inner ++ [part], t.testedName? = none) :
    isGuarded type (inner ++ part :: test :: outer) =
      (hasPassed type part test || isGuarded type (test :: outer)) := by
  have hnone : ∀ {x t : Tree}, t.testedName? = none → hasPassed type x t = false := by
    intro x t ht
    simp [hasPassed, ht]
  induction inner with
  | nil => rfl
  | cons x inner ih =>
    have hrest := ih fun t ht => h t (List.mem_cons_of_mem _ ht)
    cases inner with
    | nil =>
      have hpart := h part (by simp)
      rw [List.cons_append, List.nil_append, isGuarded, hnone hpart, Bool.false_or]
      exact hrest
    | cons y inner =>
      have hy := h y (by simp)
      rw [List.cons_append, List.cons_append, isGuarded, hnone hy, Bool.false_or]
      exact hrest

/-- This is so exactly if each message stands where the innermost test around it has passed, or one
for the same type has passed where the statement with that test stands. -/
theorem recordsPassedOnly_iff {t : Tree} :
    t.RecordsPassedOnly ↔ ∀ p ∈ t.placed [], isReached p → p.2.messageKind?.isSome →
      ∀ type part test outer, isAttributable type → IsInnermostTest type p part test outer →
        hasPassed type part test ∨ isGuarded type (test :: outer) := by
  have hsplit : ∀ {type : String} {p : List Tree × Tree} {part test : Tree} {outer : List Tree},
      IsInnermostTest type p part test outer → (isGuarded type (p.2 :: p.1) ↔
        hasPassed type part test ∨ isGuarded type (test :: outer)) := by
    rintro type p part test outer ⟨-, inner, heq, hinner⟩
    rw [heq, isGuarded_append hinner, Bool.or_eq_true]
  constructor
  · intro h p hp hreached hmessage type part test outer htype htest
    obtain ⟨kind, hkind⟩ := Option.isSome_iff_exists.1 hmessage
    exact (hsplit htest).1 (h p hp hreached kind type ⟨hkind, htype, part, test, outer, htest⟩)
  · rintro h p hp hreached kind type ⟨hkind, htype, part, test, outer, htest⟩
    have hmessage : p.2.messageKind?.isSome := by rw [hkind]; rfl
    exact (hsplit htest).2 (h p hp hreached hmessage type part test outer htype htest)

/-! ## Readers -/

mutual

theorem kind_of_mem_methodsAround {values : List String} {enclosing : Option Tree} {m : Tree} :
    (t : Tree) → m ∈ t.methodsAround values enclosing →
      enclosing = some m ∨ m.kind = .methodDeclaration
  | leaf _ _ _, h => by simp [methodsAround] at h
  | node role kind children, h => by
    rw [methodsAround] at h
    split at h
    · split at h
      · exact .inl (Option.mem_toList.1 h)
      · cases h
    · split at h
      · rename_i hkind
        rcases kind_of_mem_methodsAroundAll children h with heq | hmethod
        · exact .inr (Option.some.inj heq ▸ hkind)
        · exact .inr hmethod
      · exact kind_of_mem_methodsAroundAll children h

theorem kind_of_mem_methodsAroundAll {values : List String} {enclosing : Option Tree} {m : Tree} :
    (ts : List Tree) → m ∈ methodsAroundAll values enclosing ts →
      enclosing = some m ∨ m.kind = .methodDeclaration
  | [], h => by simp [methodsAroundAll] at h
  | t :: ts, h => by
    rw [methodsAroundAll, List.mem_append] at h
    exact h.elim (kind_of_mem_methodsAround t) (kind_of_mem_methodsAroundAll ts)

end

theorem kind_of_methodWith? {t m : Tree} {values : List String}
    (h : t.methodWith? values = some m) : m.kind = .methodDeclaration :=
  (kind_of_mem_methodsAround t (List.mem_of_getLast? h)).resolve_left nofun

end Java.Tree

def AnnotationSet.Has (s : AnnotationSet) (kind name : String) : Prop :=
  ∃ names, (kind, names) ∈ s.entries ∧ name ∈ names

namespace AnnotationSet

variable {s : AnnotationSet} {kind name kind' name' : String}

theorem has_cons (kind : String) (names : List String) (rest : List (String × List String)) :
    Has ⟨(kind, names) :: rest⟩ kind' name' ↔
      kind' = kind ∧ name' ∈ names ∨ Has ⟨rest⟩ kind' name' := by
  simp only [Has, List.mem_cons, Prod.mk.injEq, or_and_right, exists_or, and_assoc]
  simp

theorem has_add : (s.add kind name).Has kind' name' ↔
    kind' = kind ∧ name' = name ∨ s.Has kind' name' := by
  obtain ⟨entries⟩ := s
  rw [add]
  induction entries with
  | nil => simp [addTo, Has]
  | cons entry rest ih =>
    obtain ⟨k, names⟩ := entry
    rw [addTo, has_cons]
    split
    · rename_i heq
      have hmem : name' ∈ (if names.contains name then names else names ++ [name]) ↔
          name' = name ∨ name' ∈ names := by
        split <;> simp_all [or_comm]
      rw [has_cons, hmem, heq]
      tauto
    · split
      · rw [has_cons, has_cons, List.mem_singleton]
      · rw [has_cons, ih]
        tauto

theorem has_addAll (pairs : List (String × String)) :
    (s.addAll pairs).Has kind name ↔ (kind, name) ∈ pairs ∨ s.Has kind name := by
  induction pairs generalizing s with
  | nil => simp [addAll]
  | cons pair pairs ih =>
    obtain ⟨k, n⟩ := pair
    have hstep : s.addAll ((k, n) :: pairs) = (s.add k n).addAll pairs := rfl
    rw [hstep, ih, has_add, List.mem_cons, Prod.mk.injEq]
    tauto

end AnnotationSet

namespace Corpus

variable {c : Corpus} {found : AnnotationSet}

theorem mem_resolveKinds {scope : Scope} {uses : List (String × String)} {kind name : String} :
    (kind, name) ∈ c.resolveKinds scope uses ↔ ∃ type resolved, (kind, type) ∈ uses ∧
      c.resolveName scope type = .ok resolved ∧ resolved.qualifiedName = name := by
  simp only [resolveKinds, List.mem_filterMap, Prod.exists]
  constructor
  · rintro ⟨kind', type, hmem, h⟩
    split at h
    · rename_i resolved hresolved
      cases h
      exact ⟨type, resolved, hmem, hresolved, rfl⟩
    · cases h
  · rintro ⟨type, resolved, hmem, hresolved, rfl⟩
    exact ⟨kind, type, hmem, by rw [hresolved]⟩

/-- The method with one of the messages in the file that reads annotations. -/
def readerOf? (c : Corpus) (messages : List String) : Option Tree := do
  let file ← c.file? (← c.annotationReaderFile?)
  (← file.tree.toOption).methodWith? messages

theorem kind_of_readerOf? {messages : List String} {t : Tree}
    (h : c.readerOf? messages = some t) : t.kind = .methodDeclaration := by
  obtain ⟨id, -, h⟩ := Option.bind_eq_some_iff.1 h
  obtain ⟨file, -, h⟩ := Option.bind_eq_some_iff.1 h
  obtain ⟨tree, -, h⟩ := Option.bind_eq_some_iff.1 h
  exact Tree.kind_of_methodWith? h

/-- Where annotations are located, both readers are found, and what they record is located, as far
as it can be resolved. -/
theorem exists_readers (h : c.locateAnnotations = .ok found) :
    ∃ id methodReader reader, c.annotationReaderFile? = some id ∧
      c.readerOf? methodReaderMessages = some methodReader ∧
      c.readerOf? [parameterReaderMessage] = some reader ∧
      found = AnnotationSet.addAll {} (c.resolveKinds (c.primaryScope id)
        ((c.constantsIn (c.primaryScope id)).methodAnnotations none methodReader ++
          parameterAnnotations none reader)) := by
  unfold locateAnnotations at h
  split at h
  · cases h
  · rename_i id file hfile
    obtain ⟨id', hid, hmap⟩ := Option.bind_eq_some_iff.1 hfile
    obtain ⟨file', hfile', heq⟩ := Option.map_eq_some_iff.1 hmap
    cases heq
    split at h
    · cases h
    · rename_i tree htree
      have hreader : ∀ messages, c.readerOf? messages = tree.methodWith? messages := by
        intro messages
        simp [readerOf?, hid, hfile', htree, Except.toOption]
      dsimp only at h
      split at h
      · cases h
      · cases h
      · rename_i methodReader reader hmethod hparameter
        cases h
        exact ⟨id, methodReader, reader, hid, (hreader _).trans hmethod,
          (hreader _).trans hparameter, rfl⟩

theorem has_iff_of_locateAnnotations {t : Tree} (h : c.locateAnnotations = .ok found)
    (ht : c.readerOf? [parameterReaderMessage] = some t) :
    ∃ id methodReader, c.annotationReaderFile? = some id ∧
      c.readerOf? methodReaderMessages = some methodReader ∧
      ∀ kind name, found.Has kind name ↔ ∃ type resolved,
        c.resolveName (c.primaryScope id) type = .ok resolved ∧ resolved.qualifiedName = name ∧
        ((kind, type) ∈ (c.constantsIn (c.primaryScope id)).methodAnnotations none methodReader ∨
          (kind, type) ∈ parameterAnnotations none t) := by
  obtain ⟨id, methodReader, reader, hid, hmethod, hreader, rfl⟩ := exists_readers h
  cases hreader.symm.trans ht
  refine ⟨id, methodReader, hid, hmethod, fun kind name => ?_⟩
  have hempty : ¬ AnnotationSet.Has {} kind name := by
    rintro ⟨names, hmem, -⟩
    cases hmem
  rw [AnnotationSet.has_addAll, or_iff_left hempty, mem_resolveKinds]
  simp only [List.mem_append]
  constructor
  · rintro ⟨type, resolved, hmem, hresolved, hname⟩
    exact ⟨type, resolved, hresolved, hname, hmem⟩
  · rintro ⟨type, resolved, hresolved, hname, hmem⟩
    exact ⟨type, resolved, hmem, hresolved, hname⟩

/-- In the method that reads the annotations of parameters, whatever its tree, a type is recorded
under a kind for one of two reasons: a statement tests for it and it has the name of the kind, or a
message of the kind stands somewhere in a statement that tests for it and in no other further
inside. So messages are recorded only for types that have passed a test where they stand exactly if
each stands where the innermost test has passed, or a test for the same type further outside. What
is located are the qualified names of the types that this method and that for the annotations of
methods record. -/
theorem recorded_iff_innermost_test {t : Tree} (h : t.kind = .methodDeclaration) :
    (∀ kind type, (kind, type) ∈ parameterAnnotations none t ↔
      ∃ p ∈ t.placed [], Tree.isReached p ∧ Tree.IsReason kind type p) ∧
    (t.RecordsPassedOnly ↔ ∀ p ∈ t.placed [], Tree.isReached p → p.2.messageKind?.isSome →
      ∀ type part test outer, Tree.isAttributable type →
        Tree.IsInnermostTest type p part test outer →
        Tree.hasPassed type part test ∨ Tree.isGuarded type (test :: outer)) ∧
    ∀ c found, locateAnnotations c = .ok found →
      c.readerOf? [parameterReaderMessage] = some t →
      ∃ id methodReader, c.annotationReaderFile? = some id ∧
        c.readerOf? methodReaderMessages = some methodReader ∧
        ∀ kind name, found.Has kind name ↔ ∃ type resolved,
          c.resolveName (c.primaryScope id) type = .ok resolved ∧ resolved.qualifiedName = name ∧
          ((kind, type) ∈ (c.constantsIn (c.primaryScope id)).methodAnnotations none methodReader ∨
            (kind, type) ∈ parameterAnnotations none t) := by
  have hnamed : t.isNamed := by
    rw [Tree.isNamed, h]
    rfl
  exact ⟨fun kind type => Tree.mem_parameterAnnotations_iff hnamed, Tree.recordsPassedOnly_iff,
    fun c found => has_iff_of_locateAnnotations⟩

/-- A message in the other part of a statement that tests for `a`, and one under a negated test. -/
def failedTests : Corpus :=
  .ofSources [("R.java", "@interface a\x7b\x7dclass R\x7bvoid m()\x7b" ++
    "t(\"@Headers annotation is empty.\");" ++
    "if(x instanceof a);else t(\"A @Path parameter must not come after a @Query.\");" ++
    "if(!(x instanceof a))t(\"@PartMap parameter type must be Map.\");\x7d\x7d")]

theorem failedTests_read :
    failedTests.locateAnnotations.toOption = some ⟨[("PartMap", ["a"]), ("Path", ["a"])]⟩ ∧
    failedTests.annotationReaderFile? = some 0 ∧
    (failedTests.resolveName (failedTests.primaryScope 0) "a").toOption.map (·.qualifiedName) =
      some "a" ∧
    (failedTests.readerOf? [parameterReaderMessage]).map (fun reader =>
        (parameterAnnotations none reader, (reader.placed []).all fun p =>
          p.2.messageKind?.isNone || !Tree.isGuarded "a" (p.2 :: p.1))) =
      some ([("Path", "a"), ("PartMap", "a")], true) := by
  decide +kernel

theorem locateAnnotations_failedTests :
    failedTests.locateAnnotations = .ok ⟨[("PartMap", ["a"]), ("Path", ["a"])]⟩ := by
  have hread := failedTests_read.1
  cases h : failedTests.locateAnnotations with
  | error e => rw [h] at hread; cases hread
  | ok found => rw [h] at hread; exact congrArg _ (Option.some.inj hread)

/-- The message in the other part is located for what its statement tests for. -/
theorem located_in_other_part :
    ∃ found reader, reader.kind = .methodDeclaration ∧
      failedTests.locateAnnotations = .ok found ∧
      failedTests.readerOf? [parameterReaderMessage] = some reader ∧
      (∃ p ∈ reader.placed [], Tree.isReached p ∧ Tree.IsReason "Path" "a" p) ∧
      found.Has "Path" "a" := by
  obtain ⟨-, hfirst, hname, hvalues⟩ := failedTests_read
  obtain ⟨reader, hreader, hvalues⟩ := Option.map_eq_some_iff.1 hvalues
  obtain ⟨hrecorded, -⟩ := Prod.mk.inj hvalues
  have hkind := kind_of_readerOf? hreader
  obtain ⟨hreasons, -, hlocated⟩ := recorded_iff_innermost_test hkind
  obtain ⟨id, methodReader, hid, -, hhas⟩ :=
    hlocated _ _ locateAnnotations_failedTests hreader
  obtain ⟨resolved, hresolved, hqualified⟩ := exists_resolveName_eq_ok hname
  have hmem : ("Path", "a") ∈ parameterAnnotations none reader := by
    rw [hrecorded]
    decide
  refine ⟨_, reader, hkind, locateAnnotations_failedTests, hreader, (hreasons _ _).1 hmem,
    (hhas _ _).2 ?_⟩
  cases hfirst.symm.trans hid
  exact ⟨"a", resolved, hresolved, hqualified, .inr hmem⟩

/-- Both messages are recorded for `a`, though none stands in the block of a passed test. -/
theorem message_after_failed_test :
    ∃ reader, failedTests.readerOf? [parameterReaderMessage] = some reader ∧
      parameterAnnotations none reader = [("Path", "a"), ("PartMap", "a")] ∧
      (∀ p ∈ reader.placed [], p.2.messageKind?.isSome →
        Tree.isGuarded "a" (p.2 :: p.1) = false) ∧
      failedTests.locateAnnotations = .ok ⟨[("PartMap", ["a"]), ("Path", ["a"])]⟩ := by
  obtain ⟨reader, hreader, hvalues⟩ := Option.map_eq_some_iff.1 failedTests_read.2.2.2
  obtain ⟨hrecorded, hguarded⟩ := Prod.mk.inj hvalues
  refine ⟨reader, hreader, hrecorded, fun p hp hmessage => ?_, locateAnnotations_failedTests⟩
  have hone := List.all_eq_true.1 hguarded p hp
  simpa [Option.isSome_iff_ne_none.1 hmessage] using hone

end Corpus

end ApiRecovery
