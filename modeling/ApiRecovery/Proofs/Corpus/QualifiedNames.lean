import ApiRecovery.Corpus.Declares
import Mathlib.Order.Bounds.Basic

/-!
# The meaning of qualified names

What members and fully qualified names mean, said without searching: which element is the first that
fits and which beginning is the longest that has a file. The searches find these.
-/

namespace ApiRecovery

open Java (Declaration CompilationUnit)

/-! ## The first and the longest -/

/-- `x`, at index `i`, is the first element that satisfies `p`. -/
structure FirstAt {α : Type} (p : α → Prop) (l : List α) (i : Nat) (x : α) : Prop where
  at_index : l[i]? = some x
  holds : p x
  before : ∀ j y, j < i → l[j]? = some y → ¬ p y

section Search

variable {α β : Type} {p : α → Prop} {q : α → Bool} {l : List α} {i : Nat} {x y : α}

@[simp] theorem not_firstAt_nil : ¬ FirstAt p [] i x := fun h => by
  simpa using h.at_index

theorem firstAt_cons : FirstAt p (y :: l) i x ↔
    (p y ∧ i = 0 ∧ x = y) ∨ (¬ p y ∧ ∃ j, i = j + 1 ∧ FirstAt p l j x) := by
  constructor
  · intro h
    cases i with
    | zero =>
      obtain rfl : y = x := by simpa using h.at_index
      exact .inl ⟨h.holds, rfl, rfl⟩
    | succ j =>
      have hx : l[j]? = some x := by simpa using h.at_index
      refine .inr ⟨h.before 0 y (Nat.succ_pos j) rfl, j, rfl, hx, h.holds, ?_⟩
      intro k z hk hz
      exact h.before (k + 1) z (Nat.succ_lt_succ hk) (by simpa using hz)
  · rintro (⟨hy, rfl, rfl⟩ | ⟨hy, j, rfl, h⟩)
    · exact ⟨rfl, hy, fun j _ hj => absurd hj (Nat.not_lt_zero j)⟩
    · refine ⟨by simpa using h.at_index, h.holds, ?_⟩
      intro k z hk hz
      cases k with
      | zero =>
        obtain rfl : y = z := by simpa using hz
        exact hy
      | succ k => exact h.before k z (Nat.lt_of_succ_lt_succ hk) (by simpa using hz)

theorem findIdx?_and_getElem?_iff (hq : ∀ x, q x = true ↔ p x) :
    (l.findIdx? q = some i ∧ l[i]? = some x) ↔ FirstAt p l i x := by
  rw [List.findIdx?_eq_some_iff_getElem]
  constructor
  · rintro ⟨⟨hi, hqx, hbefore⟩, hx⟩
    obtain rfl : l[i] = x := by simpa [hi] using hx
    refine ⟨hx, (hq _).1 hqx, ?_⟩
    intro j y hj hy hp
    obtain ⟨hj', rfl⟩ := List.getElem?_eq_some_iff.1 hy
    exact hbefore j hj ((hq _).2 hp)
  · intro h
    obtain ⟨hi, rfl⟩ := List.getElem?_eq_some_iff.1 h.at_index
    refine ⟨⟨hi, (hq _).2 h.holds, ?_⟩, h.at_index⟩
    intro j hj hqj
    exact h.before j _ hj (List.getElem?_eq_getElem (hj.trans hi)) ((hq _).1 hqj)

theorem find?_eq_some_iff_firstAt (hq : ∀ x, q x = true ↔ p x) :
    l.find? q = some x ↔ ∃ i, FirstAt p l i x := by
  induction l with
  | nil => simp
  | cons y l ih =>
    by_cases hy : p y
    · simp [(hq y).2 hy, firstAt_cons, hy, eq_comm]
    · have hqy : q y = false := Bool.eq_false_iff.2 fun h => hy ((hq y).1 h)
      simp only [List.find?_cons, hqy, ih, firstAt_cons, hy, false_and, false_or, not_false_iff,
        true_and]
      exact ⟨fun ⟨i, h⟩ => ⟨i + 1, i, rfl, h⟩, fun ⟨_, i, _, h⟩ => ⟨i, h⟩⟩

/-- A search that computes an answer stops at the first element that has one. -/
theorem findSome?_filter_eq_some_iff {f : α → Option β} {Answers : α → β → Prop} {b : β}
    (hq : ∀ x, q x = true ↔ p x) (hf : ∀ x b, f x = some b ↔ Answers x b) :
    (l.filter q).findSome? f = some b ↔
      ∃ i x, FirstAt (fun x => p x ∧ ∃ b, Answers x b) l i x ∧ Answers x b := by
  induction l with
  | nil => simp
  | cons y l ih =>
    have hrest : (∃ i x, (∃ j, i = j + 1 ∧ FirstAt (fun x => p x ∧ ∃ b, Answers x b) l j x) ∧
        Answers x b) ↔ (l.filter q).findSome? f = some b := by
      rw [ih]
      exact ⟨fun ⟨_, x, ⟨j, _, h⟩, hx⟩ => ⟨j, x, h, hx⟩,
        fun ⟨j, x, h, hx⟩ => ⟨j + 1, x, ⟨j, rfl, h⟩, hx⟩⟩
    by_cases hy : p y ∧ ∃ b, Answers y b
    · obtain ⟨hp, b', hb'⟩ := hy
      have hfy : f y = some b' := (hf y b').2 hb'
      have hy' : p y ∧ ∃ b, Answers y b := ⟨hp, b', hb'⟩
      simp only [List.filter_cons, (hq y).2 hp, if_true, List.findSome?_cons, hfy, firstAt_cons,
        hy', not_true_eq_false, false_and, or_false, true_and]
      rw [← hfy, hf]
      exact ⟨fun h => ⟨0, y, ⟨rfl, rfl⟩, h⟩, fun ⟨_, _, ⟨_, hx⟩, h⟩ => hx ▸ h⟩
    · simp only [firstAt_cons, hy, false_and, false_or, not_false_iff, true_and, hrest]
      by_cases hp : p y
      · have hfy : f y = none := by
          cases hfy : f y with
          | none => rfl
          | some b' => exact absurd ⟨hp, b', (hf y b').1 hfy⟩ hy
        simp [(hq y).2 hp, hfy]
      · have hqy : q y = false := Bool.eq_false_iff.2 fun h => hp ((hq y).1 h)
        simp [hqy]

end Search

section Longest

variable {P : Nat → Prop} {bound n : Nat}

theorem isGreatest_zero : IsGreatest {n | n ≤ 0 ∧ P n} n ↔ n = 0 ∧ P 0 := by
  constructor
  · rintro ⟨⟨hn, hp⟩, -⟩
    obtain rfl : n = 0 := Nat.le_zero.1 hn
    exact ⟨rfl, hp⟩
  · rintro ⟨rfl, hp⟩
    exact ⟨⟨Nat.le_refl 0, hp⟩, fun m hm => hm.1⟩

theorem isGreatest_succ (h : P (bound + 1)) :
    IsGreatest {n | n ≤ bound + 1 ∧ P n} n ↔ n = bound + 1 := by
  have top : IsGreatest {n | n ≤ bound + 1 ∧ P n} (bound + 1) :=
    ⟨⟨Nat.le_refl _, h⟩, fun m hm => hm.1⟩
  exact ⟨fun hn => hn.unique top, fun hn => hn ▸ top⟩

theorem isGreatest_succ_of_not (h : ¬ P (bound + 1)) :
    IsGreatest {n | n ≤ bound + 1 ∧ P n} n ↔ IsGreatest {n | n ≤ bound ∧ P n} n := by
  have same : {n | n ≤ bound + 1 ∧ P n} = {n | n ≤ bound ∧ P n} := by
    ext m
    constructor
    · rintro ⟨hm, hp⟩
      have hne : m ≠ bound + 1 := fun e => h (e ▸ hp)
      exact ⟨by omega, hp⟩
    · rintro ⟨hm, hp⟩
      exact ⟨Nat.le_succ_of_le hm, hp⟩
  rw [same]

theorem exists_isGreatest (h : P n) (hn : n ≤ bound) :
    ∃ m, IsGreatest {n | n ≤ bound ∧ P n} m := by
  induction bound with
  | zero =>
    obtain rfl : n = 0 := Nat.le_zero.1 hn
    exact ⟨0, isGreatest_zero.2 ⟨rfl, h⟩⟩
  | succ bound ih =>
    by_cases htop : P (bound + 1)
    · exact ⟨bound + 1, (isGreatest_succ htop).2 rfl⟩
    · have hne : n ≠ bound + 1 := fun e => htop (e ▸ h)
      obtain ⟨m, hm⟩ := ih (by omega)
      exact ⟨m, (isGreatest_succ_of_not htop).2 hm⟩

end Longest

/-! ## Members -/

namespace Located

/-- `m` is the member type of that name, the first if there are several. -/
def HasMember (l : Located) (name : String) (m : Located) : Prop :=
  ∃ i d, FirstAt (·.name = name) l.declaration.members i d ∧ m = ⟨l.file, l.path ++ [i], d⟩

inductive Descends : Located → List String → Located → Prop
  | here {l : Located} : Descends l [] l
  | member {l m n : Located} {name : String} {names : List String} :
      l.HasMember name m → Descends m names n → Descends l (name :: names) n

/-- `x` is the member type of that name or, failing that, the declaration itself if it is so
named. -/
inductive Offers (l : Located) (name : String) : Located → Prop
  | member {m : Located} : l.HasMember name m → Offers l name m
  | itself : (∀ m, ¬ l.HasMember name m) → l.declaration.name = name → Offers l name l

variable {l m : Located} {name : String} {names : List String}

theorem member?_eq_some_iff : l.member? name = some m ↔ l.HasMember name m := by
  unfold member? HasMember Declaration.memberIndex?
  have hname : ∀ d : Declaration, (d.name == name) = true ↔ d.name = name := by simp
  constructor
  · intro h
    split at h
    · cases h
    · rename_i i hi
      obtain ⟨d, hd, rfl⟩ := Option.map_eq_some_iff.1 h
      exact ⟨i, d, (findIdx?_and_getElem?_iff hname).1 ⟨hi, hd⟩, rfl⟩
  · rintro ⟨i, d, hfirst, rfl⟩
    obtain ⟨hi, hd⟩ := (findIdx?_and_getElem?_iff hname).2 hfirst
    simp [hi, hd]

theorem member?_eq_none_iff : l.member? name = none ↔ ∀ m, ¬ l.HasMember name m := by
  simp only [← member?_eq_some_iff, Option.eq_none_iff_forall_ne_some, ne_eq]

theorem descend?_eq_some_iff : l.descend? names = some m ↔ l.Descends names m := by
  constructor
  · intro h
    induction names generalizing l with
    | nil =>
      cases h
      exact .here
    | cons name names ih =>
      simp only [descend?] at h
      split at h
      · cases h
      · rename_i e he
        exact .member (member?_eq_some_iff.1 he) (ih h)
  · intro h
    induction h with
    | here => rfl
    | member hm _ ih => simp [descend?, member?_eq_some_iff.2 hm, ih]

theorem HasMember.name_eq (h : l.HasMember name m) : m.declaration.name = name := by
  obtain ⟨i, d, hd, rfl⟩ := h
  exact hd.holds

theorem Offers.name_eq (h : l.Offers name m) : m.declaration.name = name := by
  cases h with
  | member hm => exact hm.name_eq
  | itself _ hname => exact hname

theorem Offers.unique {m n : Located} (hm : l.Offers name m) (hn : l.Offers name n) : m = n := by
  cases hm with
  | member hm =>
    cases hn with
    | member hn =>
      exact Option.some.inj ((member?_eq_some_iff.2 hm).symm.trans
        (member?_eq_some_iff.2 hn))
    | itself hnone _ => exact absurd hm (hnone m)
  | itself hnone _ =>
    cases hn with
    | member hn => exact absurd hn (hnone n)
    | itself => rfl

/-- The last name of a chain is that of the declaration it leads to. -/
theorem Descends.getLast?_eq (h : l.Descends names m) (hne : names ≠ []) :
    names.getLast? = some m.declaration.name := by
  induction h with
  | here => exact absurd rfl hne
  | @member l m n name names hm hn ih =>
    cases names with
    | nil =>
      cases hn
      rw [hm.name_eq]
      rfl
    | cons next names => simpa using ih (by simp)

end Located

namespace Corpus

variable {c : Corpus} {file : Nat} {name : String} {l : Located} {r : Resolved}

/-! ## Qualified names -/

/-- `l` is the type at top level of that name in the file, the first if there are several. -/
def TopLevel (c : Corpus) (file : Nat) (name : String) (l : Located) : Prop :=
  ∃ unit i d, c.unit? file = some unit ∧ FirstAt (·.name = name) unit.types i d ∧
    l = ⟨file, [i], d⟩

/-- The file is the first whose path lets expect the type of that qualified name. -/
def Indexed (c : Corpus) (qualifiedName : String) (file : Nat) : Prop :=
  ∃ f, FirstAt (·.primaryTypeName? = some qualifiedName) c.files file f

def IndexedUpTo (c : Corpus) (segments : List String) (n : Nat) : Prop :=
  0 < n ∧ ∃ file, c.Indexed (Text.join "." (segments.take n)) file

def LongestIndexed (c : Corpus) (segments : List String) (bound n : Nat) : Prop :=
  IsGreatest {n | n ≤ bound ∧ c.IndexedUpTo segments n} n

/-- What a fully qualified name stands for. Only the longest beginning with a file counts: when its
type is missing, the name stands for nothing. -/
inductive MeansQualified (c : Corpus) (name : String) : Resolved → Prop
  | declared {n file : Nat} {last : String} {primary l : Located} :
      c.LongestIndexed (Text.split '.' name) (Text.split '.' name).length n →
      c.Indexed (Text.join "." ((Text.split '.' name).take n)) file →
      (Text.split '.' name)[n - 1]? = some last → c.TopLevel file last primary →
      primary.Descends ((Text.split '.' name).drop n) l → MeansQualified c name (.declared l)
  | library :
      (∀ n ≤ (Text.split '.' name).length, ¬ c.IndexedUpTo (Text.split '.' name) n) →
      name ∈ knownLibraryTypes → MeansQualified c name (.external name)

theorem topLevel?_eq_some_iff : c.topLevel? file name = some l ↔ c.TopLevel file name l := by
  unfold topLevel? TopLevel
  have hname : ∀ d : Declaration, (d.name == name) = true ↔ d.name = name := by simp
  constructor
  · intro h
    split at h
    · cases h
    · rename_i unit hunit
      split at h
      · cases h
      · rename_i i hi
        obtain ⟨d, hd, rfl⟩ := Option.map_eq_some_iff.1 h
        exact ⟨unit, i, d, hunit, (findIdx?_and_getElem?_iff hname).1 ⟨hi, hd⟩, rfl⟩
  · rintro ⟨unit, i, d, hunit, hfirst, rfl⟩
    obtain ⟨hi, hd⟩ := (findIdx?_and_getElem?_iff hname).2 hfirst
    simp [hunit, hi, hd]

theorem fileForType?_eq_some_iff : c.fileForType? name = some file ↔ c.Indexed name file := by
  unfold fileForType? Indexed
  have hname : ∀ f : SourceFile, (f.primaryTypeName? == some name) = true ↔
      f.primaryTypeName? = some name := by simp
  constructor
  · intro h
    obtain ⟨hlt, -⟩ := List.findIdx?_eq_some_iff_getElem.1 h
    exact ⟨c.files[file], (findIdx?_and_getElem?_iff hname).1 ⟨h, List.getElem?_eq_getElem hlt⟩⟩
  · rintro ⟨f, hfirst⟩
    exact ((findIdx?_and_getElem?_iff hname).2 hfirst).1

/-- The search takes the longest beginning that has a file, and no shorter one if that fails. -/
theorem resolveSplit_eq_some_iff {outer members : List String} {found : Option Located} :
    c.resolveSplit outer members = some found ↔
      ∃ n file last, c.LongestIndexed (outer.reverse ++ members) outer.length n ∧
        c.Indexed (Text.join "." ((outer.reverse ++ members).take n)) file ∧
        (outer.reverse ++ members)[n - 1]? = some last ∧
        (c.topLevel? file last).bind (·.descend? ((outer.reverse ++ members).drop n)) = found := by
  -- on the beginning that is tried, which loses its last segment to `members` at each step
  induction outer generalizing members with
  | nil =>
    constructor
    · intro h
      cases h
    · rintro ⟨n, file, last, hn, -⟩
      exact absurd (isGreatest_zero.1 hn).2.1 (Nat.lt_irrefl 0)
  | cons last outer ih =>
    have hsegments : (last :: outer).reverse ++ members = outer.reverse ++ last :: members := by
      simp
    have htake : (outer.reverse ++ last :: members).take (outer.length + 1) =
        (last :: outer).reverse := hsegments ▸ List.take_left' (by simp)
    have hdrop : (outer.reverse ++ last :: members).drop (outer.length + 1) = members :=
      hsegments ▸ List.drop_left' (by simp)
    have hlast : (outer.reverse ++ last :: members)[outer.length]? = some last := by simp
    rw [resolveSplit, List.length_cons, hsegments]
    cases hfile : c.fileForType? (Text.join "." (last :: outer).reverse) with
    | none =>
      have hnot : ¬ c.IndexedUpTo (outer.reverse ++ last :: members) (outer.length + 1) := by
        rintro ⟨-, file, h⟩
        rw [htake, ← fileForType?_eq_some_iff, hfile] at h
        cases h
      simp only [LongestIndexed, isGreatest_succ_of_not hnot]
      exact ih
    | some file =>
      have htop : c.IndexedUpTo (outer.reverse ++ last :: members) (outer.length + 1) :=
        ⟨Nat.succ_pos _, file, htake ▸ fileForType?_eq_some_iff.1 hfile⟩
      simp only [LongestIndexed, isGreatest_succ htop, Option.some.injEq]
      constructor
      · intro h
        refine ⟨outer.length + 1, file, last, rfl, ?_, hlast, by rw [hdrop]; exact h⟩
        rw [htake]
        exact fileForType?_eq_some_iff.1 hfile
      · rintro ⟨n, file', last', rfl, hindexed, hlast', h⟩
        rw [htake, ← fileForType?_eq_some_iff, hfile, Option.some.injEq] at hindexed
        obtain rfl : last = last' := Option.some.inj (hlast.symm.trans hlast')
        rw [← h, hdrop, hindexed]

theorem resolveSplit_eq_none_iff {outer members : List String} :
    c.resolveSplit outer members = none ↔
      ∀ n ≤ outer.length, ¬ c.IndexedUpTo (outer.reverse ++ members) n := by
  constructor
  · intro h n hn hindexed
    obtain ⟨m, hm⟩ := exists_isGreatest hindexed hn
    obtain ⟨hpos, file, hfile⟩ := hm.1.2
    have hlt : m - 1 < (outer.reverse ++ members).length := by
      have hle : m ≤ outer.length := hm.1.1
      simp only [List.length_append, List.length_reverse]
      omega
    have hfound := resolveSplit_eq_some_iff.2
      ⟨m, file, _, hm, hfile, List.getElem?_eq_getElem hlt, rfl⟩
    rw [h] at hfound
    cases hfound
  · intro h
    cases hfound : c.resolveSplit outer members with
    | none => rfl
    | some found =>
      obtain ⟨n, -, -, hn, -⟩ := resolveSplit_eq_some_iff.1 hfound
      exact absurd hn.1.2 (h n hn.1.1)

theorem resolveQualified?_eq_some_iff :
    c.resolveQualified? name = some r ↔ c.MeansQualified name r := by
  have hknown : isKnownLibraryType name = true ↔ name ∈ knownLibraryTypes := by
    simp [isKnownLibraryType]
  have hsegments : (Text.split '.' name).reverse.reverse ++ [] = Text.split '.' name := by simp
  have hlength : (Text.split '.' name).reverse.length = (Text.split '.' name).length := by simp
  unfold resolveQualified?
  constructor
  · intro h
    split at h
    · rename_i found hfound
      obtain ⟨l, rfl, rfl⟩ := Option.map_eq_some_iff.1 h
      obtain ⟨n, file, last, hn, hfile, hlast, hbind⟩ := resolveSplit_eq_some_iff.1 hfound
      rw [hsegments] at hn hfile hlast hbind
      rw [hlength] at hn
      obtain ⟨primary, hprimary, hl⟩ := Option.bind_eq_some_iff.1 hbind
      exact .declared hn hfile hlast (topLevel?_eq_some_iff.1 hprimary)
        (Located.descend?_eq_some_iff.1 hl)
    · rename_i hnone
      rw [resolveSplit_eq_none_iff, hsegments, hlength] at hnone
      split at h
      · rename_i hname
        cases h
        exact .library hnone (hknown.1 hname)
      · cases h
  · intro h
    cases h with
    | @declared n file last primary l hn hfile hlast hprimary hl =>
      have hsplit : c.resolveSplit (Text.split '.' name).reverse [] = some (some l) := by
        rw [resolveSplit_eq_some_iff, hsegments, hlength]
        refine ⟨n, file, last, hn, hfile, hlast, ?_⟩
        rw [topLevel?_eq_some_iff.2 hprimary, Option.bind_some, Located.descend?_eq_some_iff.2 hl]
      simp [hsplit]
    | library hnone hname =>
      have hsplit : c.resolveSplit (Text.split '.' name).reverse [] = none := by
        rw [resolveSplit_eq_none_iff, hsegments, hlength]
        exact hnone
      simp [hsplit, hknown.2 hname]

theorem TopLevel.name_eq (h : c.TopLevel file name l) : l.declaration.name = name := by
  obtain ⟨unit, i, d, -, hd, rfl⟩ := h
  exact hd.holds

theorem MeansQualified.getLast?_eq (h : c.MeansQualified name (.declared l)) :
    (Text.split '.' name).getLast? = some l.declaration.name := by
  cases h with
  | @declared n file last primary l hn hfile hlast hprimary hl =>
    cases hrest : (Text.split '.' name).drop n with
    | nil =>
      rw [hrest] at hl
      cases hl
      have hle : n ≤ (Text.split '.' name).length := hn.1.1
      have hge : (Text.split '.' name).length ≤ n := List.drop_eq_nil_iff.1 hrest
      rw [List.getLast?_eq_getElem?, ← Nat.le_antisymm hle hge, hlast, hprimary.name_eq]
    | cons next rest =>
      have hne : (Text.split '.' name).drop n ≠ [] := by simp [hrest]
      rw [← hl.getLast?_eq hne, List.getLast?_drop]
      have hlt : n < (Text.split '.' name).length := by
        by_contra hge
        exact hne (List.drop_eq_nil_of_le (Nat.le_of_not_lt hge))
      simp [hlt]

end Corpus

end ApiRecovery
