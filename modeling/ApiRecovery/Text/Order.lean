/-!
# Texts in order

Sorting texts by their characters. The sorted texts are those given, each once and in ascending
order.
-/

namespace ApiRecovery.Text

def dedupSorted : List String → List String
  | a :: b :: rest => if a = b then dedupSorted (b :: rest) else a :: dedupSorted (b :: rest)
  | short => short

def sortedDistinct (texts : List String) : List String :=
  dedupSorted (texts.mergeSort fun a b => a ≤ b)

theorem mem_dedupSorted {a : String} (texts : List String) :
    a ∈ dedupSorted texts ↔ a ∈ texts := by
  fun_induction dedupSorted texts with
  | case1 b rest ih => simp [ih]
  | case2 b c rest _ ih => simp [ih]
  | case3 => rfl

theorem pairwise_dedupSorted {texts : List String} (h : texts.Pairwise (· ≤ ·)) :
    (dedupSorted texts).Pairwise (· < ·) := by
  fun_induction dedupSorted texts with
  | case1 b rest ih => exact ih h.of_cons
  | case2 b c rest hne ih =>
    obtain ⟨hle, hrest⟩ := List.pairwise_cons.1 h
    refine List.pairwise_cons.2 ⟨fun a ha => ?_, ih hrest⟩
    have hlt : b < c := Std.lt_of_le_of_ne (hle c List.mem_cons_self) hne
    rcases List.mem_cons.1 ((mem_dedupSorted _).1 ha) with rfl | ha
    · exact hlt
    · exact Std.lt_of_lt_of_le hlt ((List.pairwise_cons.1 hrest).1 a ha)
  | case3 short hshort =>
    match short with
    | [] => exact .nil
    | [a] => exact List.pairwise_singleton _ a
    | a :: b :: rest => exact absurd rfl (hshort a b rest)

theorem mem_sortedDistinct {a : String} {texts : List String} :
    a ∈ sortedDistinct texts ↔ a ∈ texts := by
  rw [sortedDistinct, mem_dedupSorted, List.mem_mergeSort]

theorem pairwise_sortedDistinct (texts : List String) :
    (sortedDistinct texts).Pairwise (· < ·) := by
  refine pairwise_dedupSorted ((List.pairwise_mergeSort ?_ ?_ texts).imp fun h => by simpa using h)
  · intro a b c hab hbc
    simpa using String.le_trans (by simpa using hab) (by simpa using hbc)
  · intro a b
    simpa using String.le_total a b

theorem nodup_sortedDistinct (texts : List String) : (sortedDistinct texts).Nodup :=
  (pairwise_sortedDistinct texts).imp fun {a b} (h : a < b) => Std.ne_of_lt h

end ApiRecovery.Text
