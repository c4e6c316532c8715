import ApiRecovery.Java.Escape
import ApiRecovery.Java.Tree
import ApiRecovery.Text.Search

/-!
# Constant strings

The values of string literals, the search for all literals of a tree, and the folding of
concatenations.
-/

namespace ApiRecovery.Java

/-- The text between the quotes of a literal, without the line breaks a text block begins with. -/
def withoutQuotes (literal : String) : String :=
  let cs := literal.toList
  let quotes := ['"', '"', '"']
  let inner (n : Nat) := (cs.drop n).take (cs.length - 2 * n)
  if cs.length ≥ 6 && quotes.isPrefixOf cs && quotes.isSuffixOf cs then
    String.ofList ((inner 3).dropWhile fun c => c == '\r' || c == '\n')
  else if cs.length ≥ 2 && cs.head? == some '"' && cs.getLast? == some '"' then
    String.ofList (inner 1)
  else literal

def literalValue (literal : String) : String :=
  unescape (withoutQuotes literal)

namespace Tree

mutual

def count : Tree → Nat
  | leaf _ _ _ => 1
  | node _ _ children => countOfAll children + 1

def countOfAll : List Tree → Nat
  | [] => 0
  | t :: ts => count t + countOfAll ts

end

theorem countOfAll_append (xs ys : List Tree) :
    countOfAll (xs ++ ys) = countOfAll xs + countOfAll ys := by
  induction xs with
  | nil => simp [countOfAll]
  | cons x xs ih => simp [countOfAll, ih, Nat.add_assoc]

theorem countOfAll_filter_le (p : Tree → Bool) (ts : List Tree) :
    countOfAll (ts.filter p) ≤ countOfAll ts := by
  induction ts with
  | nil => simp [countOfAll]
  | cons t ts ih =>
    cases h : p t with
    | true => simpa [h, countOfAll] using ih
    | false =>
      rw [List.filter_cons_of_neg (by simp [h]), countOfAll]
      exact Nat.le_trans ih (Nat.le_add_left _ _)

theorem countOfAll_namedChildren_lt (t : Tree) : countOfAll t.namedChildren < t.count := by
  cases t with
  | leaf role kind token => simp [namedChildren, children, countOfAll, count]
  | node role kind children => exact Nat.lt_succ_of_le (countOfAll_filter_le isNamed children)

end Tree

/-- A search for string literals: a stack of trees, its top first, and the values found so far. -/
structure LiteralSearch where
  stack : List Tree
  found : Array String

namespace LiteralSearch

/-- Goes on with the tree that was on top of the stack. The value of a literal is noted and the tree
left. The named children of any other tree are pushed onto the stack from the last to the first. -/
def visit (t : Tree) (rest : List Tree) (found : Array String) : LiteralSearch :=
  if t.kind = .stringLiteral then { stack := rest, found := found.push (literalValue t.text) }
  else { stack := t.namedChildren.reverse.foldl (fun stack c => c :: stack) rest, found }

theorem stack_visit (t : Tree) (rest : List Tree) (found : Array String) :
    (visit t rest found).stack =
      if t.kind = .stringLiteral then rest else t.namedChildren ++ rest := by
  unfold visit
  split
  · rfl
  · simp

theorem countOfAll_stack_visit_lt (t : Tree) (rest : List Tree) (found : Array String) :
    Tree.countOfAll (visit t rest found).stack < Tree.countOfAll (t :: rest) := by
  have hchildren := t.countOfAll_namedChildren_lt
  rw [stack_visit, Tree.countOfAll]
  split
  · omega
  · rw [Tree.countOfAll_append]
    omega

def run : LiteralSearch → Array String
  | ⟨[], found⟩ => found
  | ⟨t :: rest, found⟩ => run (visit t rest found)
termination_by s => Tree.countOfAll s.stack
decreasing_by exact countOfAll_stack_visit_lt t rest found

end LiteralSearch

namespace Tree

/-- Puts the values of the string literals in a tree behind those in `found`. -/
def collectLiterals (root : Tree) (found : Array String) : Array String :=
  LiteralSearch.run { stack := [root], found }

mutual

/-- The value of a string literal, or of such literals joined by `+`, in parentheses or not. -/
def constantString? : Tree → Option String
  | leaf _ _ _ => none
  | node role kind children =>
    match kind with
    | .stringLiteral => some (literalValue (node role kind children).text)
    | .parenthesizedExpression => constantStringOfFirst children
    | .binaryExpression =>
      if ((node role kind children).child? .operator).map text == some "+" then
        match constantStringIn .left children, constantStringIn .right children with
        | some left, some right => some (left ++ right)
        | _, _ => none
      else none
    | _ => none

def constantStringIn (role : Role) : List Tree → Option String
  | [] => none
  | t :: ts => if t.role == some role then constantString? t else constantStringIn role ts

def constantStringOfFirst : List Tree → Option String
  | [] => none
  | t :: ts => if t.isNamed && !t.isComment then constantString? t else constantStringOfFirst ts

end

end Tree

end ApiRecovery.Java
