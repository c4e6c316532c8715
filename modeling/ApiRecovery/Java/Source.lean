import ApiRecovery.Java.Grammar
import ApiRecovery.Java.Parser
import ApiRecovery.Java.Token.Lexer

/-!
# Java texts

`tree?` reads a whole text. The bound it gives the reader is generous: no rule goes deeper than a
thousand steps without reading a token.
-/

namespace ApiRecovery.Java

/-- A text that is not Java, with the line of the first statement that cannot be read. -/
structure SyntaxError where
  line : Nat
  deriving DecidableEq, Repr

def SyntaxError.message (e : SyntaxError) : String :=
  "Failed to parse Java syntax near line " ++ toString e.line

def readingBound (tokens : Nat) : Nat :=
  1000 * (tokens + 1)

/-- The line of the first of the `rest` tokens, when all of them are the last of `tokens`. -/
def lineBefore (tokens rest : List Token) : Nat :=
  let read := tokens.take (tokens.length - rest.length)
  let breaks (s : String) := s.toList.count '\n'
  read.foldl (fun n t => n + breaks t.spelled) 1 + ((rest.head?.map fun t => breaks t.blank).getD 0)

def topLevelTrees (tokens : List Token) : List Tree × List Token :=
  match Parser.run Grammar.rules (readingBound tokens.length) (.many (.call .topLevel)) tokens with
  | some (trees, rest) =>
    let (comments, rest) := Parser.leadingComments rest
    (trees ++ comments, rest)
  | none => ([], tokens)

def tree? (source : String) : Except SyntaxError Tree :=
  let tokens := Lexer.read source
  match topLevelTrees tokens with
  | (trees, []) => .ok (.node none .program trees)
  | (_, rest) => .error ⟨lineBefore tokens rest⟩

end ApiRecovery.Java
