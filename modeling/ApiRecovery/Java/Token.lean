/-!
# Tokens

A token keeps the white space before it, so that the tokens of a text spell the whole text.
Operators are not yet joined: each punctuation character is a token of its own.
-/

namespace ApiRecovery.Java

inductive TokenClass
  /-- a keyword or an identifier -/
  | word
  | number
  | character
  /-- a whole string literal -/
  | text
  /-- a string literal up to its first embedded expression -/
  | textOpen
  /-- the part of a string literal between two embedded expressions -/
  | textMiddle
  /-- a string literal from its last embedded expression on -/
  | textClose
  /-- a single punctuation character, one that belongs to no token, or `@interface` -/
  | mark
  | comment
  deriving DecidableEq, Repr

structure Token where
  blank : String
  text : String
  cls : TokenClass
  deriving DecidableEq, Repr

namespace Token

/-- The token with the white space before it. -/
def spelled (t : Token) : String :=
  t.blank ++ t.text

def isWord (t : Token) (w : String) : Bool :=
  t.cls == .word && t.text == w

def isMark (t : Token) (m : String) : Bool :=
  t.cls == .mark && t.text == m

/-- Whether nothing stands between the token and what precedes it. -/
def isAdjacent (t : Token) : Bool :=
  t.blank.isEmpty

end Token

end ApiRecovery.Java
