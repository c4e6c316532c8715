import ApiRecovery.Java.Tree

/-!
# Grammar rules

A grammar is a family of rules, one for each symbol of a type `σ`. Choice is ordered: the second
alternative is tried only where the first fails. A `chain` is what a left-recursive rule describes:
a base and then, as often as possible, one of some links, each of which makes all that was read so
far the first child of a new node.
-/

namespace ApiRecovery.Java

structure Link (σ : Type) where
  /-- the kind of the new node -/
  kind : Kind
  /-- the part that what was read so far plays in it -/
  seed : Option Role
  /-- the kinds that what was read so far may have; empty for any -/
  only : List Kind
  /-- what follows -/
  tail : σ

inductive Rule (σ : Type)
  | empty
  /-- a word of this spelling, as an anonymous leaf -/
  | keyword (w : String)
  /-- a word other than the excepted ones, as a leaf of the given kind -/
  | name (kind : Kind) (except : List String)
  /-- a punctuation character, as an anonymous leaf -/
  | mark (m : String)
  /-- an operator that is not the beginning of a longer one, as an anonymous leaf -/
  | operator (o : String)
  /-- a token of the given class, as a leaf of the given kind -/
  | token (kind : Kind) (cls : TokenClass)
  | seq (r s : Rule σ)
  | alt (r s : Rule σ)
  | many (r : Rule σ)
  | role (role : Role) (r : Rule σ)
  | node (kind : Kind) (r : Rule σ)
  | call (symbol : σ)
  | chain (base : Rule σ) (links : List (Link σ))

namespace Rule

variable {σ : Type}

def all : List (Rule σ) → Rule σ
  | [] => empty
  | [r] => r
  | r :: rs => seq r (all rs)

def oneOf : List (Rule σ) → Rule σ
  | [] => keyword ""
  | [r] => r
  | r :: rs => alt r (oneOf rs)

def opt (r : Rule σ) : Rule σ :=
  alt r empty

def many1 (r : Rule σ) : Rule σ :=
  seq r (many r)

def commas (r : Rule σ) : Rule σ :=
  seq r (many (seq (mark ",") r))

def keywords (ws : List String) : Rule σ :=
  oneOf (ws.map keyword)

def operators (os : List String) : Rule σ :=
  oneOf (os.map operator)

end Rule

end ApiRecovery.Java
