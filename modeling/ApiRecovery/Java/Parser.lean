import ApiRecovery.Java.Rule

/-!
# Reading a text by a grammar

`run` reads the beginning of a list of tokens by a rule. Comments may stand anywhere. A comment
becomes a child of the innermost node that has children before and after it, so a node gives up the
comments it begins with. The trees that are read hold exactly the tokens that are gone from the
input.
-/

namespace ApiRecovery.Java

abbrev Read := Option (List Tree × List Token)

namespace Parser

def longOperators : List String :=
  ["==", "!=", "<=", ">=", "&&", "||", "++", "--", "+=", "-=", "*=", "/=", "&=", "|=", "^=", "%=",
   "<<", ">>", ">>>", "<<=", ">>=", ">>>=", "->", "::", "..."]

/-- The comments before the next token, as trees, and the tokens from there on. -/
def leadingComments : List Token → List Tree × List Token
  | [] => ([], [])
  | t :: ts =>
    if t.cls == .comment then
      let (comments, rest) := leadingComments ts
      (Tree.leaf none .comment t :: comments, rest)
    else ([], t :: ts)

def readOne (p : Token → Bool) (kind : Kind) (ts : List Token) : Read :=
  match leadingComments ts with
  | (comments, t :: rest) =>
    if p t then some (comments ++ [.leaf none kind t], rest) else none
  | (_, []) => none

/-- The marks that spell `cs` without anything between them: the leaves and the rest. -/
def readMarks : List Char → List Token → Read
  | [], ts => some ([], ts)
  | c :: cs, t :: ts =>
    if t.isMark (String.singleton c) && (cs.isEmpty || (ts.head?.map Token.isAdjacent).getD false)
    then (readMarks cs ts).map fun (trees, rest) => (.leaf none .anonymous t :: trees, rest)
    else none
  | _ :: _, [] => none

def extensions (o : String) : List String :=
  longOperators.filter fun l => l != o && o.toList.isPrefixOf l.toList

/-- Reads the operator `o`, unless a longer operator stands there. -/
def readOperator (o : String) (ts : List Token) : Read :=
  let (comments, ts) := leadingComments ts
  match readMarks o.toList ts with
  | none => none
  | some (leaves, rest) =>
    if (extensions o).any fun l => (readMarks l.toList ts).isSome then none
    else some (comments ++ [.node none .anonymous leaves], rest)

/-- Makes a node of what was read; the comments it would begin with stay before it. -/
def wrap (kind : Kind) (trees : List Tree) : List Tree :=
  trees.takeWhile Tree.isComment ++ [.node none kind (trees.dropWhile Tree.isComment)]

def Link.accepts {σ : Type} (link : Link σ) (seed : List Tree) : Bool :=
  link.only.isEmpty || ((seed.getLast?.map fun t => link.only.contains t.kind).getD false)

variable {σ : Type}

/-- The seed of a link in its part. -/
def seeded (link : Link σ) (seed : List Tree) : List Tree :=
  match link.seed with
  | some role => seed.map (Tree.withRole role)
  | none => seed

mutual

/-- Reads by a rule. The first argument bounds the depth of the recursion. -/
def run (rules : σ → Rule σ) : Nat → Rule σ → List Token → Read
  | 0, _, _ => none
  | bound + 1, rule, ts =>
    match rule with
    | .empty => some ([], ts)
    | .keyword w => readOne (·.isWord w) .anonymous ts
    | .name kind except =>
      readOne (fun t => t.cls == .word && !except.contains t.text) kind ts
    | .mark m => readOne (·.isMark m) .anonymous ts
    | .operator o => readOperator o ts
    | .token kind cls => readOne (·.cls == cls) kind ts
    | .seq r s =>
      match run rules bound r ts with
      | none => none
      | some (trees, ts) =>
        match run rules bound s ts with
        | none => none
        | some (more, ts) => some (trees ++ more, ts)
    | .alt r s =>
      match run rules bound r ts with
      | none => run rules bound s ts
      | some found => some found
    | .many r =>
      match run rules bound r ts with
      | none => some ([], ts)
      | some (trees, ts) =>
        match run rules bound (.many r) ts with
        | none => none
        | some (more, ts) => some (trees ++ more, ts)
    | .role role r =>
      match run rules bound r ts with
      | none => none
      | some (trees, ts) => some (trees.map (Tree.withRole role), ts)
    | .node kind r =>
      match run rules bound r ts with
      | none => none
      | some (trees, ts) => some (wrap kind trees, ts)
    | .call symbol => run rules bound (rules symbol) ts
    | .chain base links =>
      match run rules bound base ts with
      | none => none
      | some (trees, ts) => runChain rules bound links trees ts

def runChain (rules : σ → Rule σ) :
    Nat → List (Link σ) → List Tree → List Token → Read
  | 0, _, _, _ => none
  | bound + 1, links, trees, ts =>
    match runLink rules bound links trees ts with
    | none => some (trees, ts)
    | some (trees, ts) => runChain rules bound links trees ts

def runLink (rules : σ → Rule σ) :
    Nat → List (Link σ) → List Tree → List Token → Read
  | 0, _, _, _ => none
  | _, [], _, _ => none
  | bound + 1, link :: links, trees, ts =>
    if Link.accepts link trees then
      match run rules bound (rules link.tail) ts with
      | none => runLink rules bound links trees ts
      | some (more, ts) => some (wrap link.kind (seeded link trees ++ more), ts)
    else runLink rules bound links trees ts

end

end Parser

end ApiRecovery.Java
