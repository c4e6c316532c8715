import ApiRecovery.Classification.Basic
import ApiRecovery.Corpus.Basic

/-!
# Classifying a corpus

The first declaration of every file that holds a needle of a signature is scored against it. A file
counts for its best signature only; of the files with the same declaration the best counts, and it
has to reach the signature's minimum.
-/

namespace ApiRecovery

open Java (CompilationUnit)

def nameMatchScore : Int := 20

/-- A weight, or its opposite where the feature is absent. -/
def signed (present : Bool) (weight : Int) : Int :=
  if present then weight else -weight

def hintScore (hints : List Hint) (text : String) : Int :=
  totalWeight (hints.filter fun (hint, _) => Text.contains text hint)

/-- The first declaration of a unit and its score against a signature. -/
def scoreDeclaration? (s : Signature) (text : String) (unit : CompilationUnit) :
    Option (String × Int) :=
  unit.types.head?.map fun d =>
    (d.qualifiedName,
      hintScore (s.raw ++ s.rawSupport) text +
      (if d.name == s.expectedName then nameMatchScore else 0) +
      signed d.isInterface s.interfaceScore +
      signed (!d.typeParameters.isEmpty) s.typeParametersScore +
      signed (d.kind == .annotationType) s.annotationScore +
      unit.stringLiterals.foldl (fun score value => score + s.literalWeight value) 0)

structure ScoredMatch where
  signature : Signature
  qualifiedName : String
  file : Nat
  score : Int

namespace ScoredMatch

def isSame (a b : ScoredMatch) : Bool :=
  a.signature.name == b.signature.name && a.qualifiedName == b.qualifiedName

/-- The better of two matches, the first where they are equal. -/
def better (a b : ScoredMatch) : ScoredMatch :=
  if b.score > a.score then b else a

def best? : List ScoredMatch → Option ScoredMatch
  | [] => none
  | m :: ms => some (ms.foldl better m)

def toMember (m : ScoredMatch) : ClassifiedMember :=
  ⟨m.qualifiedName, some m.file, some m.score⟩

end ScoredMatch

/-- Whether a text holds a needle of a signature that is looked for. -/
def Signature.isCandidate (s : Signature) (text : String) : Bool :=
  s.searched && s.needles.any (Text.contains text)

def SourceFile.bestMatch? (f : SourceFile) (id : Nat) (catalogue : List Signature) :
    Option ScoredMatch :=
  match f.unit with
  | none => none
  | some unit =>
    ScoredMatch.best? <| (catalogue.filter (·.isCandidate f.text)).filterMap fun s =>
      (scoreDeclaration? s f.text unit).map fun (qualifiedName, score) =>
        ⟨s, qualifiedName, id, score⟩

/-- The matches without repetition: each declaration with its best score, in the order of first
occurrence. -/
def keepBest (kept : List ScoredMatch) : List ScoredMatch → List ScoredMatch
  | [] => kept
  | m :: ms =>
    if kept.any (·.isSame m) then
      keepBest (kept.map fun k => if k.isSame m then k.better m else k) ms
    else keepBest (kept ++ [m]) ms

namespace Corpus

def bestMatches (c : Corpus) (catalogue : List Signature) : List ScoredMatch :=
  c.files.zipIdx.filterMap fun (f, id) => f.bestMatch? id catalogue

def classifyBy (c : Corpus) (catalogue : List Signature) : Classification :=
  let kept := keepBest [] (c.bestMatches catalogue)
  ⟨catalogue.filterMap fun s =>
    match kept.filter fun m => m.signature.name == s.name && s.minScore ≤ m.score with
    | [] => none
    | confirmed => some ⟨s, confirmed.map ScoredMatch.toMember⟩⟩

def classify (c : Corpus) : Classification :=
  c.classifyBy Catalogue.all

end Corpus

end ApiRecovery
