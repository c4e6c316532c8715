import ApiRecovery.Signature.Catalogue

/-!
# Classifications

Which qualified names are types of which signature. There is one entry for each signature, and a
qualified name stands in an entry at most once.
-/

namespace ApiRecovery

structure ClassifiedMember where
  qualifiedName : String
  /-- the file it was found in, unless it was added by name -/
  file : Option Nat
  score : Option Int
  deriving DecidableEq, Repr

structure ClassifiedType where
  signature : Signature
  members : List ClassifiedMember

namespace ClassifiedType

def qualifiedNames (t : ClassifiedType) : List String :=
  t.members.map (·.qualifiedName)

def contains (t : ClassifiedType) (qualifiedName : String) : Bool :=
  t.qualifiedNames.contains qualifiedName

/-- Adds a name without a file, unless it is there. -/
def insert (t : ClassifiedType) (qualifiedName : String) : ClassifiedType :=
  if t.contains qualifiedName then t
  else { t with members := t.members ++ [⟨qualifiedName, none, none⟩] }

end ClassifiedType

structure Classification where
  types : List ClassifiedType := []

namespace Classification

def find? (c : Classification) (name : String) : Option ClassifiedType :=
  c.types.find? fun t => t.signature.name == name

/-- The first signature in the given role that a qualified name belongs to. -/
def signatureOf? (c : Classification) (role : TypeRole) (qualifiedName : String) :
    Option Signature :=
  (c.types.find? fun t => t.signature.hasRole role && t.contains qualifiedName).map (·.signature)

def isInRole (c : Classification) (role : TypeRole) (qualifiedName : String) : Bool :=
  (c.signatureOf? role qualifiedName).isSome

def qualifiedNamesInRole (c : Classification) (role : TypeRole) : List String :=
  (c.types.filter fun t => t.signature.hasRole role).flatMap (·.qualifiedNames)

/-- Adds a qualified name to the entry of a signature, or a new entry at the end. -/
def inject (c : Classification) (signature : Signature) (qualifiedName : String) :
    Classification :=
  let isOwn (t : ClassifiedType) := t.signature.name == signature.name
  if c.types.any isOwn then
    ⟨c.types.map fun t => if isOwn t then t.insert qualifiedName else t⟩
  else ⟨c.types ++ [⟨signature, [⟨qualifiedName, none, none⟩]⟩]⟩

def injectByName (c : Classification) (name qualifiedName : String) : Classification :=
  match Catalogue.find? name with
  | some signature => c.inject signature qualifiedName
  | none => c

def render (c : Classification) : String :=
  String.join <| c.types.map fun t =>
    t.signature.name ++ " (" ++ t.signature.library ++ "):\n" ++
      String.join (t.qualifiedNames.map fun name => "  " ++ name ++ "\n")

end Classification

end ApiRecovery
