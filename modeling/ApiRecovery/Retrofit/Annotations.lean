import ApiRecovery.Text.LetterCase
import ApiRecovery.Text.Order

/-!
# The annotations of Retrofit

Each kind of annotation (`GET`, `Path`, …) with the qualified names it goes by in an application,
sorted by kind.
-/

namespace ApiRecovery

structure AnnotationSet where
  /-- kinds in ascending order, each with its names in the order in which they were added -/
  entries : List (String × List String) := []
  deriving DecidableEq, Repr

namespace AnnotationSet

def addTo (kind name : String) : List (String × List String) → List (String × List String)
  | [] => [(kind, [name])]
  | (k, names) :: rest =>
    if kind = k then (k, if names.contains name then names else names ++ [name]) :: rest
    else if kind < k then (kind, [name]) :: (k, names) :: rest
    else (k, names) :: addTo kind name rest

def add (s : AnnotationSet) (kind name : String) : AnnotationSet :=
  ⟨addTo kind name s.entries⟩

def addAll (s : AnnotationSet) (pairs : List (String × String)) : AnnotationSet :=
  pairs.foldl (fun s (kind, name) => s.add kind name) s

def names (s : AnnotationSet) (kind : String) : List String :=
  (s.entries.lookup kind).getD []

def kinds (s : AnnotationSet) : List String :=
  s.entries.map Prod.fst

def kindOf? (s : AnnotationSet) (qualifiedName : String) : Option String :=
  (s.entries.find? fun (_, names) => names.contains qualifiedName).map Prod.fst

def allNames (s : AnnotationSet) : List String :=
  Text.sortedDistinct (s.entries.flatMap Prod.snd)

/-- The methods that have an annotation of their own, in the order in which they are looked for. -/
def dedicatedMethods : List String :=
  ["GET", "HEAD", "POST", "PUT", "DELETE", "OPTIONS", "TRACE", "PATCH"]

def commonMethods : List String :=
  ["GET", "HEAD", "POST", "PUT", "DELETE"]

/-- The common methods that no kind is named after. -/
def missingMethods (s : AnnotationSet) : List String :=
  commonMethods.filter fun method => !s.kinds.any fun kind => Text.toUppercase kind == method

/-- The annotations of parameters, each with messages of the code that reads it. -/
def parameterSamples : List (String × List String) :=
  [("Path", ["A @Path parameter must not come after a @Query."]),
   ("QueryMap", ["@QueryMap keys must be of type String: "]),
   ("Field", ["@Field parameters can only be used with form encoding."]),
   ("FieldMap", ["@FieldMap parameter type must be Map."]),
   ("PartMap", ["@PartMap parameter type must be Map."]),
   ("Part", ["@Part parameters using the MultipartBody.Part must not include a part name in the " ++
      "annotation."]),
   ("Body", ["Multiple @Body method annotations found."]),
   ("Header", []),
   ("QueryName", []),
   ("Query", [])]

def wellKnown : AnnotationSet :=
  addAll {} ((dedicatedMethods ++ ["HTTP", "Headers", "Multipart", "FormUrlEncoded"] ++
    parameterSamples.map Prod.fst).map fun kind => (kind, "retrofit2.http." ++ kind))

def render (s : AnnotationSet) : String :=
  String.join <| s.entries.map fun (kind, names) =>
    "@" ++ kind ++ ":\n" ++ String.join (names.map fun name => "  " ++ name ++ "\n")

end AnnotationSet

end ApiRecovery
