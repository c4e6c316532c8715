import ApiRecovery.Corpus.Basic
import ApiRecovery.Url.Score

/-!
# URLs of a corpus

Every string literal that begins like a web address is a URL with a score, which the path of the
file takes part in. A URL in several files has the score of the last one. The ranking lists each URL
once, higher scores first and equal ones by their text.
-/

namespace ApiRecovery

structure ScoredUrl where
  url : String
  score : Score
  deriving DecidableEq, Repr

namespace ScoredUrl

def precedes (a b : ScoredUrl) : Bool :=
  decide (b.score < a.score) || (a.score == b.score && decide (a.url ≤ b.url))

def lastOfEach (urls : List ScoredUrl) : List ScoredUrl :=
  urls.foldl (fun kept u => kept.filter (fun k => k.url != u.url) ++ [u]) []

def rank (urls : List ScoredUrl) : List ScoredUrl :=
  (lastOfEach urls).mergeSort precedes

end ScoredUrl

namespace Url

def isWeb (text : String) : Bool :=
  Text.startsWith text "http://" || Text.startsWith text "https://"

/-- What a file has to hold in order to be searched. -/
def needles : List String :=
  ["\"http://", "\"https://"]

/-- The inside of a literal and the text after it, given the text after the opening quote. The
literal ends before its line does, but an escape may hold any character except a line break. -/
def literalRest? : List Char → Option (List Char × List Char)
  | [] => none
  | '"' :: rest => some ([], rest)
  | '\\' :: c :: rest =>
    if c = '\n' then none
    else (literalRest? rest).map fun (inside, after) => ('\\' :: c :: inside, after)
  | c :: rest =>
    if c = '\n' ∨ c = '\\' then none
    else (literalRest? rest).map fun (inside, after) => (c :: inside, after)

theorem length_of_literalRest? {cs inside after : List Char}
    (h : literalRest? cs = some (inside, after)) : after.length < cs.length := by
  fun_induction literalRest? cs generalizing inside after with
  | case1 => simp at h
  | case2 rest => simp_all
  | case3 => simp at h
  | case4 c rest hc ih =>
    obtain ⟨⟨i, a⟩, hi, he⟩ := Option.map_eq_some_iff.1 h
    have := ih hi
    simp_all
    omega
  | case5 => simp at h
  | case6 c rest _ _ hc ih =>
    obtain ⟨⟨i, a⟩, hi, he⟩ := Option.map_eq_some_iff.1 h
    have := ih hi
    simp_all
    omega

/-- The literals of a text that is not Java: whatever stands between quotes. -/
def quotedTexts : List Char → List (List Char)
  | [] => []
  | c :: rest =>
    if c = '"' then
      match h : literalRest? rest with
      | some (inside, after) =>
        have := length_of_literalRest? h
        inside :: quotedTexts after
      | none => quotedTexts rest
    else quotedTexts rest
termination_by cs => cs.length

def literals (f : SourceFile) : List String :=
  match f.unit with
  | some unit => unit.stringLiterals
  | none => (quotedTexts f.text.toList).map fun cs => Java.unescape (String.ofList cs)

def ofFile (f : SourceFile) : List ScoredUrl :=
  ((literals f).filter isWeb).map fun url => ⟨url, score url (pathBonus f.pathLowercase)⟩

/-- URLs up to this score are not likely to be of use. -/
def threshold : Score := -10

end Url

namespace Corpus

def urlFiles (c : Corpus) : List SourceFile :=
  c.files.filter fun f => Url.needles.any (Text.contains f.text)

def urls (c : Corpus) : List ScoredUrl :=
  ScoredUrl.rank (c.urlFiles.flatMap Url.ofFile)

def probableUrls (c : Corpus) : List ScoredUrl :=
  c.urls.filter fun u => Url.threshold < u.score

end Corpus

end ApiRecovery
