import ApiRecovery.Detection.Network
import ApiRecovery.Detection.Probe
import ApiRecovery.OpenApi.Document
import ApiRecovery.Text.Order
import ApiRecovery.Url.Ranking

/-!
# Finding servers

For every interface the candidates are tried, the best first. A server is accepted if it says that a
garbled form of an endpoint is not there and says something else about the endpoint itself.
Candidates that do not behave lose score, so that later interfaces try them later.
-/

namespace ApiRecovery

open OpenApi (Document Operation Paths)

structure Detector where
  scores : List (String × Score)
  choices : Choices := {}
  traffic : Traffic := []

namespace Detector

/-- Starts with the last score of each candidate. -/
def ofCandidates (candidates : List ScoredUrl) (choices : Choices) : Detector where
  scores := (ScoredUrl.lastOfEach candidates).map fun u => (u.url, u.score)
  choices := choices

def score? (d : Detector) (url : String) : Option Score :=
  d.scores.lookup url

def penalize (d : Detector) (url : String) (penalty : Score) : Detector :=
  { d with scores := d.scores.map fun (u, score) =>
      (u, if u = url then Binary64.add score (-penalty) else score) }

/-- The candidates above the threshold, the best first. -/
def ranked (d : Detector) : List String :=
  let urls := d.scores.map fun (url, score) => ScoredUrl.mk url score
  ((urls.filter fun u => Url.threshold < u.score).mergeSort ScoredUrl.precedes).map (·.url)

def unreachablePenalty : Score := 20

/-- What a candidate loses that has an answer to everything. -/
def indifferentPenalty : Score := 2

def pagePenalty : Score := 5

/-- How many times a text occurs, without overlaps. -/
def occurrences (needle : List Char) (skip : Nat) : List Char → Nat
  | [] => 0
  | c :: rest =>
    match skip with
    | skip + 1 => occurrences needle skip rest
    | 0 =>
      if needle.isPrefixOf (c :: rest) then occurrences needle (needle.length - 1) rest + 1
      else occurrences needle 0 rest

def minScripts : Nat := 7

def minDivisions : Nat := 80

def penalties : Reply → List Score
  | .refused => []
  | .unreachable => [unreachablePenalty]
  | .dropped => []
  | .answered status page =>
    if status = 200 then
      (if minScripts ≤ occurrences "<script".toList 0 page.toList then [pagePenalty] else []) ++
        (if minDivisions ≤ occurrences "<div".toList 0 page.toList then [pagePenalty] else [])
    else []

def ask (net : Network) (d : Detector) (r : Request) : Reply × Detector :=
  let reply := net d.traffic r
  (reply, { d with traffic := d.traffic ++ [(r, reply)] })

/-- The status of a reply, for which the candidate answers with its score. -/
def settle (d : Detector) (candidate : String) (reply : Reply) : Nat × Detector :=
  (reply.status, (penalties reply).foldl (fun d penalty => d.penalize candidate penalty) d)

def hasBody (method : HttpMethod) : Bool :=
  method != .get && method != .options

def garbageBody (d : Detector) (method : HttpMethod) : Option String × Detector :=
  if hasBody method then
    let (body, choices) := d.choices.garbage 4
    (some body, { d with choices })
  else (none, d)

def badRequest : Nat := 400

def notFound : Nat := 404

/-- Sends a request with a garbage body. If that is called bad and `retry`, it is sent once more
with an empty object. -/
def send (net : Network) (retry : Bool) (candidate : String) (method : HttpMethod) (url : String)
    (d : Detector) : Nat × Detector :=
  let (body, d) := d.garbageBody method
  let (reply, d) := d.ask net ⟨method, url, body⟩
  if reply.status = badRequest && retry then
    let (reply, d) := d.ask net ⟨method, url, if hasBody method then some "\x7b\x7d" else none⟩
    d.settle candidate reply
  else d.settle candidate reply

/-- Sends garbled forms of a path, `level` and more parts of it replaced, until one is not found.
The result is the last status. `more` is the number of levels left. -/
def probeGarbled (net : Network) (candidate : String) (method : HttpMethod) (path : String)
    (level : Nat) : Nat → Nat → Detector → Nat × Detector
  | 0, last, d => (last, d)
  | more + 1, _, d =>
    let (garbled, choices) := Probe.garble d.choices level path
    let (filled, choices) := Probe.fill choices garbled
    let (status, d) :=
      { d with choices }.send net true candidate method (Probe.join candidate filled)
    if status = notFound then (status, d)
    else probeGarbled net candidate method path (level + 1) more status d

def probeReal (net : Network) (candidate : String) (method : HttpMethod) (path : String)
    (d : Detector) : Nat × Detector :=
  let (filled, choices) := Probe.fill d.choices path
  { d with choices }.send net false candidate method (Probe.join candidate filled)

/-- Tries endpoints at a candidate until one shows that it is the server. -/
def tryEndpoints (net : Network) (candidate : String) :
    List (HttpMethod × String) → Detector → Bool × Detector
  | [], d => (false, d)
  | (method, path) :: rest, d =>
    let (status, d) :=
      d.probeGarbled net candidate method path 1 (Probe.levels path) Reply.noStatus
    if status = notFound then
      let (status, d) := d.probeReal net candidate method path
      if status = notFound then tryEndpoints net candidate rest d else (true, d)
    else (false, d.penalize candidate indifferentPenalty)

def endpointLimit : Nat := 3

/-- How well an endpoint serves to tell a server: values for parameters have to be guessed. -/
def aptness (method : HttpMethod) (path : String) : Int :=
  let start : Int := match method with
    | .get => -20
    | .delete => -60
    | .post => 5
    | _ => 0
  start - 10 * Probe.parameterCount path.toList

def endpointsToTry (paths : Paths) (interface : String) : List (HttpMethod × String) :=
  let endpoints := (paths.operations.filter fun (_, _, o) => o.interface == interface).map
    fun (path, method, _) => (method, path)
  (endpoints.mergeSort fun (m, p) (n, q) => aptness n q ≤ aptness m p).take endpointLimit

/-- The first candidate that is the server of an interface. -/
def findServer (net : Network) (endpoints : List (HttpMethod × String)) :
    List String → Detector → Option String × Detector
  | [], d => (none, d)
  | candidate :: rest, d =>
    let (accepted, d) := d.tryEndpoints net candidate endpoints
    if accepted then (some candidate, d) else findServer net endpoints rest d

def assign (paths : Paths) (interface server : String) : Paths :=
  paths.mapOperations fun o =>
    if o.interface = interface then { o with servers := some [Probe.trimEndSlashes server] } else o

/-- Finds the servers of interfaces, one after another. The number says for how many. -/
def detectAll (net : Network) : List String → Paths → Detector → Nat × Paths × Detector
  | [], paths, d => (0, paths, d)
  | interface :: rest, paths, d =>
    match d.findServer net (endpointsToTry paths interface) d.ranked with
    | (some server, d) =>
      let (found, paths, d) := detectAll net rest (assign paths interface server) d
      (found + 1, paths, d)
    | (none, d) => detectAll net rest paths d

def interfaces (paths : Paths) : List String :=
  Text.sortedDistinct (paths.operations.map fun (_, _, o) => o.interface)

def detect (net : Network) (d : Detector) (document : Document) : Nat × Document × Detector :=
  let (found, paths, d) := detectAll net (interfaces document.paths) document.paths d
  (found, { document with paths }, d)

end Detector

end ApiRecovery
