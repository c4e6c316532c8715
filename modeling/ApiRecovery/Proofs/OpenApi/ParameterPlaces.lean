import ApiRecovery.Proofs.OpenApi.Operations

/-!
# The places of parameters

The place of a parameter is its location together with its name; the parameters of an operation
should have different ones. An endpoint has one parameter for each header line of its method and for
each name that an annotation of a method parameter gives, and an operation has those of its
endpoint. None is left out because its place is taken, so the places are distinct exactly when the
method names nothing twice at any location.
-/

namespace ApiRecovery

open Java (Method Annotation)

def EndpointParameter.place (p : EndpointParameter) : ParameterLocation × String :=
  (p.location, p.name)

def ParameterLocation.namesIn (location : ParameterLocation)
    (places : List (ParameterLocation × String)) : List String :=
  places.filterMap fun p => if p.1 = location then some p.2 else none

/-! ## Places by location -/

namespace ParameterLocation

variable {location : ParameterLocation} {name : String}
  {places others : List (ParameterLocation × String)}

theorem mem_namesIn : name ∈ location.namesIn places ↔ (location, name) ∈ places := by
  simp only [namesIn, List.mem_filterMap, Option.ite_none_right_eq_some, Option.some.injEq]
  constructor
  · rintro ⟨p, hp, rfl, rfl⟩
    exact hp
  · intro h
    exact ⟨_, h, rfl, rfl⟩

@[simp] theorem namesIn_append :
    location.namesIn (places ++ others) = location.namesIn places ++ location.namesIn others :=
  List.filterMap_append

theorem namesIn_cons_self :
    location.namesIn ((location, name) :: places) = name :: location.namesIn places := by
  simp [namesIn]

theorem namesIn_cons_of_ne {other : ParameterLocation} (h : other ≠ location) :
    location.namesIn ((other, name) :: places) = location.namesIn places := by
  simp [namesIn, h]

/-- Places are distinct exactly when the names at each location are. -/
theorem nodup_places_iff :
    places.Nodup ↔ ∀ location : ParameterLocation, (location.namesIn places).Nodup := by
  induction places with
  | nil => simp [namesIn]
  | cons p places ih =>
    obtain ⟨here, name⟩ := p
    rw [List.nodup_cons, ih]
    constructor
    · rintro ⟨hnew, hrest⟩ location
      by_cases heq : here = location
      · subst heq
        rw [namesIn_cons_self, List.nodup_cons, mem_namesIn]
        exact ⟨hnew, hrest here⟩
      · rw [namesIn_cons_of_ne heq]
        exact hrest location
    · intro h
      have hhere := h here
      rw [namesIn_cons_self, List.nodup_cons, mem_namesIn] at hhere
      refine ⟨hhere.1, fun location => ?_⟩
      by_cases heq : here = location
      · exact heq ▸ hhere.2
      · rw [← namesIn_cons_of_ne heq]
        exact h location

end ParameterLocation

/-! ## What a method names -/

/-- The name of the header that a line fixes: the line up to the first colon. -/
def headerName (line : String) : String :=
  String.ofList (line.toList.takeWhile (· != ':'))

namespace Corpus

section

variable (c : Corpus) (annotations : AnnotationSet) (scope : Scope)

def headerLines (m : Method) : List String :=
  m.annotations.flatMap fun a =>
    if c.annotationKind? annotations scope a = some "Headers" then
      (a.value?.map (·.strings)).getD []
    else []

def namedPlace? (a : Annotation) : Option (ParameterLocation × String) :=
  match (c.annotationKind? annotations scope a).bind locationOfKind?, a.text? with
  | some location, some name => some (location, name)
  | _, _ => none

/-- The names that a method gives at a location: those of its header lines, then those in the
annotations of its parameters. -/
def namesAt (m : Method) (location : ParameterLocation) : List String :=
  (if location = .header then (c.headerLines annotations scope m).map headerName else []) ++
    location.namesIn (m.parameters.flatMap fun p =>
      p.annotations.filterMap (c.namedPlace? annotations scope))

end

variable {c : Corpus} {annotations : AnnotationSet} {scope : Scope} {interface : Java.Declaration}
  {m : Method} {e : Endpoint}

theorem place_fixedHeader (line : String) :
    (fixedHeader line).place = (.header, headerName line) := by
  unfold fixedHeader EndpointParameter.place headerName Text.cutFirst
  dsimp only
  split
  · rename_i name value hcut
    split at hcut
    · cases hcut
    · cases hcut
      rfl
  · rename_i hcut
    split at hcut
    · rename_i hdrop
      -- without a colon the line is all name
      have hall := List.drop_eq_nil_iff.1 hdrop
      have hlead := List.takeWhile_prefix (l := line.toList) (· != ':')
      rw [hlead.eq_of_length_le hall, String.ofList_toList]
    · cases hcut

theorem places_fixedHeaders (a : Annotation) :
    (fixedHeaders a).map (·.place) =
      ((a.value?.map (·.strings)).getD []).map fun line => (.header, headerName line) := by
  unfold fixedHeaders
  cases a.value? with
  | none => rfl
  | some value => simp [place_fixedHeader]

theorem places_markedParameters (summary : String) (p : Java.Parameter) :
    (c.markedParameters annotations scope summary p).map (·.place) =
      p.annotations.filterMap (c.namedPlace? annotations scope) := by
  rw [markedParameters, List.map_filterMap]
  refine List.filterMap_congr fun a _ => ?_
  unfold namedPlace?
  cases hkind : c.annotationKind? annotations scope a with
  | none => rfl
  | some kind =>
    cases hlocation : locationOfKind? kind with
    | none => simp [hlocation]
    | some location =>
      cases htext : a.text? with
      | none => simp [hlocation]
      | some name => simp [hlocation, EndpointParameter.place]

/-- The header annotations among those that are Retrofit's. -/
theorem headers_eq_flatMap (found : List Annotation) :
    (((found.filterMap fun a =>
        (c.annotationKind? annotations scope a).map fun kind => (kind, a)).filter
      fun (kind, _) => kind == "Headers").flatMap fun (_, a) => fixedHeaders a) =
      found.flatMap fun a =>
        if c.annotationKind? annotations scope a = some "Headers" then fixedHeaders a else [] := by
  induction found with
  | nil => rfl
  | cons a rest ih =>
    cases hkind : c.annotationKind? annotations scope a with
    | none => simp [hkind, ih]
    | some kind =>
      by_cases hheaders : kind = "Headers"
      · simp [hkind, hheaders, ih]
      · simp [hkind, hheaders, ih]

/-- An endpoint has the places that its method names, in their order. -/
theorem places_of_endpoint (h : c.endpoint? annotations scope interface m = some e) :
    e.parameters.map (·.place) =
      (c.headerLines annotations scope m).map (fun line => (.header, headerName line)) ++
        m.parameters.flatMap fun p =>
          p.annotations.filterMap (c.namedPlace? annotations scope) := by
  simp only [endpoint?, Option.bind_eq_bind, Option.bind_eq_some_iff, Option.pure_def,
    Option.some.injEq] at h
  obtain ⟨_, _, _, _, rfl⟩ := h
  simp only [headers_eq_flatMap, List.map_append, List.map_flatMap, places_markedParameters]
  congr 1
  rw [headerLines, List.map_flatMap]
  refine List.flatMap_congr fun a _ => ?_
  split
  · exact places_fixedHeaders a
  · rfl

theorem namesIn_headers (location : ParameterLocation) (lines : List String) :
    location.namesIn (lines.map fun line => (.header, headerName line)) =
      if location = .header then lines.map headerName else [] := by
  cases location <;> simp [ParameterLocation.namesIn, List.filterMap_map]

theorem namesIn_places (h : c.endpoint? annotations scope interface m = some e)
    (location : ParameterLocation) :
    location.namesIn (e.parameters.map (·.place)) = c.namesAt annotations scope m location := by
  rw [places_of_endpoint h, ParameterLocation.namesIn_append, namesIn_headers, namesAt]

end Corpus

/-! ## Operations -/

theorem ParameterLocation.name_injective : Function.Injective ParameterLocation.name := by
  intro a b h
  cases a <;> cases b <;> first | rfl | exact absurd h (by decide)

namespace OpenApi.Draft

/-- An operation has the places of its endpoint. -/
theorem places_operation (s : Sources) (g : Generator) (e : Endpoint) :
    ((operation s g e).1.parameters.map fun p => (p.location, p.name)) =
      (e.parameters.map (·.place)).map fun place => (place.1.name, place.2) := by
  have hall := (operation_isOf s g e).parameters
  generalize (operation s g e).1.parameters = os at hall
  generalize e.parameters = ps at hall
  induction hall with
  | nil => rfl
  | cons h _ ih => rw [List.map_cons, ih, h.location, h.name]; rfl

end OpenApi.Draft

namespace Corpus

/-- At each location an endpoint has the names that its method gives there, each as often as it is
given. So no two parameters of the endpoint have one place, and no two of its operation, exactly
when nothing is named twice at any location. -/
theorem nodup_parameters_iff {c : Corpus} {annotations : AnnotationSet} {scope : Scope}
    {interface : Java.Declaration} {m : Method} {e : Endpoint}
    (h : c.endpoint? annotations scope interface m = some e) :
    (∀ location : ParameterLocation, location.namesIn (e.parameters.map (·.place)) =
      c.namesAt annotations scope m location) ∧
    ((e.parameters.map (·.place)).Nodup ↔
      ∀ location, (c.namesAt annotations scope m location).Nodup) ∧
    ∀ s g, (((OpenApi.Draft.operation s g e).1.parameters.map fun p => (p.location, p.name)).Nodup ↔
      ∀ location, (c.namesAt annotations scope m location).Nodup) := by
  have hnames := namesIn_places h
  have hplaces : (e.parameters.map (·.place)).Nodup ↔
      ∀ location, (c.namesAt annotations scope m location).Nodup := by
    rw [ParameterLocation.nodup_places_iff]
    exact forall_congr' fun location => by rw [hnames]
  have hinjective : Function.Injective fun place : ParameterLocation × String =>
      (place.1.name, place.2) :=
    ParameterLocation.name_injective.prodMap Function.injective_id
  refine ⟨hnames, hplaces, fun s g => ?_⟩
  rw [OpenApi.Draft.places_operation, List.nodup_map_iff hinjective, hplaces]

/-- One name at two locations makes two places. -/
theorem header_and_query_of_one_name :
    let c : Corpus := .ofSources [("A.java",
      "interface A \x7b @H(\"A: 1\") @G(\"i\") void f(@Q(\"A\") int a); " ++
      "@interface G \x7b\x7d @interface H \x7b\x7d @interface Q \x7b\x7d \x7d")]
    let annotations : AnnotationSet :=
      ⟨[("GET", ["A.G"]), ("Headers", ["A.H"]), ("Query", ["A.Q"])]⟩
    ∃ d m e, c.topLevel? 0 "A" = some d ∧ d.declaration.methods = [m] ∧
      c.endpoint? annotations d.scope d.declaration m = some e ∧
      c.namesAt annotations d.scope m .header = ["A"] ∧
      c.namesAt annotations d.scope m .query = ["A"] ∧ (e.parameters.map (·.place)).Nodup := by
  intro c annotations
  have hevaluated : (c.topLevel? 0 "A").map (fun d => d.declaration.methods.map fun m =>
      ((c.endpoint? annotations d.scope d.declaration m).isSome,
        c.namesAt annotations d.scope m .path, c.namesAt annotations d.scope m .query,
        c.namesAt annotations d.scope m .header)) = some [(true, [], ["A"], ["A"])] := by
    decide +kernel
  obtain ⟨d, hd, hmethod⟩ := Option.map_eq_some_iff.1 hevaluated
  obtain ⟨m, hm, hvalues⟩ := List.map_eq_singleton_iff.1 hmethod
  simp only [Prod.mk.injEq] at hvalues
  obtain ⟨hsome, hpath, hquery, hheader⟩ := hvalues
  obtain ⟨e, he⟩ := Option.isSome_iff_exists.1 hsome
  refine ⟨d, m, e, hd, hm, he, hheader, hquery, (nodup_parameters_iff he).2.1.2 fun location => ?_⟩
  cases location
  · rw [hpath]
    exact List.nodup_nil
  · rw [hquery]
    exact List.nodup_singleton "A"
  · rw [hheader]
    exact List.nodup_singleton "A"

/-- A header line that is written twice is a parameter twice. -/
theorem repeated_header_line :
    let c : Corpus := .ofSources [("A.java",
      "interface A \x7b @H(\x7b\"A: 1\", \"A: 1\"\x7d) @G(\"i\") void f(); " ++
      "@interface G \x7b\x7d @interface H \x7b\x7d \x7d")]
    let annotations : AnnotationSet := ⟨[("GET", ["A.G"]), ("Headers", ["A.H"])]⟩
    (c.endpoints annotations [0]).map (fun e => e.parameters.map (·.place)) =
        [[(.header, "A"), (.header, "A")]] ∧
      ∀ s g, ∀ e ∈ c.endpoints annotations [0], ¬ ((OpenApi.Draft.operation s g e).1.parameters.map
        fun p => (p.location, p.name)).Nodup := by
  intro c annotations
  have hplaces : (c.endpoints annotations [0]).map (fun e => e.parameters.map (·.place)) =
      [[(.header, "A"), (.header, "A")]] := by
    decide +kernel
  refine ⟨hplaces, fun s g e he => ?_⟩
  have hmem := List.mem_map_of_mem (f := fun e : Endpoint => e.parameters.map (·.place)) he
  rw [hplaces, List.mem_singleton] at hmem
  rw [OpenApi.Draft.places_operation, hmem]
  decide

end Corpus

end ApiRecovery
