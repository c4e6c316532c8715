import ApiRecovery.Proofs.Detection.Trials
import Mathlib.Data.List.Nodup
import Mathlib.Data.List.Perm.Subperm

/-!
# A whole detection

The traffic of a detection is a series of visits: trials of endpoints of one interface at one
candidate. No candidate is visited twice for an interface, at most one visit of an interface
accepts, and the servers that are found are the candidates of the visits that accept.
-/

namespace ApiRecovery

open OpenApi (Document Operation PathItem Paths)

namespace ScoredUrl

theorem nodup_lastOfEach (urls : List ScoredUrl) : ((lastOfEach urls).map (·.url)).Nodup := by
  suffices hall : ∀ kept : List ScoredUrl, (kept.map (·.url)).Nodup →
      ((urls.foldl (fun kept u => kept.filter (fun k => k.url != u.url) ++ [u]) kept).map
        (·.url)).Nodup from hall [] .nil
  induction urls with
  | nil => exact fun _ h => h
  | cons u rest ih =>
    intro kept h
    refine ih _ ?_
    rw [List.map_append, List.nodup_append]
    refine ⟨h.sublist (List.filter_sublist.map _), List.nodup_singleton _, ?_⟩
    intro url hurl _ hlast
    obtain ⟨k, hk, rfl⟩ := List.mem_map.1 hurl
    rw [List.map_singleton, List.mem_singleton] at hlast
    rw [hlast]
    exact bne_iff_ne.1 (List.mem_filter.1 hk).2

theorem lastOfEach_subset (urls : List ScoredUrl) : lastOfEach urls ⊆ urls := by
  suffices hall : ∀ kept : List ScoredUrl,
      urls.foldl (fun kept u => kept.filter (fun k => k.url != u.url) ++ [u]) kept ⊆ kept ++ urls
    from hall []
  induction urls with
  | nil => exact fun kept => by simp
  | cons u rest ih =>
    intro kept v hv
    have hmem := ih _ hv
    simp only [List.mem_append, List.mem_filter, List.mem_cons, List.not_mem_nil, or_false]
      at hmem ⊢
    tauto

end ScoredUrl

namespace Detector

/-! ## Candidates -/

theorem candidates_ofCandidates (candidates : List ScoredUrl) (choices : Choices) :
    (ofCandidates candidates choices).scores.map Prod.fst =
      (ScoredUrl.lastOfEach candidates).map (·.url) := by
  rw [ofCandidates, List.map_map]
  rfl

theorem ranked_subperm (d : Detector) : d.ranked.Subperm (d.scores.map Prod.fst) := by
  let urls := d.scores.map fun entry => ScoredUrl.mk entry.1 entry.2
  have hurls : urls.map (·.url) = d.scores.map Prod.fst := by
    rw [List.map_map]
    rfl
  rw [← hurls]
  exact ((List.mergeSort_perm _ _).map _).subperm.trans (List.filter_sublist.map _).subperm

theorem nodup_ranked {d : Detector} (h : (d.scores.map Prod.fst).Nodup) : d.ranked.Nodup := by
  obtain ⟨urls, hperm, hsublist⟩ := d.ranked_subperm
  exact hperm.nodup_iff.1 (h.sublist hsublist)

/-! ## Endpoints -/

theorem endpointsToTry_assign (paths : Paths) (interface server other : String) :
    endpointsToTry (assign paths interface server) other = endpointsToTry paths other := by
  have hsame : ∀ o : Operation, (if o.interface = interface then
      { o with servers := some [Probe.trimEndSlashes server] } else o).interface = o.interface := by
    intro o
    split <;> rfl
  simp [endpointsToTry, assign, Paths.operations_mapOperations, List.filter_map, Function.comp_def,
    hsame]

theorem mem_endpointsToTry {paths : Paths} {interface path : String} {method : HttpMethod}
    (h : (method, path) ∈ endpointsToTry paths interface) :
    ∃ o, (path, method, o) ∈ paths.operations ∧ o.interface = interface := by
  have hmem := List.mem_mergeSort.1 (List.mem_of_mem_take h)
  obtain ⟨⟨_, _, o⟩, ho, heq⟩ := List.mem_map.1 hmem
  obtain ⟨rfl, rfl⟩ := Prod.mk.inj heq
  obtain ⟨ho, hinterface⟩ := List.mem_filter.1 ho
  exact ⟨o, ho, beq_iff_eq.1 hinterface⟩

theorem length_endpointsToTry_le (paths : Paths) (interface : String) :
    (endpointsToTry paths interface).length ≤ endpointLimit :=
  List.length_take_le _ _

theorem nodup_places {paths : Paths} (h : (paths.map Prod.fst).Nodup) :
    (paths.operations.map fun entry => (entry.2.1, entry.1)).Nodup := by
  have hflat : (paths.operations.map fun entry => (entry.2.1, entry.1)) =
      paths.flatMap fun entry => HttpMethod.all.filterMap fun m =>
        (entry.2.operation? m).map fun _ => (m, entry.1) := by
    simp [Paths.operations, PathItem.operations, List.map_flatMap, List.map_filterMap,
      Function.comp_def]
  rw [hflat, List.nodup_flatMap]
  refine ⟨fun entry _ => ?_, ?_⟩
  · refine List.Nodup.filterMap (fun m m' e he he' => ?_) (by decide)
    obtain ⟨_, -, rfl⟩ := Option.map_eq_some_iff.1 he
    obtain ⟨_, -, heq⟩ := Option.map_eq_some_iff.1 he'
    exact (congrArg Prod.fst heq).symm
  · refine (List.pairwise_map.1 h).imp fun {a b} hne e ha hb => hne ?_
    obtain ⟨m, -, he⟩ := List.mem_filterMap.1 ha
    obtain ⟨m', -, he'⟩ := List.mem_filterMap.1 hb
    obtain ⟨_, -, rfl⟩ := Option.map_eq_some_iff.1 he
    obtain ⟨_, -, heq⟩ := Option.map_eq_some_iff.1 he'
    exact (congrArg Prod.snd heq).symm

theorem nodup_endpointsToTry {paths : Paths} (h : (paths.map Prod.fst).Nodup)
    (interface : String) : (endpointsToTry paths interface).Nodup := by
  refine List.Nodup.sublist (List.take_sublist _ _) ?_
  rw [(List.mergeSort_perm _ _).nodup_iff]
  exact (nodup_places h).sublist (List.filter_sublist.map _)

/-! ## Visits -/

/-- What has been sent to a candidate for one interface. -/
structure Visit where
  interface : String
  candidate : String
  trials : List Trial

namespace Visit

def place (v : Visit) : String × String :=
  (v.interface, v.candidate)

def traffic (v : Visit) : Traffic :=
  v.trials.flatMap Trial.traffic

def accepts (v : Visit) : Bool :=
  v.trials.any Trial.accepts

structure Sound (number : Nat → Nat) (endpoints : List (HttpMethod × String)) (v : Visit) :
    Prop where
  endpoints : v.trials.map Trial.endpoint <+: endpoints
  trials : ∀ t ∈ v.trials, t.Sound number v.candidate

end Visit

theorem findServer_visits (net : Network) (interface : String)
    (endpoints : List (HttpMethod × String)) (candidates : List String) (d : Detector) :
    ∃ visits : List Visit,
      Advances net d (d.findServer net endpoints candidates).2 (visits.flatMap Visit.traffic) ∧
      visits.map Visit.candidate <+: candidates ∧
      (∀ v ∈ visits, v.interface = interface ∧ v.Sound d.choices.number endpoints) ∧
      (visits.filter Visit.accepts).map Visit.candidate =
        (d.findServer net endpoints candidates).1.toList := by
  induction candidates generalizing d with
  | nil => exact ⟨[], .refl d, List.nil_prefix, by simp, rfl⟩
  | cons candidate rest ih =>
    obtain ⟨trials, hadvances, hendpoints, hsounds, haccepted⟩ :=
      tryEndpoints_trials net candidate endpoints d
    rw [findServer]
    generalize d.tryEndpoints net candidate endpoints = tried at hadvances haccepted ⊢
    obtain ⟨accepted, d₁⟩ := tried
    let v : Visit := ⟨interface, candidate, trials⟩
    have hv : v.interface = interface ∧ v.Sound d.choices.number endpoints :=
      ⟨rfl, hendpoints, hsounds⟩
    have haccepts : v.accepts = accepted := haccepted.symm
    have htraffic : Advances net d d₁ v.traffic := hadvances
    dsimp only
    cases accepted with
    | true =>
      refine ⟨[v], by simpa using htraffic, List.prefix_append [_] rest, by simpa using hv, ?_⟩
      simp [haccepts, v]
    | false =>
      obtain ⟨visits, hrest, hbegins, hvisits, hfound⟩ := ih d₁
      rw [hadvances.number] at hvisits
      refine ⟨v :: visits, htraffic.trans hrest, List.prefix_cons_inj _ |>.2 hbegins,
        List.forall_mem_cons.2 ⟨hv, hvisits⟩, ?_⟩
      simpa [List.filter_cons, haccepts] using hfound

theorem Visit.Sound.exists_operation {number : Nat → Nat} {paths : Paths} {v : Visit} {t : Trial}
    (h : v.Sound number (endpointsToTry paths v.interface)) (ht : t ∈ v.trials) :
    ∃ o, (t.path, t.method, o) ∈ paths.operations ∧ o.interface = v.interface := by
  have hmem : t.endpoint ∈ v.trials.map Trial.endpoint := List.mem_map_of_mem ht
  exact mem_endpointsToTry (h.endpoints.mem hmem)

theorem Visit.Sound.length_traffic_le {number : Nat → Nat} {endpoints : List (HttpMethod × String)}
    {v : Visit} (h : v.Sound number endpoints) : v.traffic.length ≤ v.trials.length * 9 := by
  rw [Visit.traffic, List.flatMap_def, ← List.length_map Trial.traffic]
  exact length_flatten_le (List.forall_mem_map.2 fun t ht => (h.trials t ht).length_traffic_le)

/-! ## Runs -/

def Visit.assign (paths : Paths) (v : Visit) : Paths :=
  Detector.assign paths v.interface v.candidate

theorem endpointsToTry_foldl_assign (visits : List Visit) (paths : Paths) (interface : String) :
    endpointsToTry (visits.foldl Visit.assign paths) interface =
      endpointsToTry paths interface := by
  induction visits generalizing paths with
  | nil => rfl
  | cons v rest ih => rw [List.foldl_cons, ih, Visit.assign, endpointsToTry_assign]

/-- The visits that a run over interfaces consists of. Those that accept are counted, at most one
for each interface, and give their candidates to the operations. -/
structure Records (net : Network) (d : Detector) (interfaces : List String) (paths : Paths)
    (visits : List Visit) (result : Nat × Paths × Detector) : Prop where
  advances : Advances net d result.2.2 (visits.flatMap Visit.traffic)
  places : (visits.map Visit.place).Nodup
  candidate : ∀ v ∈ visits, v.candidate ∈ d.scores.map Prod.fst
  sound : ∀ v ∈ visits, v.interface ∈ interfaces ∧
    v.Sound d.choices.number (endpointsToTry paths v.interface)
  found : result.1 = visits.countP Visit.accepts
  once : ((visits.filter Visit.accepts).map Visit.interface).Nodup
  assigned : result.2.1 = (visits.filter Visit.accepts).foldl Visit.assign paths

theorem findServer_records (net : Network) (interface : String) (paths : Paths) (d : Detector)
    (hcandidates : (d.scores.map Prod.fst).Nodup) :
    let result := d.findServer net (endpointsToTry paths interface) d.ranked
    ∃ visits, Records net d [interface] paths visits
      (result.1.toList.length, result.1.elim paths (assign paths interface), result.2) := by
  intro result
  obtain ⟨visits, hadvances, hbegins, hvisits, hfound⟩ :=
    findServer_visits net interface (endpointsToTry paths interface) d.ranked d
  refine ⟨visits, hadvances, ?_, fun v hv => ?_, fun v hv => ?_, ?_, ?_, ?_⟩
  · refine List.Nodup.of_map Prod.snd ?_
    rw [List.map_map]
    exact (nodup_ranked hcandidates).sublist hbegins.sublist
  · exact d.ranked_subperm.subset (hbegins.mem (List.mem_map_of_mem hv))
  · obtain ⟨rfl, hsound⟩ := hvisits v hv
    exact ⟨List.mem_singleton_self _, hsound⟩
  · rw [List.countP_eq_length_filter, ← List.length_map Visit.candidate, hfound]
  · have hlength : (visits.filter Visit.accepts).length ≤ 1 := by
      rw [← List.length_map Visit.candidate, hfound, Option.length_toList]
      split <;> omega
    match hshape : visits.filter Visit.accepts with
    | [] => exact .nil
    | [v] => exact List.nodup_singleton _
    | v :: v' :: rest => simp [hshape] at hlength
  · change (visits.filter Visit.accepts).map Visit.candidate = result.1.toList at hfound
    cases hserver : result.1 with
    | none =>
      rw [hserver, Option.toList_none, List.map_eq_nil_iff] at hfound
      rw [hfound]
      rfl
    | some server =>
      rw [hserver, Option.toList_some, List.map_eq_singleton_iff] at hfound
      obtain ⟨v, hone, rfl⟩ := hfound
      have hv : v ∈ visits := List.mem_of_mem_filter (hone ▸ List.mem_singleton_self v)
      rw [hone, ← (hvisits v hv).1]
      rfl

theorem Records.interface_ne {net : Network} {interface : String} {rest : List String}
    {paths paths' : Paths} {visits later : List Visit} {result result' : Nat × Paths × Detector}
    {d d' : Detector} (h : Records net d [interface] paths visits result)
    (h' : Records net d' rest paths' later result') (hfresh : interface ∉ rest) :
    ∀ v ∈ visits, ∀ v' ∈ later, v.interface ≠ v'.interface := by
  intro v hv v' hv' heq
  have hsame : v.interface = interface := List.mem_singleton.1 (h.sound v hv).1
  have hmem : v'.interface ∈ rest := (h'.sound v' hv').1
  exact hfresh (hsame ▸ heq ▸ hmem)

theorem Records.append {net : Network} {interface : String} {rest : List String}
    {paths paths' : Paths} {visits later : List Visit} {found : Nat} {d d' : Detector}
    {result : Nat × Paths × Detector}
    (h : Records net d [interface] paths visits (found, paths', d'))
    (h' : Records net d' rest paths' later result) (hfresh : interface ∉ rest) :
    Records net d (interface :: rest) paths (visits ++ later) (found + result.1, result.2) where
  advances := by
    rw [List.flatMap_append]
    exact h.advances.trans h'.advances
  places := by
    rw [List.map_append, List.nodup_append]
    refine ⟨h.places, h'.places, ?_⟩
    intro place hplace place' hplace' heq
    obtain ⟨v, hv, rfl⟩ := List.mem_map.1 hplace
    obtain ⟨v', hv', rfl⟩ := List.mem_map.1 hplace'
    exact h.interface_ne h' hfresh v hv v' hv' (congrArg Prod.fst heq)
  candidate := by
    intro v hv
    rcases List.mem_append.1 hv with hv | hv
    · exact h.candidate v hv
    · rw [← h.advances.candidates]
      exact h'.candidate v hv
  sound := by
    intro v hv
    rcases List.mem_append.1 hv with hv | hv
    · obtain ⟨hmem, hsound⟩ := h.sound v hv
      exact ⟨List.mem_cons.2 (.inl (List.mem_singleton.1 hmem)), hsound⟩
    · obtain ⟨hmem, hsound⟩ := h'.sound v hv
      -- the servers that have been given do not change which endpoints are tried
      have hpaths : paths' = (visits.filter Visit.accepts).foldl Visit.assign paths := h.assigned
      have hnumber : d'.choices.number = d.choices.number := h.advances.number
      rw [hpaths, endpointsToTry_foldl_assign, hnumber] at hsound
      exact ⟨List.mem_cons_of_mem _ hmem, hsound⟩
  found := by rw [List.countP_append, ← h.found, ← h'.found]
  once := by
    rw [List.filter_append, List.map_append, List.nodup_append]
    refine ⟨h.once, h'.once, ?_⟩
    intro interface hmem interface' hmem' heq
    obtain ⟨v, hv, rfl⟩ := List.mem_map.1 hmem
    obtain ⟨v', hv', rfl⟩ := List.mem_map.1 hmem'
    exact h.interface_ne h' hfresh v (List.mem_of_mem_filter hv) v' (List.mem_of_mem_filter hv')
      heq
  assigned := by
    rw [List.filter_append, List.foldl_append, ← h.assigned]
    exact h'.assigned

theorem detectAll_records (net : Network) (interfaces : List String) (paths : Paths) (d : Detector)
    (hinterfaces : interfaces.Nodup) (hcandidates : (d.scores.map Prod.fst).Nodup) :
    ∃ visits, Records net d interfaces paths visits (detectAll net interfaces paths d) := by
  induction interfaces generalizing paths d with
  | nil => exact ⟨[], .refl d, .nil, by simp, by simp, rfl, .nil, rfl⟩
  | cons interface rest ih =>
    obtain ⟨hfresh, hrest⟩ := List.nodup_cons.1 hinterfaces
    obtain ⟨visits, hvisits⟩ := findServer_records net interface paths d hcandidates
    rw [detectAll]
    generalize d.findServer net (endpointsToTry paths interface) d.ranked = searched at hvisits ⊢
    obtain ⟨server?, d₁⟩ := searched
    rw [← hvisits.advances.candidates] at hcandidates
    obtain ⟨later, hlater⟩ := ih (server?.elim paths (assign paths interface)) d₁ hrest hcandidates
    have hall := hvisits.append hlater hfresh
    cases server? with
    | none => exact ⟨visits ++ later, by simpa using hall⟩
    | some server =>
      refine ⟨visits ++ later, ?_⟩
      simpa [Nat.add_comm] using hall

theorem detect_records (net : Network) (candidates : List ScoredUrl) (choices : Choices)
    (document : Document) :
    let result := (ofCandidates candidates choices).detect net document
    ∃ visits, Records net (ofCandidates candidates choices) (interfaces document.paths)
      document.paths visits (result.1, result.2.1.paths, result.2.2) := by
  refine detectAll_records net (interfaces document.paths) document.paths _
    (Text.nodup_sortedDistinct _) ?_
  rw [candidates_ofCandidates]
  exact ScoredUrl.nodup_lastOfEach candidates

/-- At each candidate at most three endpoints of an interface are tried, with at most four garbled
forms each, which are sent at most twice. The path of an endpoint itself is sent once, and only
right after an answer that says that a garbled form of it is not there. -/
theorem detect_asks_after_notFound (net : Network) (candidates : List ScoredUrl)
    (choices : Choices) (document : Document) :
    let traffic := ((ofCandidates candidates choices).detect net document).2.2.traffic
    net.Answers traffic ∧ ∃ visits : List Visit, traffic = visits.flatMap Visit.traffic ∧
      (visits.map fun v => (v.interface, v.candidate)).Nodup ∧
      ∀ v ∈ visits, v.candidate ∈ candidates.map (·.url) ∧
        v.traffic.length ≤ 27 ∧ v.trials.length ≤ 3 ∧
        ((document.paths.map Prod.fst).Nodup → (v.trials.map Trial.endpoint).Nodup) ∧
        ∀ t ∈ v.trials,
          (∃ o, (t.path, t.method, o) ∈ document.paths.operations ∧ o.interface = v.interface) ∧
          t.garbled.length ≤
            min ((Text.split '/' t.path).countP fun part => !Probe.isParameter part) 4 ∧
          (∀ k sent, t.garbled[k]? = some sent → sent.length ≤ 2 ∧ ∃ used, IsSending t.method
            (Probe.garbledUrl ⟨choices.number, used⟩ v.candidate (k + 1) t.path) sent) ∧
          ∀ r reply, t.real = some (r, reply) → r.method = t.method ∧
            (∃ used, r.url = Probe.url ⟨choices.number, used⟩ v.candidate t.path) ∧
            t.GarbledNotFound choices.number v.candidate := by
  obtain ⟨visits, hvisits⟩ := detect_records net candidates choices document
  refine ⟨hvisits.advances.answered net.answers_nil, visits, hvisits.advances.traffic,
    hvisits.places, fun v hv => ?_⟩
  obtain ⟨-, hsound⟩ := hvisits.sound v hv
  have htrials : v.trials.length ≤ endpointLimit := by
    have hle := hsound.endpoints.length_le
    rw [List.length_map] at hle
    exact hle.trans (length_endpointsToTry_le _ _)
  refine ⟨?_, ?_, htrials, fun hpaths => ?_, fun t ht => ⟨?_, ?_, ?_, ?_⟩⟩
  · have hmem := hvisits.candidate v hv
    rw [candidates_ofCandidates] at hmem
    exact List.map_subset _ (ScoredUrl.lastOfEach_subset candidates) hmem
  · exact hsound.length_traffic_le.trans (Nat.mul_le_mul_right 9 htrials)
  · exact (nodup_endpointsToTry hpaths _).sublist hsound.endpoints.sublist
  · exact hsound.exists_operation ht
  · exact (hsound.trials t ht).length_garbled
  · intro k sent hk
    obtain ⟨used, hsending⟩ := (hsound.trials t ht).garbled k sent hk
    exact ⟨hsending.length_le, used, hsending⟩
  · intro r reply hreal
    obtain ⟨hnotFound, hmethod, hurl⟩ := (hsound.trials t ht).real r reply hreal
    exact ⟨hmethod, hurl, hnotFound⟩

end Detector

end ApiRecovery
