import ApiRecovery.Proofs.Detection.Visits
import Mathlib.Data.List.Dedup

/-!
# Which operations get which server

The visits that accept are for different interfaces. Each of them gives its candidate to all
operations of its interface, wherever in the document they are, and to no other. So what an
operation has in the end depends on its interface only, and the rest of the document is as it was.
-/

namespace ApiRecovery

open OpenApi (Document Operation Paths)

namespace Detector

def withServer (server? : Option String) (o : Operation) : Operation :=
  { o with servers := server?.elim o.servers fun server => some [server] }

def serverOf (accepting : List Visit) (interface : String) : Option String :=
  (accepting.find? fun v => v.interface == interface).map fun v => Probe.trimEndSlashes v.candidate

section

variable {accepting : List Visit} {interface : String}

theorem serverOf_eq_none (h : interface ∉ accepting.map Visit.interface) :
    serverOf accepting interface = none := by
  have hnone : accepting.find? (fun v => v.interface == interface) = none := by
    rw [List.find?_eq_none]
    intro v hv heq
    exact h (List.mem_map.2 ⟨v, hv, beq_iff_eq.1 heq⟩)
  rw [serverOf, hnone, Option.map_none]

theorem serverOf_cons_self (v : Visit) (rest : List Visit) :
    serverOf (v :: rest) v.interface = some (Probe.trimEndSlashes v.candidate) := by
  simp [serverOf]

theorem serverOf_cons_of_ne {v : Visit} (h : v.interface ≠ interface) (rest : List Visit) :
    serverOf (v :: rest) interface = serverOf rest interface := by
  simp [serverOf, h]

theorem serverOf_eq_some_iff (h : (accepting.map Visit.interface).Nodup) {server : String} :
    serverOf accepting interface = some server ↔
      ∃ v ∈ accepting, v.interface = interface ∧ Probe.trimEndSlashes v.candidate = server := by
  induction accepting with
  | nil => simp [serverOf]
  | cons v rest ih =>
    obtain ⟨hfresh, hrest⟩ := List.nodup_cons.1 h
    by_cases hv : v.interface = interface
    · subst hv
      have hlater : ∀ v' ∈ rest, v'.interface ≠ v.interface :=
        fun v' hv' heq => hfresh (List.mem_map.2 ⟨v', hv', heq⟩)
      rw [serverOf_cons_self, Option.some.injEq]
      constructor
      · intro heq
        exact ⟨v, List.mem_cons_self, rfl, heq⟩
      · rintro ⟨v', hv', hsame, heq⟩
        rcases List.mem_cons.1 hv' with rfl | hv'
        · exact heq
        · exact absurd hsame (hlater v' hv')
    · rw [serverOf_cons_of_ne hv, ih hrest]
      simp [hv]

/-- Visits of different interfaces give their candidates independently of each other. -/
theorem foldl_assign_eq_mapOperations (h : (accepting.map Visit.interface).Nodup)
    (paths : Paths) :
    accepting.foldl Visit.assign paths =
      paths.mapOperations fun o => withServer (serverOf accepting o.interface) o := by
  induction accepting generalizing paths with
  | nil => exact paths.mapOperations_self.symm
  | cons v rest ih =>
    obtain ⟨hfresh, hrest⟩ := List.nodup_cons.1 h
    rw [List.foldl_cons, ih hrest, Visit.assign, assign, Paths.mapOperations_mapOperations]
    congr 1
    funext o
    by_cases ho : o.interface = v.interface
    · -- no later visit takes the server away
      have hlater : serverOf rest o.interface = none := by
        rw [ho]
        exact serverOf_eq_none hfresh
      have hnow : serverOf (v :: rest) o.interface = some (Probe.trimEndSlashes v.candidate) := by
        rw [ho]
        exact serverOf_cons_self v rest
      rw [if_pos ho, hnow]
      show withServer (serverOf rest o.interface) _ = _
      rw [hlater]
      rfl
    · rw [if_neg ho, serverOf_cons_of_ne (Ne.symm ho)]

end

/-- A detection changes nothing in a document but the servers of operations. The operations of an
interface all get the same single server if a candidate was accepted for the interface, which is
that candidate without the slashes at its end, and otherwise they all keep what they have. The
result is the number of interfaces for which a candidate was accepted. -/
theorem detect_serves_interfaces (net : Network) (candidates : List ScoredUrl)
    (choices : Choices) (document : Document) :
    let result := (ofCandidates candidates choices).detect net document
    ∃ visits : List Visit,
      (net.Answers result.2.2.traffic ∧ result.2.2.traffic = visits.flatMap Visit.traffic) ∧
      (∀ v ∈ visits, v.candidate ∈ candidates.map (·.url) ∧
        v.interface ∈ document.paths.operations.map (fun (_, _, o) => o.interface) ∧
        v.Sound choices.number (endpointsToTry document.paths v.interface)) ∧
      (∀ v ∈ visits, ∀ v' ∈ visits, v.accepts → v'.accepts → v.interface = v'.interface →
        v = v') ∧
      result.1 = ((visits.filter Visit.accepts).map Visit.interface).dedup.length ∧
      ∃ server? : String → Option String,
        (∀ interface server, server? interface = some server ↔
          ∃ v ∈ visits, v.accepts ∧ v.interface = interface ∧
            Probe.trimEndSlashes v.candidate = server) ∧
        result.2.1 = { document with
          paths := document.paths.mapOperations fun o =>
            { o with
              servers := (server? o.interface).elim o.servers fun server => some [server] } } := by
  intro result
  obtain ⟨visits, hvisits⟩ := detect_records net candidates choices document
  refine ⟨visits, ⟨hvisits.advances.answered net.answers_nil, hvisits.advances.traffic⟩,
    fun v hv => ⟨?_, ?_, (hvisits.sound v hv).2⟩,
    fun v hv v' hv' haccepts haccepts' hsame => ?_, ?_,
    serverOf (visits.filter Visit.accepts), fun interface server => ?_, ?_⟩
  · have hmem := hvisits.candidate v hv
    rw [candidates_ofCandidates] at hmem
    exact List.map_subset _ (ScoredUrl.lastOfEach_subset candidates) hmem
  · exact Text.mem_sortedDistinct.1 (hvisits.sound v hv).1
  · exact List.inj_on_of_nodup_map hvisits.once (List.mem_filter.2 ⟨hv, haccepts⟩)
      (List.mem_filter.2 ⟨hv', haccepts'⟩) hsame
  · have hfound : result.1 = visits.countP Visit.accepts := hvisits.found
    rw [hvisits.once.dedup, List.length_map, ← List.countP_eq_length_filter, hfound]
  · rw [serverOf_eq_some_iff hvisits.once]
    simp only [List.mem_filter, and_assoc]
  · have hassigned : result.2.1.paths = (visits.filter Visit.accepts).foldl Visit.assign
        document.paths := hvisits.assigned
    rw [foldl_assign_eq_mapOperations hvisits.once] at hassigned
    exact congrArg (fun paths => { document with paths }) hassigned

end Detector

end ApiRecovery
