import ApiRecovery.Proofs.Detection.Visits

/-!
# What a server is accepted on

The servers of a document after a detection are the candidates of the visits that accept. Such a
visit has asked for the path of an endpoint, right after an answer that says that a garbled form of
it is not there, and was not told the same of the path itself. It need not have been told anything:
an answer that does not come is not the answer "not found" either.
-/

namespace ApiRecovery

open OpenApi (Document)

namespace Detector

theorem Trial.accepts_iff {t : Trial} :
    t.accepts ↔ ∃ r reply, t.real = some (r, reply) ∧ reply.status ≠ notFound := by
  cases h : t.real with
  | none => simp [Trial.accepts, h]
  | some sent =>
    obtain ⟨r, reply⟩ := sent
    simp [Trial.accepts, h]

theorem status_ne_notFound_iff {reply : Reply} :
    reply.status ≠ notFound ↔ ∀ status page, reply = .answered status page → status ≠ notFound := by
  constructor
  · rintro h status page rfl
    exact h
  · intro h
    cases reply with
    | answered status page => exact h status page rfl
    | _ => exact Nat.zero_ne_add_one _

/-- What each server that is found has been accepted on. -/
theorem detect_accepts_after_notFound (net : Network) (candidates : List ScoredUrl)
    (choices : Choices) (document : Document) :
    let result := (ofCandidates candidates choices).detect net document
    net.Answers result.2.2.traffic ∧ ∃ visits : List Visit,
      result.2.2.traffic = visits.flatMap Visit.traffic ∧
      result.1 = visits.countP Visit.accepts ∧
      result.2.1 = { document with
        paths := (visits.filter Visit.accepts).foldl Visit.assign document.paths } ∧
      ∀ v ∈ visits, v.accepts → ∃ t ∈ v.trials,
        (∃ o, (t.path, t.method, o) ∈ document.paths.operations ∧ o.interface = v.interface) ∧
        t.GarbledNotFound choices.number v.candidate ∧
        ∃ r reply, t.real = some (r, reply) ∧ r.method = t.method ∧
          (∃ used, r.url = Probe.url ⟨choices.number, used⟩ v.candidate t.path) ∧
          ∀ status page, reply = .answered status page → status ≠ 404 := by
  intro result
  obtain ⟨visits, hvisits⟩ := detect_records net candidates choices document
  refine ⟨hvisits.advances.answered net.answers_nil, visits, hvisits.advances.traffic,
    hvisits.found, congrArg (fun paths => { document with paths }) hvisits.assigned,
    fun v hv haccepts => ?_⟩
  obtain ⟨-, hsound⟩ := hvisits.sound v hv
  obtain ⟨t, ht, haccepts⟩ := List.any_eq_true.1 haccepts
  obtain ⟨r, reply, hreal, hstatus⟩ := Trial.accepts_iff.1 haccepts
  obtain ⟨hnotFound, hmethod, hurl⟩ := (hsound.trials t ht).real r reply hreal
  exact ⟨t, ht, hsound.exists_operation ht, hnotFound, r, reply, hreal, hmethod, hurl,
    status_ne_notFound_iff.1 hstatus⟩

end Detector

/-- A network that has nothing, and does not even say so at one URL. -/
def Network.emptyExcept (url : String) : Network := fun _ r =>
  if r.url = url then .dropped else .answered Detector.notFound ""

namespace Detector

/-- A server is accepted that never said anything else than "not found". -/
theorem detect_accepts_dropped :
    let document : Document :=
      ⟨.standard, [("/a", { get := some ⟨none, "x.X", [], none, ⟨"", .free⟩, none⟩ })], none⟩
    let result := (ofCandidates [⟨"http://h", 1⟩] {}).detect (.emptyExcept "http://h/a") document
    result.1 = 1 ∧
      result.2.1.paths.operations.map (·.2.2.servers) = [some ["http://h"]] ∧
      result.2.2.traffic = [(⟨.get, "http://h/aaaaaaaa", none⟩, .answered 404 ""),
        (⟨.get, "http://h/a", none⟩, .dropped)] := by
  decide +kernel

end Detector

end ApiRecovery
