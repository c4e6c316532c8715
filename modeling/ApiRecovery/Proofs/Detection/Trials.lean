import ApiRecovery.Detection.Detector
import Mathlib.Algebra.Order.BigOperators.Group.List
import Mathlib.Algebra.Order.Ring.Nat
import Mathlib.Data.List.Basic

/-!
# What is sent to a candidate

The traffic of a detector, taken apart. A sending is one request, or two where the first was called
bad. A trial of an endpoint sends garbled forms of its path and then, if the last of them was not
found, the path itself. Whatever the network replies, trying endpoints at a candidate only adds
trials to the traffic, and the candidate is accepted if one of them ends with anything but "not
found".
-/

namespace ApiRecovery

namespace Probe

def url (c : Choices) (candidate path : String) : String :=
  join candidate (fill c path).1

/-- The URL of a path at a candidate, with `level` of its parts replaced as well. -/
def garbledUrl (c : Choices) (candidate : String) (level : Nat) (path : String) : String :=
  url (garble c level path).2 candidate (garble c level path).1

end Probe

/-- Whether every reply is what the network replies, given the traffic before. -/
def Network.Answers (net : Network) (traffic : Traffic) : Prop :=
  ∀ k r reply, traffic[k]? = some (r, reply) → reply = net (traffic.take k) r

theorem Network.answers_nil (net : Network) : net.Answers [] := by
  intro k r reply hk
  cases hk

theorem Network.Answers.concat {net : Network} {traffic : Traffic} (h : net.Answers traffic)
    (r : Request) : net.Answers (traffic ++ [(r, net traffic r)]) := by
  intro k r' reply hk
  rcases Nat.lt_trichotomy k traffic.length with hlt | rfl | hgt
  · rw [List.getElem?_append_left hlt] at hk
    rw [List.take_append_of_le_length (Nat.le_of_lt hlt)]
    exact h k r' reply hk
  · rw [List.getElem?_concat_length] at hk
    cases hk
    rw [List.take_left]
  · rw [List.getElem?_eq_none (by simpa using Nat.succ_le_of_lt hgt)] at hk
    cases hk

namespace Detector

def lastStatus (sent : Traffic) : Nat :=
  (sent.getLast?.map fun (_, reply) => reply.status).getD Reply.noStatus

/-- From one detector to the next, `sent` has been sent on a network. The random numbers are still
those of one stream, and the candidates are the same. -/
structure Advances (net : Network) (d d' : Detector) (sent : Traffic) : Prop where
  traffic : d'.traffic = d.traffic ++ sent
  answered : net.Answers d.traffic → net.Answers d'.traffic
  number : d'.choices.number = d.choices.number
  candidates : d'.scores.map Prod.fst = d.scores.map Prod.fst

section

variable {net : Network} {d d' d'' : Detector} {sent sent' : Traffic}

theorem Advances.refl (d : Detector) : Advances net d d [] :=
  ⟨(List.append_nil _).symm, id, rfl, rfl⟩

theorem Advances.trans (h : Advances net d d' sent) (h' : Advances net d' d'' sent') :
    Advances net d d'' (sent ++ sent') where
  traffic := by rw [h'.traffic, h.traffic, List.append_assoc]
  answered := h'.answered ∘ h.answered
  number := h'.number.trans h.number
  candidates := h'.candidates.trans h.candidates

theorem advances_choices {choices : Choices} (h : choices.number = d.choices.number) :
    Advances net d { d with choices } [] :=
  ⟨(List.append_nil _).symm, id, h, rfl⟩

theorem advances_penalize (d : Detector) (candidate : String) (penalty : Score) :
    Advances net d (d.penalize candidate penalty) [] where
  traffic := (List.append_nil _).symm
  answered := id
  number := rfl
  candidates := by
    rw [penalize, List.map_map]
    rfl

theorem advances_settle (d : Detector) (candidate : String) (reply : Reply) :
    Advances net d (d.settle candidate reply).2 [] := by
  have hall : ∀ (penalties : List Score) (d : Detector),
      Advances net d (penalties.foldl (fun d penalty => d.penalize candidate penalty) d) [] := by
    intro penalties
    induction penalties with
    | nil => exact .refl
    | cons penalty rest ih => exact fun d => (d.advances_penalize candidate penalty).trans (ih _)
  exact hall _ d

theorem advances_ask (net : Network) (d : Detector) (r : Request) :
    Advances net d (d.ask net r).2 [(r, (d.ask net r).1)] :=
  ⟨rfl, fun h => h.concat r, rfl, rfl⟩

theorem advances_garbageBody (d : Detector) (method : HttpMethod) :
    Advances net d (d.garbageBody method).2 [] := by
  rw [garbageBody]
  split
  · exact advances_choices (Choices.number_garbage _ _)
  · exact .refl d

/-! ## Sendings -/

/-- One request to a URL or, where that was called bad, a second one with an empty object. -/
inductive IsSending (method : HttpMethod) (url : String) : Traffic → Prop
  | once (body : Option String) (reply : Reply) :
      IsSending method url [(⟨method, url, body⟩, reply)]
  | again (body : Option String) {bad : Reply} (reply : Reply) : bad.status = badRequest →
      IsSending method url [(⟨method, url, body⟩, bad),
        (⟨method, url, if hasBody method then some "\x7b\x7d" else none⟩, reply)]

theorem IsSending.length_le {method : HttpMethod} {url : String} (h : IsSending method url sent) :
    sent.length ≤ 2 := by
  cases h <;> simp

theorem IsSending.ne_nil {method : HttpMethod} {url : String} (h : IsSending method url sent) :
    sent ≠ [] := by
  cases h <;> simp

theorem IsSending.exists_last {method : HttpMethod} {url : String}
    (h : IsSending method url sent) :
    ∃ r reply, sent.getLast? = some (r, reply) ∧ r.method = method ∧ r.url = url := by
  cases h <;> exact ⟨_, _, rfl, rfl, rfl⟩

theorem lastStatus_append {sent' : Traffic} (h : sent' ≠ []) (sent : Traffic) :
    lastStatus (sent ++ sent') = lastStatus sent' := by
  rw [lastStatus, lastStatus, List.getLast?_append_of_ne_nil _ h]

theorem send_sends (net : Network) (retry : Bool) (candidate : String) (method : HttpMethod)
    (url : String) (d : Detector) :
    ∃ sent, Advances net d (d.send net retry candidate method url).2 sent ∧
      IsSending method url sent ∧ (d.send net retry candidate method url).1 = lastStatus sent ∧
      (retry = false → sent.length = 1) := by
  have hbody : Advances net d (d.garbageBody method).2 [] := d.advances_garbageBody method
  rw [send]
  generalize d.garbageBody method = filled at hbody ⊢
  obtain ⟨body, d₁⟩ := filled
  have hfirst := hbody.trans (advances_ask net d₁ ⟨method, url, body⟩)
  dsimp only
  split
  · rename_i hbad
    rw [Bool.and_eq_true, decide_eq_true_iff] at hbad
    refine ⟨_, hfirst.trans ((advances_ask net _ _).trans (advances_settle _ candidate _)),
      .again body _ hbad.1, rfl, fun hretry => ?_⟩
    rw [hbad.2] at hretry
    cases hretry
  · exact ⟨_, hfirst.trans (advances_settle _ candidate _), .once body _, rfl, fun _ => rfl⟩

/-! ## Trials -/

/-- What has been sent to a candidate for one endpoint: garbled forms of its path, in the order of
their levels, and perhaps the path itself, in a single request. -/
structure Trial where
  method : HttpMethod
  path : String
  garbled : List Traffic
  real : Option (Request × Reply)

namespace Trial

def endpoint (t : Trial) : HttpMethod × String :=
  (t.method, t.path)

def traffic (t : Trial) : Traffic :=
  t.garbled.flatten ++ t.real.toList

/-- Whether something else than "not found" became of the request for the path itself. -/
def accepts (t : Trial) : Bool :=
  t.real.any fun (_, reply) => reply.status != notFound

def GarbledNotFound (number : Nat → Nat) (candidate : String) (t : Trial) : Prop :=
  ∃ q page, t.garbled.flatten.getLast? = some (q, .answered notFound page) ∧ q.method = t.method ∧
    ∃ level used, 0 < level ∧ q.url = Probe.garbledUrl ⟨number, used⟩ candidate level t.path

/-- The garbled forms have one replaced part more each, and the path itself is asked for right after
one that was not found. The random texts are made from the numbers of one stream. -/
structure Sound (number : Nat → Nat) (candidate : String) (t : Trial) : Prop where
  length_garbled : t.garbled.length ≤ Probe.levels t.path
  garbled : ∀ k sent, t.garbled[k]? = some sent → ∃ used,
    IsSending t.method (Probe.garbledUrl ⟨number, used⟩ candidate (k + 1) t.path) sent
  real : ∀ r reply, t.real = some (r, reply) → t.GarbledNotFound number candidate ∧
    r.method = t.method ∧ ∃ used, r.url = Probe.url ⟨number, used⟩ candidate t.path

end Trial

theorem garbled_sends (net : Network) (candidate : String) (method : HttpMethod) (path : String)
    (level : Nat) (d : Detector) :
    let garbled := Probe.garble d.choices level path
    let filled := Probe.fill garbled.2 garbled.1
    let result :=
      { d with choices := filled.2 }.send net true candidate method (Probe.join candidate filled.1)
    ∃ sent, Advances net d result.2 sent ∧ result.1 = lastStatus sent ∧ ∃ used,
      IsSending method (Probe.garbledUrl ⟨d.choices.number, used⟩ candidate level path) sent := by
  intro garbled filled result
  have hnumber : filled.2.number = d.choices.number := by
    rw [Probe.number_fill, Probe.number_garble]
  obtain ⟨sent, hadvances, hsending, hstatus, -⟩ := send_sends net true candidate method
    (Probe.join candidate filled.1) { d with choices := filled.2 }
  exact ⟨sent, (advances_choices hnumber).trans hadvances, hstatus, d.choices.used, hsending⟩

theorem probeGarbled_sends (net : Network) (candidate : String) (method : HttpMethod)
    (path : String) (level more last : Nat) (d : Detector) :
    ∃ forms : List Traffic,
      Advances net d (d.probeGarbled net candidate method path level more last).2 forms.flatten ∧
      forms.length ≤ more ∧
      (∀ k sent, forms[k]? = some sent → ∃ used, IsSending method
        (Probe.garbledUrl ⟨d.choices.number, used⟩ candidate (level + k) path) sent) ∧
      (d.probeGarbled net candidate method path level more last).1 =
        if forms = [] then last else lastStatus forms.flatten := by
  -- by the levels left; each form is made from later numbers, but of the same stream
  induction more generalizing level last d with
  | zero => exact ⟨[], .refl d, Nat.le_refl _, by simp, rfl⟩
  | succ more ih =>
    obtain ⟨sent, hadvances, hstatus, hsending⟩ := garbled_sends net candidate method path level d
    rw [probeGarbled]
    dsimp only
    split
    · refine ⟨[sent], by simpa using hadvances, Nat.succ_pos _, fun k sent' hk => ?_, ?_⟩
      · obtain ⟨rfl, rfl⟩ : k = 0 ∧ sent' = sent := by
          cases k <;> simp_all
        exact hsending
      · simpa using hstatus
    · obtain ⟨forms, hrest, hlength, hforms, hlast⟩ := ih (level + 1) _ _
      refine ⟨sent :: forms, hadvances.trans hrest, Nat.succ_le_succ hlength, ?_, ?_⟩
      · intro k sent' hk
        cases k with
        | zero =>
          obtain rfl : sent = sent' := by simpa using hk
          exact hsending
        | succ k =>
          obtain ⟨used, hsending'⟩ := hforms k sent' (by simpa using hk)
          rw [hadvances.number, Nat.add_right_comm] at hsending'
          exact ⟨used, hsending'⟩
      · rw [hlast, if_neg (List.cons_ne_nil _ _)]
        cases forms with
        | nil => simpa using hstatus
        | cons sent' rest =>
          obtain ⟨_, hsending'⟩ := hforms 0 sent' rfl
          rw [if_neg (List.cons_ne_nil _ _), List.flatten_cons (L := sent' :: rest),
            lastStatus_append]
          simp [hsending'.ne_nil]

/-- If the last garbled form of a path was not found, an answer said so. -/
theorem Trial.garbledNotFound {number : Nat → Nat} {candidate : String} {t : Trial}
    (hgarbled : ∀ k sent, t.garbled[k]? = some sent → ∃ used,
      IsSending t.method (Probe.garbledUrl ⟨number, used⟩ candidate (k + 1) t.path) sent)
    (hstatus : lastStatus t.garbled.flatten = notFound) : t.GarbledNotFound number candidate := by
  rcases List.eq_nil_or_concat t.garbled with hnil | ⟨forms, sent, hforms⟩
  · rw [hnil] at hstatus
    cases hstatus
  · obtain ⟨used, hsending⟩ := hgarbled forms.length sent (by simp [hforms])
    have hflatten : t.garbled.flatten = forms.flatten ++ sent := by simp [hforms]
    obtain ⟨q, reply, hlast, hmethod, hurl⟩ := hsending.exists_last
    rw [hflatten, lastStatus_append hsending.ne_nil, lastStatus, hlast] at hstatus
    obtain ⟨page, rfl⟩ : ∃ page, reply = .answered notFound page := by
      cases reply with
      | answered status page => exact ⟨page, congrArg (Reply.answered · page) hstatus⟩
      | _ => cases hstatus
    rw [← List.getLast?_append_of_ne_nil forms.flatten hsending.ne_nil, ← hflatten] at hlast
    exact ⟨q, page, hlast, hmethod, _, used, Nat.succ_pos _, hurl⟩

theorem probeReal_sends (net : Network) (candidate : String) (method : HttpMethod) (path : String)
    (d : Detector) :
    ∃ r reply, Advances net d (d.probeReal net candidate method path).2 [(r, reply)] ∧
      (d.probeReal net candidate method path).1 = reply.status ∧ r.method = method ∧
      ∃ used, r.url = Probe.url ⟨d.choices.number, used⟩ candidate path := by
  obtain ⟨sent, hadvances, hsending, hstatus, hlength⟩ := send_sends net false candidate method
    (Probe.join candidate (Probe.fill d.choices path).1)
    { d with choices := (Probe.fill d.choices path).2 }
  have hfill : Advances net d { d with choices := (Probe.fill d.choices path).2 } [] :=
    advances_choices (Probe.number_fill d.choices path)
  cases hsending with
  | once body reply =>
    exact ⟨_, reply, hfill.trans hadvances, hstatus, rfl, d.choices.used, rfl⟩
  | again => cases hlength rfl

theorem probeGarbled_trial (net : Network) (candidate : String) (method : HttpMethod)
    (path : String) (d : Detector) :
    let result := d.probeGarbled net candidate method path 1 (Probe.levels path) Reply.noStatus
    ∃ t : Trial, t.endpoint = (method, path) ∧ t.real = none ∧ Advances net d result.2 t.traffic ∧
      t.Sound d.choices.number candidate ∧
      (result.1 = notFound → t.GarbledNotFound d.choices.number candidate) := by
  intro result
  obtain ⟨garbled, hadvances, hlength, hforms, hlast⟩ :=
    probeGarbled_sends net candidate method path 1 (Probe.levels path) Reply.noStatus d
  let t : Trial := ⟨method, path, garbled, none⟩
  have hforms' : ∀ k sent, garbled[k]? = some sent → ∃ used, IsSending method
      (Probe.garbledUrl ⟨d.choices.number, used⟩ candidate (k + 1) path) sent := by
    simpa only [Nat.add_comm 1] using hforms
  refine ⟨t, rfl, rfl, by simpa [Trial.traffic, t] using hadvances, ?_, fun hstatus => ?_⟩
  · exact ⟨hlength, hforms', fun _ _ heq => by cases heq⟩
  · refine t.garbledNotFound hforms' ?_
    rw [hlast] at hstatus
    split at hstatus
    · cases hstatus
    · exact hstatus

theorem probeReal_trial (net : Network) {candidate : String} {t : Trial} (hreal : t.real = none)
    (hadvances : Advances net d d' t.traffic) (hsound : t.Sound d.choices.number candidate)
    (hnotFound : t.GarbledNotFound d.choices.number candidate) :
    let result := d'.probeReal net candidate t.method t.path
    ∃ t' : Trial, t'.endpoint = t.endpoint ∧ Advances net d result.2 t'.traffic ∧
      t'.Sound d.choices.number candidate ∧ t'.accepts = (result.1 != notFound) := by
  intro result
  obtain ⟨r, reply, hasked, hstatus, hmethod, hurl⟩ :=
    probeReal_sends net candidate t.method t.path d'
  rw [hadvances.number] at hurl
  refine ⟨{ t with real := some (r, reply) }, rfl, ?_, ⟨hsound.length_garbled, hsound.garbled,
    fun r' reply' heq => ?_⟩, by rw [hstatus]; rfl⟩
  · simpa [Trial.traffic, hreal] using hadvances.trans hasked
  · obtain ⟨rfl, rfl⟩ : r = r' ∧ reply = reply' := by simpa using heq
    exact ⟨hnotFound, hmethod, hurl⟩

/-- Trying endpoints at a candidate is a series of trials, of the first endpoints in their order. -/
theorem tryEndpoints_trials (net : Network) (candidate : String)
    (endpoints : List (HttpMethod × String)) (d : Detector) :
    ∃ trials : List Trial,
      Advances net d (d.tryEndpoints net candidate endpoints).2 (trials.flatMap Trial.traffic) ∧
      trials.map Trial.endpoint <+: endpoints ∧
      (∀ t ∈ trials, t.Sound d.choices.number candidate) ∧
      (d.tryEndpoints net candidate endpoints).1 = trials.any Trial.accepts := by
  induction endpoints generalizing d with
  | nil => exact ⟨[], .refl d, List.nil_prefix, by simp, rfl⟩
  | cons endpoint rest ih =>
    obtain ⟨method, path⟩ := endpoint
    obtain ⟨t, hendpoint, hreal, hadvances, hsound, hnotFound⟩ :=
      probeGarbled_trial net candidate method path d
    rw [tryEndpoints]
    generalize d.probeGarbled net candidate method path 1 (Probe.levels path) Reply.noStatus =
      probed at hadvances hnotFound ⊢
    obtain ⟨status, d₁⟩ := probed
    have hone : ∀ t : Trial, t.endpoint = (method, path) →
        [t].map Trial.endpoint <+: (method, path) :: rest := by
      intro t h
      rw [List.map_singleton, h]
      exact List.prefix_append [_] rest
    dsimp only at hadvances hnotFound ⊢
    -- the path itself is asked for only where the last garbled form was not found
    split
    · rename_i hstatus
      obtain ⟨rfl, rfl⟩ : t.method = method ∧ t.path = path := by
        simpa [Trial.endpoint] using hendpoint
      obtain ⟨t', hendpoint', hadvances', hsound', haccepts⟩ :=
        probeReal_trial net hreal hadvances hsound (hnotFound hstatus)
      generalize d₁.probeReal net candidate t.method t.path = asked at hadvances' haccepts ⊢
      obtain ⟨status', d₂⟩ := asked
      dsimp only at hadvances' haccepts ⊢
      split
      · rename_i hrejected
        obtain ⟨trials, hrest, hbegins, hsounds, haccepted⟩ := ih d₂
        rw [hadvances'.number] at hsounds
        refine ⟨t' :: trials, hadvances'.trans hrest, ?_,
          List.forall_mem_cons.2 ⟨hsound', hsounds⟩, ?_⟩
        · rw [List.map_cons, hendpoint', hendpoint]
          exact List.prefix_cons_inj _ |>.2 hbegins
        · rw [haccepted, List.any_cons, haccepts, hrejected]
          rfl
      · rename_i hanswered
        refine ⟨[t'], by simpa using hadvances', hone t' (hendpoint'.trans hendpoint),
          by simpa using hsound', ?_⟩
        simp [haccepts, hanswered]
    · have hpenalized := hadvances.trans (d₁.advances_penalize candidate indifferentPenalty)
      refine ⟨[t], by simpa using hpenalized, hone t hendpoint, by simpa using hsound, ?_⟩
      simp [Trial.accepts, hreal]

theorem length_flatten_le {parts : List Traffic} {n : Nat} (h : ∀ part ∈ parts, part.length ≤ n) :
    parts.flatten.length ≤ parts.length * n := by
  simpa using List.sum_le_card_nsmul (parts.map List.length) n (List.forall_mem_map.2 h)

theorem Trial.Sound.length_traffic_le {number : Nat → Nat} {candidate : String} {t : Trial}
    (h : t.Sound number candidate) : t.traffic.length ≤ 4 * 2 + 1 := by
  have htwo : ∀ sent ∈ t.garbled, sent.length ≤ 2 := by
    intro sent hsent
    obtain ⟨k, hk⟩ := List.getElem?_of_mem hsent
    obtain ⟨used, hsending⟩ := h.garbled k sent hk
    exact hsending.length_le
  have hgarbled : t.garbled.flatten.length ≤ 4 * 2 :=
    (length_flatten_le htwo).trans
      (Nat.mul_le_mul_right 2 (h.length_garbled.trans (Nat.min_le_right _ _)))
  have hreal : t.real.toList.length ≤ 1 := by cases t.real <;> simp
  rw [Trial.traffic, List.length_append]
  exact Nat.add_le_add hgarbled hreal

end

end Detector

end ApiRecovery
