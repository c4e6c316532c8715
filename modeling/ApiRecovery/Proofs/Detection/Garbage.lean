import ApiRecovery.Proofs.Detection.Trials
import ApiRecovery.Proofs.Value.JsonTexts

/-!
# The bodies of probes

A garbage text has no white space and never ends like a string, an array or an object, so it is JSON
only if it is a literal or a number. It can be both: the text `null` is drawn as such, and eight
random letters and digits may be a number, also behind a minus. Nothing else is sent with a probe,
apart from the empty object of a second attempt.
-/

namespace ApiRecovery

open Json (IsText IsSimple IsUnsigned)

namespace Choices

/-- The forms of a garbage text, with the choices that its parts are made with. -/
inductive GarbageForm (c : Choices) (depth : Nat) : String → Prop
  | opened (c' : Choices) : (c.below 8).1 = 0 →
      GarbageForm c depth ("[[[[" ++ (c'.garbage depth).1)
  | pair (c' c'' : Choices) : (c.below 8).1 = 1 →
      GarbageForm c depth ((c'.garbage depth).1 ++ ":" ++ (c''.garbage depth).1)
  | quoted (c' : Choices) : (c.below 8).1 = 2 →
      GarbageForm c depth ("\"" ++ (c'.garbage depth).1)
  | exponents (n : Nat) : (c.below 8).1 = 3 → GarbageForm c depth (toString n ++ "e3333e33-3-")
  | field (c' c'' : Choices) : (c.below 8).1 = 4 →
      GarbageForm c depth ("\x7b" ++ (c'.garbage depth).1 ++ ":" ++ (c''.garbage depth).1)
  | negative : (c.below 8).1 = 5 → GarbageForm c depth ("-" ++ ((c.below 8).2.garbage depth).1)
  | null : (c.below 8).1 = 6 → GarbageForm c depth "null"
  | run : (c.below 8).1 = 7 → GarbageForm c depth ((c.below 8).2.text 8).1

theorem garbageForm (c : Choices) (depth : Nat) : GarbageForm c depth (c.garbage (depth + 1)).1 := by
  have hlt : (c.below 8).1 < 8 := c.below_lt (by decide)
  simp only [garbage]
  split
  · exact .opened _ ‹_›
  · exact .pair _ _ ‹_›
  · exact .quoted _ ‹_›
  · exact .exponents _ ‹_›
  · exact .field _ _ ‹_›
  · exact .negative ‹_›
  · exact .null ‹_›
  · refine .run ?_
    grind

/-! ## Its characters -/

theorem isAlphanum_of_mem_toString {n : Nat} {a : Char} (h : a ∈ (toString n).toList) :
    a.isAlphanum = true := by
  rw [Nat.toString_eq_repr, Nat.toList_repr] at h
  have hdigit := Nat.isDigit_of_mem_toDigits (by decide) (by decide) h
  rw [Char.isAlphanum, hdigit, Bool.or_true]

def isGarbageChar (a : Char) : Bool :=
  a.isAlphanum || "[:\"-.\x7b".toList.contains a

theorem isGarbageChar_of_isAlphanum {a : Char} (h : a.isAlphanum = true) :
    isGarbageChar a = true := by
  rw [isGarbageChar, h, Bool.true_or]

theorem garbage_isGarbageChar (c : Choices) (depth : Nat) :
    (c.garbage depth).1.toList.all isGarbageChar = true := by
  have of_alphanum : ∀ {cs : List Char}, (∀ a ∈ cs, a.isAlphanum = true) →
      cs.all isGarbageChar = true :=
    fun h => List.all_eq_true.2 fun a ha => isGarbageChar_of_isAlphanum (h a ha)
  induction depth generalizing c with
  | zero => simp [garbage, isGarbageChar]
  | succ depth ih =>
    have hform := c.garbageForm depth
    generalize (c.garbage (depth + 1)).1 = text at hform
    cases hform with
    | opened c' | quoted c' =>
      rw [String.toList_append, List.all_append, ih c']
      decide
    | pair c' c'' =>
      rw [String.toList_append, String.toList_append, List.all_append, List.all_append, ih c', ih c'']
      decide
    | exponents n =>
      rw [String.toList_append, List.all_append,
        of_alphanum fun a ha => isAlphanum_of_mem_toString ha]
      decide
    | field c' c'' =>
      rw [String.toList_append, String.toList_append, String.toList_append, List.all_append,
        List.all_append, List.all_append, ih c', ih c'']
      decide
    | negative =>
      rw [String.toList_append, List.all_append, ih]
      decide
    | null => decide
    | run =>
      rw [toList_text]
      exact of_alphanum (chars_isAlphanum _ 8)

def isGarbageEnd (a : Char) : Bool :=
  a.isAlphanum || a == '.' || a == '-'

theorem garbage_isGarbageEnd (c : Choices) (depth : Nat) :
    ∃ a, (c.garbage depth).1.toList.getLast? = some a ∧ isGarbageEnd a = true := by
  have extended : ∀ (before : String) {text : String},
      (∃ a, text.toList.getLast? = some a ∧ isGarbageEnd a = true) →
      ∃ a, (before ++ text).toList.getLast? = some a ∧ isGarbageEnd a = true := by
    rintro before text ⟨a, hlast, ha⟩
    exact ⟨a, by rw [String.toList_append, List.getLast?_append, hlast, Option.some_or], ha⟩
  induction depth generalizing c with
  | zero => exact ⟨'.', by simp [garbage], rfl⟩
  | succ depth ih =>
    have hform := c.garbageForm depth
    generalize (c.garbage (depth + 1)).1 = text at hform
    cases hform with
    | opened c' | quoted c' => exact extended _ (ih c')
    | pair c' c'' | field c' c'' => exact extended _ (ih c'')
    | exponents n => exact extended _ ⟨'-', rfl, rfl⟩
    | negative => exact extended _ (ih _)
    | null => exact ⟨'l', rfl, rfl⟩
    | run =>
      have hne : (((c.below 8).2).chars 8).1 ≠ [] :=
        List.ne_nil_of_length_pos (by rw [length_chars]; decide)
      refine ⟨_, by rw [toList_text, List.getLast?_eq_getLast_of_ne_nil hne], ?_⟩
      rw [isGarbageEnd, chars_isAlphanum _ _ _ (List.getLast_mem hne)]
      rfl

/-! ## Garbage that is JSON -/

theorem isText_garbage_iff_isSimple (c : Choices) (depth : Nat) :
    IsText (c.garbage depth).1.toList ↔ IsSimple (c.garbage depth).1.toList := by
  have hspaces : ∀ a ∈ (c.garbage depth).1.toList, ¬ Json.IsSpace [a] := by
    intro a ha hspace
    have hchar := List.all_eq_true.1 (c.garbage_isGarbageChar depth) a ha
    rcases hspace a (List.mem_singleton_self a) with rfl | rfl | rfl | rfl <;> cases hchar
  rw [Json.isText_iff_isValue hspaces]
  refine ⟨fun hvalue => hvalue.simple_or_closed.resolve_right ?_, IsSimple.isValue⟩
  -- garbage is never closed
  rintro ⟨b, hb, hlast⟩
  obtain ⟨a, hlast', ha⟩ := c.garbage_isGarbageEnd depth
  obtain rfl : a = b := Option.some.inj (hlast'.symm.trans hlast)
  simp only [List.mem_cons, List.not_mem_nil, or_false] at hb
  rcases hb with rfl | rfl | rfl <;> cases ha

/-- A run of letters and digits is no literal, for its length, and has no sign. -/
theorem isSimple_run_iff (c : Choices) :
    IsSimple (c.text 8).1.toList ↔ IsUnsigned (c.text 8).1.toList := by
  rw [toList_text]
  have hminus : '-' ∉ (c.chars 8).1 := fun hmem => by cases c.chars_isAlphanum 8 _ hmem
  rw [IsSimple, Json.isNumber_of_not_mem_minus hminus, or_iff_right_iff_imp]
  rintro ⟨word, hword, heq⟩
  have hshort : ∀ word ∈ Json.literals, word.toList.length < 8 := by decide
  have hlt := hshort word hword
  rw [← heq, length_chars] at hlt
  exact absurd hlt (Nat.lt_irrefl 8)

theorem isSimple_cons_minus {cs : List Char} : IsSimple ('-' :: cs) ↔ IsUnsigned cs := by
  rw [IsSimple, Json.isNumber_cons_minus, or_iff_right_iff_imp]
  rintro ⟨word, hword, heq⟩
  have hletters : ∀ word ∈ Json.literals, '-' ∉ word.toList := by decide
  exact absurd (heq ▸ List.mem_cons_self) (hletters word hword)

theorem isSimple_garbage_iff (c : Choices) (depth : Nat) :
    IsSimple (c.garbage (depth + 1)).1.toList ↔ (c.below 8).1 = 6 ∨
      (c.below 8).1 = 7 ∧ IsUnsigned ((c.below 8).2.text 8).1.toList ∨
      (c.below 8).1 = 5 ∧ IsUnsigned ((c.below 8).2.garbage depth).1.toList := by
  have hform := c.garbageForm depth
  generalize (c.garbage (depth + 1)).1 = text at hform ⊢
  have hmark : ∀ a ∈ ['[', '"', ':'], a ∈ text.toList → ¬ IsSimple text.toList := by
    intro a ha hmem hsimple
    have hnone : ['[', '"', ':'].all (fun a => !a.isAlphanum && !Json.numberMarks.contains a) := by
      decide
    obtain ⟨halphanum, hmark⟩ : a.isAlphanum = false ∧ a ∉ Json.numberMarks := by
      simpa using List.all_eq_true.1 hnone a ha
    rcases hsimple.forall_mem a hmem with h | h
    · cases halphanum.symm.trans h
    · exact hmark h
  cases hform with
  | opened c' h => exact iff_of_false (hmark '[' (by simp) (by simp)) (by omega)
  | quoted c' h => exact iff_of_false (hmark '"' (by simp) (by simp)) (by omega)
  | pair c' c'' h | field c' c'' h =>
    exact iff_of_false (hmark ':' (by simp) (by simp)) (by omega)
  | exponents n h =>
    refine iff_of_false (fun hsimple => ?_) (by omega)
    obtain ⟨a, hlast, ha⟩ := hsimple.exists_last
    rw [String.toList_append, List.getLast?_append] at hlast
    cases hlast
    cases ha
  | negative h =>
    have hsimple := @isSimple_cons_minus ((c.below 8).2.garbage depth).1.toList
    simpa [h] using hsimple
  | null h => exact iff_of_true (.inl ⟨"null", by decide, rfl⟩) (.inl h)
  | run h => simpa [h] using (c.below 8).2.isSimple_run_iff

/-- Only a run of letters and digits can be a number without a sign. -/
theorem isUnsigned_garbage_iff (c : Choices) (depth : Nat) :
    IsUnsigned (c.garbage (depth + 1)).1.toList ↔
      (c.below 8).1 = 7 ∧ IsUnsigned ((c.below 8).2.text 8).1.toList := by
  have hform := c.garbageForm depth
  have hsimple := c.isSimple_garbage_iff depth
  generalize (c.garbage (depth + 1)).1 = text at hform hsimple ⊢
  have hnumber : IsUnsigned text.toList → IsSimple text.toList := fun h => .inr (.unsigned h)
  cases hform with
  | opened _ h | pair _ _ h | quoted _ h | exponents _ h | field _ _ h =>
    exact iff_of_false (fun hunsigned => by have := hsimple.1 (hnumber hunsigned); omega) (by omega)
  | negative h =>
    refine iff_of_false (fun hunsigned => ?_) (by omega)
    rw [String.toList_append] at hunsigned
    cases hunsigned.head_isDigit
  | null h => exact iff_of_false (fun hunsigned => by cases hunsigned.head_isDigit) (by omega)
  | run h => simp [h]

/-- The text `null` is drawn, or a number, by itself or after a minus. -/
def DrawsJson (c : Choices) : Prop :=
  (c.below 8).1 = 6 ∨ (c.below 8).1 = 7 ∧ IsUnsigned ((c.below 8).2.text 8).1.toList ∨
    (c.below 8).1 = 5 ∧ ((c.below 8).2.below 8).1 = 7 ∧
      IsUnsigned (((c.below 8).2.below 8).2.text 8).1.toList

theorem isText_garbage_iff_drawsJson (c : Choices) (depth : Nat) :
    IsText (c.garbage (depth + 2)).1.toList ↔ c.DrawsJson := by
  rw [isText_garbage_iff_isSimple, isSimple_garbage_iff, isUnsigned_garbage_iff, DrawsJson]

end Choices

namespace Detector

open OpenApi (Document Paths)

/-! ## The bodies of a detection -/

/-- What is sent with a request. All garbage is made from the numbers of one stream. -/
inductive IsBody (number : Nat → Nat) (method : HttpMethod) : Option String → Prop
  | none : hasBody method = false → IsBody number method none
  | emptyObject : hasBody method = true → IsBody number method (some "\x7b\x7d")
  | garbage (used : Nat) : hasBody method = true →
      IsBody number method (some (Choices.garbage ⟨number, used⟩ 4).1)

/-- The numbers of the detector are those of the stream that all its garbage was made from. -/
structure SendsGarbage (number : Nat → Nat) (d : Detector) : Prop where
  stream : d.choices.number = number
  bodies : ∀ exchange ∈ d.traffic, IsBody number exchange.1.method exchange.1.body

section

variable {number : Nat → Nat} {d : Detector} (h : SendsGarbage number d)

include h

theorem SendsGarbage.choices {choices : Choices} (hnumber : choices.number = d.choices.number) :
    SendsGarbage number { d with choices } :=
  ⟨hnumber.trans h.stream, h.bodies⟩

theorem SendsGarbage.penalize (candidate : String) (penalty : Score) :
    SendsGarbage number (d.penalize candidate penalty) :=
  ⟨h.stream, h.bodies⟩

theorem SendsGarbage.settle (candidate : String) (reply : Reply) :
    SendsGarbage number (d.settle candidate reply).2 := by
  rw [Detector.settle]
  induction penalties reply generalizing d with
  | nil => exact h
  | cons penalty rest ih => exact ih (h.penalize candidate penalty)

theorem SendsGarbage.ask (net : Network) {r : Request} (hbody : IsBody number r.method r.body) :
    SendsGarbage number (d.ask net r).2 := by
  refine ⟨h.stream, fun exchange hexchange => ?_⟩
  rcases List.mem_append.1 hexchange with hmem | hmem
  · exact h.bodies exchange hmem
  · rw [List.mem_singleton.1 hmem]
    exact hbody

theorem SendsGarbage.garbageBody (method : HttpMethod) :
    IsBody number method (d.garbageBody method).1 ∧
      SendsGarbage number (d.garbageBody method).2 := by
  rw [Detector.garbageBody]
  cases hmethod : hasBody method with
  | false => exact ⟨.none hmethod, h⟩
  | true =>
    have hchoices : d.choices = ⟨number, d.choices.used⟩ := by rw [← h.stream]
    refine ⟨?_, h.choices (d.choices.number_garbage 4)⟩
    simp only [if_true]
    rw [hchoices]
    exact .garbage _ hmethod

theorem SendsGarbage.send (net : Network) (retry : Bool) (candidate : String)
    (method : HttpMethod) (url : String) :
    SendsGarbage number (d.send net retry candidate method url).2 := by
  obtain ⟨hbody, hdrawn⟩ := h.garbageBody method
  rw [Detector.send]
  generalize d.garbageBody method = filled at hbody hdrawn ⊢
  obtain ⟨body, d₁⟩ := filled
  have hasked := hdrawn.ask net (r := ⟨method, url, body⟩) hbody
  dsimp only
  split
  · refine (hasked.ask net ?_).settle candidate _
    cases hmethod : hasBody method with
    | false => exact .none hmethod
    | true => exact .emptyObject hmethod
  · exact hasked.settle candidate _

theorem SendsGarbage.probeGarbled (net : Network) (candidate : String) (method : HttpMethod)
    (path : String) (level more last : Nat) :
    SendsGarbage number (d.probeGarbled net candidate method path level more last).2 := by
  induction more generalizing level last d with
  | zero => exact h
  | succ more ih =>
    rw [Detector.probeGarbled]
    have hnumber : (Probe.fill (Probe.garble d.choices level path).2
        (Probe.garble d.choices level path).1).2.number = d.choices.number := by
      rw [Probe.number_fill, Probe.number_garble]
    have hsent := (h.choices hnumber).send net true candidate method
    dsimp only
    split
    · exact hsent _
    · exact ih (hsent _) _ _

theorem SendsGarbage.probeReal (net : Network) (candidate : String) (method : HttpMethod)
    (path : String) : SendsGarbage number (d.probeReal net candidate method path).2 := by
  rw [Detector.probeReal]
  exact (h.choices (Probe.number_fill d.choices path)).send net false candidate method _

theorem SendsGarbage.tryEndpoints (net : Network) (candidate : String)
    (endpoints : List (HttpMethod × String)) :
    SendsGarbage number (d.tryEndpoints net candidate endpoints).2 := by
  induction endpoints generalizing d with
  | nil => exact h
  | cons endpoint rest ih =>
    obtain ⟨method, path⟩ := endpoint
    have hgarbled := h.probeGarbled net candidate method path 1 (Probe.levels path) Reply.noStatus
    have hreal := hgarbled.probeReal net candidate method path
    rw [Detector.tryEndpoints]
    dsimp only
    split
    · split
      · exact ih hreal
      · exact hreal
    · exact hgarbled.penalize candidate _

theorem SendsGarbage.findServer (net : Network) (endpoints : List (HttpMethod × String))
    (candidates : List String) :
    SendsGarbage number (d.findServer net endpoints candidates).2 := by
  induction candidates generalizing d with
  | nil => exact h
  | cons candidate rest ih =>
    have htried := h.tryEndpoints net candidate endpoints
    rw [Detector.findServer]
    dsimp only
    split
    · exact htried
    · exact ih htried

theorem SendsGarbage.detectAll (net : Network) (interfaces : List String) (paths : Paths) :
    SendsGarbage number (d.detectAll net interfaces paths).2.2 := by
  induction interfaces generalizing paths d with
  | nil => exact h
  | cons interface rest ih =>
    have hfound := h.findServer net (endpointsToTry paths interface) d.ranked
    rw [Detector.detectAll]
    generalize d.findServer net (endpointsToTry paths interface) d.ranked = searched at hfound ⊢
    obtain ⟨server?, d₁⟩ := searched
    cases server? with
    | some server => exact ih hfound _
    | none => exact ih hfound _

end

/-- Garbage is JSON just where `null` or a number is drawn. With the same stream of choices a
detection sends nothing but such garbage, empty objects and requests without a body. -/
theorem garbage_is_json_where_drawn (choices : Choices) :
    (IsText (choices.garbage 4).1.toList ↔ choices.DrawsJson) ∧
      ∀ (net : Network) (candidates : List ScoredUrl) (document : Document),
        let result := (ofCandidates candidates choices).detect net document
        ∀ exchange ∈ result.2.2.traffic,
          IsBody choices.number exchange.1.method exchange.1.body := by
  refine ⟨choices.isText_garbage_iff_drawsJson 2, fun net candidates document => ?_⟩
  have hstart : SendsGarbage choices.number (ofCandidates candidates choices) :=
    ⟨rfl, fun _ hexchange => by cases hexchange⟩
  exact (hstart.detectAll net _ document.paths).bodies

/-- A detection that sends JSON and no garbage. -/
theorem null_is_sent :
    let document : Document :=
      ⟨.standard, [("/a", { post := some ⟨none, "x.X", [], none, ⟨"", .free⟩, none⟩ })], none⟩
    let result := (ofCandidates [⟨"http://h", 1⟩] { number := fun _ => 6 }).detect
      (fun _ _ => .answered 404 "") document
    result.2.2.traffic.map (fun exchange => (exchange.1.url, exchange.1.body)) =
        [("http://h/gggggggg", some "null"), ("http://h/a", some "null")] ∧
      IsText "null".toList := by
  intro document result
  exact ⟨by decide +kernel, .of_value (.literal (by decide))⟩

end Detector

end ApiRecovery
