import LiveConfig.Proofs.Gate
import Mathlib.Logic.Function.Iterate
set_option autoImplicit false

/-!
A double is faithful to its script, its counts and its gate, in whichever order visits go on,
whatever becomes of them, and whenever it is released or given another script.
-/
namespace LiveConfig

open Incident

namespace Script

/-- The answer for a visit that reaches a script after so many others. -/
def reply (answers : List (Except Fault Snapshot)) (i : Nat) : Except Fault Snapshot :=
  answers.getD (min i (answers.length - 1)) (.ok .empty)

theorem next_iterate (answers : List (Except Fault Snapshot)) (i : Nat) :
    (rest^[i] (ofList answers)).next = reply answers i := by
  induction i generalizing answers with
  | zero => cases answers <;> simp [reply, ofList]
  | succ i ih =>
    rw [Function.iterate_succ_apply]
    match answers with
    | [] => simpa [reply, ofList, rest] using ih []
    | [a] => simpa [reply, ofList, rest] using ih [a]
    | a :: b :: more => simpa [reply, ofList, rest] using ih (b :: more)

end Script

theorem Stage.outcomes_incidents (stage : Stage) (id : Nat) (storeId : String)
    (state : VisitState) : outcomes (stage.incidents id storeId state) =
      match state with
      | .ended outcome => [(id, outcome)]
      | .active _ | .cancelled => [] := by
  cases state <;> simp only [incidents] <;> split <;> rfl

theorem Scripted.Entry.script {d e : Scripted} {storeId : String} {stage : Stage}
    (h : d.Entry storeId stage e) : e.script = d.script := by
  cases h <;> rfl

namespace Session
variable {s : Session} {d d' : Scripted} {es : List Incident}

theorem Course.backend {m : Move} (hc : Course s d m) :
    ∃ d', (s.move m).backend = .scripted d' := by
  cases hc with
  | begins id storeId event new backend => exact ⟨_, backend⟩
  | goes place id storeId stage r turn next visit passage backend => exact ⟨_, backend⟩
  | leaves id storeId stage event visit backend => exact ⟨_, backend⟩
  | frees f event backend => exact ⟨_, backend⟩
  | responds answers event backend => exact ⟨_, backend⟩
  | idles release backend => exact ⟨_, backend⟩

theorem run_backend (hb : s.backend = .scripted d) (ms : List Move) :
    ∃ d', (s.run ms).backend = .scripted d' := by
  induction ms generalizing s d with
  | nil => exact ⟨d, hb⟩
  | cons m ms ih =>
    obtain ⟨d₁, hd⟩ := (course hb m).backend
    exact ih hd

/-- Only a visit that is answered consumes an answer, the one that it gets. -/
theorem Course.script {m : Move} (hc : Course s d m) (hb : (s.move m).backend = .scripted d')
    (hm : ∀ answers, m ≠ .event (.respond answers)) :
    (d'.script = d.script ∧ outcomes (s.incidents m) = []) ∨
    (d'.script = d.script.rest ∧ ∃ id, outcomes (s.incidents m) = [(id, d.script.next)]) := by
  cases hc with
  | begins id storeId event new backend visits ready incidents =>
    cases backend.symm.trans hb
    exact .inl ⟨rfl, by rw [incidents]; rfl⟩
  | goes place id storeId stage r turn next visit passage backend visits ready incidents =>
    cases backend.symm.trans hb
    rw [incidents, Stage.outcomes_incidents]
    cases passage with
    | held hold => exact .inl ⟨rfl, rfl⟩
    | stopped out stops => exact .inl ⟨rfl, rfl⟩
    | sleeps entry late early => exact .inl ⟨entry.script, rfl⟩
    | answered entry =>
      refine .inr ⟨congrArg Script.rest entry.script, id, ?_⟩
      rw [← entry.script]
      rfl
  | leaves id storeId stage event visit backend visits ready incidents =>
    cases backend.symm.trans hb
    rw [incidents, Stage.outcomes_incidents]
    exact .inl ⟨by cases stage <;> rfl, rfl⟩
  | frees f event backend visits ready incidents =>
    cases backend.symm.trans hb
    refine .inl ⟨?_, by rw [incidents]; rfl⟩
    obtain ⟨-, rfl⟩ | ⟨-, rfl⟩ := event
    · rw [Scripted.release]
      split <;> rfl
    · rfl
  | responds answers event backend visits ready incidents => exact absurd event (hm answers)
  | idles release backend visits ready stays gone incidents =>
    cases backend.symm.trans hb
    exact .inl ⟨rfl, by rw [incidents]; rfl⟩

theorem cancel_script (hb : s.backend = .scripted d) (id : Nat) :
    ∃ d', (s.move (.event (.cancel id))).backend = .scripted d' ∧ d'.script = d.script := by
  cases course_event hb (.cancel id) with
  | leaves j storeId stage event visit backend => exact ⟨_, backend, by cases stage <;> rfl⟩
  | idles release backend => exact ⟨d, backend, rfl⟩
  | begins _ _ event => cases event
  | goes _ _ _ _ _ turn => cases turn
  | frees _ event => obtain ⟨he, -⟩ | ⟨he, -⟩ := event <;> cases he
  | responds _ event => cases event

/-- As long as the script is not replaced, its answers are given in order. -/
theorem run_script (hb : s.backend = .scripted d) {ms : List Move}
    (hms : ∀ answers, .event (.respond answers) ∉ ms) {i id : Nat}
    {outcome : Except Fault Snapshot} (ho : (outcomes (s.story ms))[i]? = some (id, outcome)) :
    outcome = (Script.rest^[i] d.script).next := by
  induction ms generalizing s d i with
  | nil => cases ho
  | cons m ms ih =>
    obtain ⟨d₁, hd⟩ := (course hb m).backend
    have hlater : ∀ answers, .event (.respond answers) ∉ ms :=
      fun answers hr => hms answers (List.mem_cons_of_mem _ hr)
    rw [story, outcomes_append] at ho
    obtain ⟨hs, hnone⟩ | ⟨hs, j, hone⟩ :=
      (course hb m).script hd fun answers hm => hms answers (hm ▸ List.mem_cons_self)
    · rw [hnone, List.nil_append] at ho
      rw [← hs]
      exact ih hd hlater ho
    · rw [hone, List.singleton_append] at ho
      cases i with
      | zero =>
        cases ho
        rfl
      | succ i =>
        rw [Function.iterate_succ_apply, ← hs]
        exact ih hd hlater ho

theorem run_rescripted (hb : s.backend = .scripted d) (before : List Move)
    (others : List (Except Fault Snapshot)) {after : List Move}
    (hno : ∀ answers, .event (.respond answers) ∉ after) {i id : Nat}
    {outcome : Except Fault Snapshot}
    (ho : (outcomes ((s.run (before ++ [.event (.respond others)])).story after))[i]? =
      some (id, outcome)) : outcome = Script.reply others i := by
  obtain ⟨d₁, hd⟩ := run_backend hb before
  have hr : (s.run (before ++ [.event (.respond others)])).backend =
      .scripted (d₁.respond others) := by
    simp [Session.move, apply, Backend.onDouble, hd]
  exact (run_script hr hno ho).trans (Script.next_iterate others i)

def withDouble (restraint : Restraint) (delayed : Bool) (answers : List (Except Fault Snapshot))
    (w : World) : Session := start (.scripted (.fresh restraint delayed (.ofList answers))) w

structure Recounted (s : Session) (d : Scripted) (es : List Incident) : Prop where
  backend : s.backend = .scripted d
  told : Told s es
  tally : d.Tally es
  placed : Placed s d
  gated : Gated s d es

structure Next (s : Session) (place id : Nat) (storeId : String) (stage : Stage) : Prop where
  ready : s.ready[place]? = some id
  visit : s.visits.get? id = some ⟨storeId, .active stage⟩

variable {place id : Nat} {storeId : String} {stage : Stage}

theorem Next.passage (h : s.Next place id storeId stage) (hb : s.backend = .scripted d) :
    ∃ r, d.Passage id storeId stage r ∧
      (s.turn place).visits.get? id = some ⟨storeId, r.2.state⟩ := by
  cases course_turn hb place with
  | goes p j t stage r turn next visit passage backend visits =>
    cases turn
    cases h.ready.symm.trans next
    cases h.visit.symm.trans visit
    have hv : (s.turn place).visits = s.visits.insert id ⟨storeId, r.2.state⟩ := visits
    exact ⟨r, passage, by rw [hv, Table.get?_insert, if_pos rfl]⟩
  | idles release backend visits ready stays gone =>
    exact absurd h.visit (gone place id storeId stage rfl h.ready)
  | begins _ _ event => cases event
  | leaves _ _ _ event => cases event
  | frees _ event => obtain ⟨he, -⟩ | ⟨he, -⟩ := event <;> cases he
  | responds _ event => cases event

namespace Recounted

theorem fresh (restraint : Restraint) (delayed : Bool) (answers : List (Except Fault Snapshot))
    (w : World) : Recounted (withDouble restraint delayed answers w)
      (.fresh restraint delayed (.ofList answers)) [] where
  backend := rfl
  told _ := .unknown
  tally := ⟨rfl, rfl, fun _ hp => by rw [List.prefix_nil.1 hp]; exact Nat.le_refl _,
    [], List.prefix_rfl, rfl⟩
  placed := ⟨List.nodup_nil, nofun⟩
  gated := ⟨fun _ => rfl, nofun, nofun, nofun⟩

theorem move (h : Recounted s d es) (m : Move) : ∃ d',
    Recounted (s.move m) d' (es ++ s.incidents m) ∧
      d'.restraint = d.restraint ∧ d'.delayed = d.delayed ∧
      (d'.gateOpen = true ↔ d.gateOpen = true ∨ (d.restraint = .gate ∧ m = .event .release)) := by
  have hc := course h.backend m
  obtain ⟨d', hb⟩ := hc.backend
  exact ⟨d', ⟨hb, h.told.move hc, h.told.tally h.tally hc hb, h.placed.move hc hb,
    h.gated.move h.told h.tally h.placed hc hb⟩, hc.latch hb⟩

theorem run (h : Recounted s d es) (ms : List Move) : ∃ d',
    Recounted (s.run ms) d' (es ++ s.story ms) ∧
      d'.restraint = d.restraint ∧ d'.delayed = d.delayed ∧
      (d'.gateOpen = true ↔
        d.gateOpen = true ∨ (d.restraint = .gate ∧ .event .release ∈ ms)) := by
  induction ms generalizing s d es with
  | nil => exact ⟨d, by simpa [story] using h, rfl, rfl, by simp⟩
  | cons m ms ih =>
    obtain ⟨d₁, h₁, hr₁, hd₁, ho₁⟩ := h.move m
    obtain ⟨d', h', hr', hd', ho'⟩ := ih h₁
    refine ⟨d', by rw [story, ← List.append_assoc]; exact h', hr'.trans hr₁, hd'.trans hd₁, ?_⟩
    rw [ho', ho₁, hr₁, List.mem_cons, eq_comm (a := Move.event .release)]
    tauto

/-- Behind a closed gate only the visit that entered first is answered. -/
theorem first (h : Recounted s d es) (hgate : d.restraint = .gate)
    (hclosed : d.gateOpen = false) {id : Nat} {outcome : Except Fault Snapshot}
    (ho : (id, outcome) ∈ outcomes es) : (entered es).head? = some id := by
  obtain ⟨storeId, hv⟩ := h.told.mem_outcomes_iff.1 ho
  obtain hhead | ⟨t, ht | ht⟩ :=
    h.gated.first hgate hclosed id (h.told.mem_entered_of_mem_outcomes ho)
  · exact hhead
  · cases hv.symm.trans ht
  · cases hv.symm.trans ht

/-- Whom a gate has stopped can go on once it is open. -/
theorem freed (h : Recounted s d es) (hopen : d.restraint = .gate → d.gateOpen = true)
    {id : Nat} {storeId : String} (hv : s.visits.get? id = some ⟨storeId, .active .passed⟩) :
    id ∈ s.ready := by
  obtain hmem | ⟨-, hmem⟩ := h.gated.stopped id storeId hv
  · rw [h.gated.free hopen] at hmem
    cases hmem
  · exact hmem

/-- Nobody is stopped by a gate that is open, or that is none. -/
theorem passes (h : Recounted s d es) (hopen : d.restraint = .gate → d.gateOpen = true)
    (hn : s.Next place id storeId stage) :
    (s.turn place).visits.get? id ≠ some ⟨storeId, .active .passed⟩ := by
  obtain ⟨r, passage, hr⟩ := hn.passage h.backend
  rw [hr]
  obtain ⟨-, hne⟩ | ⟨-, stops, -, -⟩ := passage.gated
  · exact fun he => hne (congrArg Visit.state (Option.some.inj he))
  · have hclosed := stops.2.1
    rw [hopen stops.1] at hclosed
    cases hclosed

/-- Whoever goes on is inside then, or has been, unless it is held. -/
theorem enters (h : Recounted s d es) (hn : s.Next place id storeId stage)
    (hheld : ¬(d.restraint = .hold ∧ stage = .arriving)) :
    id ∈ entered (es ++ s.incidents (.turn place)) := by
  have ht := h.told.move (course_turn h.backend place)
  obtain ⟨r, passage, hr⟩ := hn.passage h.backend
  cases passage with
  | held hold => exact absurd ⟨hold, rfl⟩ hheld
  | stopped out stops => exact (mem_inside.1 (ht.mem_inside_iff.2 ⟨storeId, _, hr, rfl⟩)).1
  | sleeps entry late early =>
    exact (mem_inside.1 (ht.mem_inside_iff.2 ⟨storeId, _, hr, rfl⟩)).1
  | answered entry => exact ht.mem_entered_of_mem_outcomes (ht.mem_outcomes_iff.2 ⟨storeId, hr⟩)

/-- Whoever goes on is answered, unless it is held, stopped or delayed. -/
theorem finishes (h : Recounted s d es) (hn : s.Next place id storeId stage)
    (hheld : ¬(d.restraint = .hold ∧ stage = .arriving)) (hfree : stage.inside = 0 → ¬d.Stops)
    (hlate : d.delayed = true → stage = .rested) :
    ∃ outcome, (s.turn place).visits.get? id = some ⟨storeId, .ended outcome⟩ := by
  obtain ⟨r, passage, hr⟩ := hn.passage h.backend
  cases passage with
  | held hold => exact absurd ⟨hold, rfl⟩ hheld
  | stopped out stops => exact absurd stops (hfree out)
  | sleeps entry late early => exact absurd (hlate late) early
  | answered entry => exact ⟨_, hr⟩

end Recounted

/-- What a double keeps to in a run. The story of the run tells of each visit how far it has come.
Calls are recorded, and visits counted, as they enter and leave; answers are given in the order of
the script, to those that reach it; and of the visits that the gate is to hold back none is answered
before a release, or stopped after it. Whoever goes on enters unless it is held, and is answered
unless the gate stops it or it is to wait for its answer. The order of the queue, in which visits
are let go on until nothing is left to do, is one of the orders in question. -/
structure Faithful (restraint : Restraint) (delayed : Bool)
    (answers : List (Except Fault Snapshot)) (s : Session) (ms : List Move) (d : Scripted) :
    Prop where
  settles : ∃ more, (s.run ms).settle = s.run (ms ++ more)
  told : (s.run ms).Told (s.story ms)
  calls : d.calls = (entrances (s.story ms)).map Prod.snd
  once : (entered (s.story ms)).Nodup
  present : ∀ id, id ∈ inside (s.story ms) ↔ ∃ storeId stage,
    (s.run ms).visits.get? id = some ⟨storeId, .active stage⟩ ∧ stage.inside = 1
  inFlight : d.inFlight = (inside (s.story ms)).length
  below : ∀ es, es <+: s.story ms → (inside es).length ≤ d.maxInFlight
  reached : ∃ es, es <+: s.story ms ∧ (inside es).length = d.maxInFlight
  results : ∀ id outcome, (id, outcome) ∈ outcomes (s.story ms) ↔
    ∃ storeId, (s.run ms).visits.get? id = some ⟨storeId, .ended outcome⟩
  scripted : (∀ other, .event (.respond other) ∉ ms) → ∀ i id outcome,
    (outcomes (s.story ms))[i]? = some (id, outcome) → outcome = Script.reply answers i
  rescripted : ∀ before others after, ms = before ++ .event (.respond others) :: after →
    (∀ other, .event (.respond other) ∉ after) → ∀ i id outcome,
    (outcomes ((s.run (before ++ [.event (.respond others)])).story after))[i]? =
      some (id, outcome) → outcome = Script.reply others i
  unconsumed : ∀ id, ∃ d', (s.run (ms ++ [.event (.cancel id)])).backend = .scripted d' ∧
    d'.script = d.script
  closed : restraint = .gate → .event .release ∉ ms → ∀ id outcome,
    (id, outcome) ∈ outcomes (s.story ms) → (entered (s.story ms)).head? = some id
  first : ∀ id storeId, (entered (s.story ms)).head? = some id →
    (s.run ms).visits.get? id ≠ some ⟨storeId, .active .passed⟩
  freed : (restraint = .gate → .event .release ∈ ms) → ∀ id storeId,
    (s.run ms).visits.get? id = some ⟨storeId, .active .passed⟩ → id ∈ (s.run ms).ready
  passes : (restraint = .gate → .event .release ∈ ms) → ∀ place id storeId stage,
    (s.run ms).Next place id storeId stage →
    (s.run (ms ++ [.turn place])).visits.get? id ≠ some ⟨storeId, .active .passed⟩
  enters : ∀ place id storeId stage, (s.run ms).Next place id storeId stage →
    ¬(restraint = .hold ∧ stage = .arriving) → id ∈ entered (s.story (ms ++ [.turn place]))
  finishes : ∀ place id storeId stage, (s.run ms).Next place id storeId stage →
    ¬(restraint = .hold ∧ stage = .arriving) →
    (stage.inside = 0 → restraint = .gate →
      .event .release ∈ ms ∨ entered (s.story ms) = []) →
    (delayed = true → stage = .rested) →
    ∃ outcome, (s.run (ms ++ [.turn place])).visits.get? id = some ⟨storeId, .ended outcome⟩

theorem faithful (restraint : Restraint) (delayed : Bool)
    (answers : List (Except Fault Snapshot)) (w : World) (ms : List Move) :
    ∃ d, ((withDouble restraint delayed answers w).run ms).backend = .scripted d ∧
      Faithful restraint delayed answers (withDouble restraint delayed answers w) ms d := by
  have hfresh := Recounted.fresh restraint delayed answers w
  obtain ⟨d, h, hrestraint, hdelayed, hgate⟩ := hfresh.run ms
  rw [List.nil_append] at h
  have hopen : (restraint = .gate → .event .release ∈ ms) →
      d.restraint = .gate → d.gateOpen = true := fun hr hg =>
    hgate.2 (.inr ⟨hrestraint.symm.trans hg, hr (hrestraint.symm.trans hg)⟩)
  refine ⟨d, h.backend, ?_⟩
  exact {
    settles := by
      obtain ⟨more, hm⟩ := settleFor_run _ ((withDouble restraint delayed answers w).run ms)
      exact ⟨more, by rw [settle, hm, run_append]⟩
    told := h.told
    calls := h.tally.calls
    once := h.told.once
    present := fun _ => h.told.mem_inside_iff
    inFlight := h.tally.inFlight
    below := h.tally.below
    reached := h.tally.reached
    results := fun _ _ => h.told.mem_outcomes_iff
    scripted := fun hno i id outcome ho =>
      (run_script hfresh.backend hno ho).trans (Script.next_iterate answers i)
    rescripted := fun before others after _ hno i id outcome ho =>
      run_rescripted hfresh.backend before others hno ho
    unconsumed := fun id => by
      rw [run_append]
      exact cancel_script h.backend id
    closed := by
      intro hr hno id outcome ho
      refine h.first (hrestraint.trans hr) ?_ ho
      rw [← Bool.not_eq_true, hgate]
      rintro (ho | ⟨-, hmem⟩)
      · cases ho
      · exact hno hmem
    first := fun id storeId hhead hv => h.gated.late id storeId hv hhead
    freed := fun hr id storeId hv => h.freed (hopen hr) hv
    passes := fun hr place id storeId stage hn => by
      rw [run_append]
      exact h.passes (hopen hr) hn
    enters := fun place id storeId stage hn hheld => by
      rw [story_append, story, story, List.append_nil]
      exact h.enters hn (hrestraint ▸ hheld)
    finishes := by
      intro place id storeId stage hn hheld hfree hlate
      rw [run_append]
      refine h.finishes hn (hrestraint ▸ hheld) (fun out stops => ?_) (hdelayed ▸ hlate)
      obtain hr | hnone := hfree out (hrestraint.symm.trans stops.1)
      · have hclosed := stops.2.1
        rw [hopen (fun _ => hr) stops.1] at hclosed
        cases hclosed
      · exact stops.2.2 (h.tally.calls_eq_nil_iff.2 hnone) }

/-- Of three visits the first comes past the gate, and the second is cancelled while it is stopped.
The third has the next answer once the gate is open. -/
example (w : World) (a : Snapshot) (f : Fault) :
    let s := withDouble .gate false [.ok a, .error f] w
    let ms := [.event (.begin 1 "x"), .event (.begin 2 "y"), .event (.begin 3 "z"), .turn 0,
      .turn 1, .turn 0, .event (.cancel 2), .event .release, .turn 1, .turn 0]
    outcomes (s.story ms) = [(1, .ok a), (3, .error f)] ∧
      entrances (s.story ms) = [(1, "x"), (3, "z"), (2, "y")] := by cbv

end Session

end LiveConfig
