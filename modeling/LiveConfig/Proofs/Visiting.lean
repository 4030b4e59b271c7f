import LiveConfig.Proofs.Overlap
import LiveConfig.Session
set_option autoImplicit false

/-!
Visits to a double, side by side. Any visit that can go on may be the next to do so, and the double
may be released or given another script, and visits cancelled, at any time between. What becomes of
visits is told as a story: who enters, who leaves with an answer, and who leaves without one.
-/
namespace LiveConfig

namespace Scripted

def enter (d : Scripted) (storeId : String) : Scripted :=
  { d with
    calls := d.calls ++ [storeId]
    inFlight := d.inFlight + 1
    maxInFlight := max d.maxInFlight (d.inFlight + 1) }

def Stops (d : Scripted) : Prop := d.restraint = .gate ∧ d.gateOpen = false ∧ d.calls ≠ []

inductive Entry (d : Scripted) (storeId : String) : Stage → Scripted → Prop where
  | outside {stage : Stage} (out : stage.inside = 0) (free : ¬d.Stops) :
    Entry d storeId stage (d.enter storeId)
  | inside {stage : Stage} (within : stage.inside = 1) : Entry d storeId stage d

/-- What becomes of a double when a visit goes on, and how far the visit comes. -/
inductive Passage (d : Scripted) (id : Nat) (storeId : String) :
    Stage → Scripted × Progress → Prop where
  | held (hold : d.restraint = .hold) :
    Passage d id storeId .arriving ({ d with held := d.held ++ [id] }, .waits .admitted)
  | stopped {stage : Stage} (out : stage.inside = 0) (stops : d.Stops) :
    Passage d id storeId stage
      ({ d.enter storeId with gated := d.gated ++ [id] }, .waits .passed)
  | sleeps {stage : Stage} {e : Scripted} (entry : Entry d storeId stage e)
    (late : d.delayed = true) (early : stage ≠ .rested) :
    Passage d id storeId stage ({ e with asleep := e.asleep ++ [id] }, .waits .rested)
  | answered {stage : Stage} {e : Scripted} (entry : Entry d storeId stage e) :
    Passage d id storeId stage e.answer

theorem Entry.pass {d e : Scripted} {storeId : String} {stage : Stage}
    (h : Entry d storeId stage e) (early : stage ≠ .rested) (id : Nat) :
    Passage d id storeId stage (e.pass id) := by
  have hd : e.delayed = d.delayed := by cases h <;> rfl
  rw [Scripted.pass]
  split
  · next late => exact .sleeps h (hd ▸ late) early
  · exact .answered h

theorem passage_letIn (d : Scripted) (id : Nat) (storeId : String) {stage : Stage}
    (out : stage.inside = 0) : Passage d id storeId stage (d.letIn id storeId) := by
  have hcalls : 1 < (d.calls ++ [storeId]).length ↔ d.calls ≠ [] := by
    simp [List.length_pos_iff]
  rw [letIn]
  split
  next h =>
    obtain ⟨hgate, hopen, hlate⟩ := h
    exact .stopped out ⟨hgate, by simpa using hopen, hcalls.1 hlate⟩
  next h =>
    have hfree : ¬d.Stops := fun hs => h ⟨hs.1, by simpa using hs.2.1, hcalls.2 hs.2.2⟩
    exact (Entry.outside out hfree).pass (by rintro rfl; cases out) id

theorem passage (d : Scripted) (id : Nat) (stage : Stage) (storeId : String) :
    Passage d id storeId stage (d.advance id stage storeId) := by
  cases stage with
  | arriving =>
    rw [advance, arrive]
    split
    · next hold => exact .held hold
    · exact passage_letIn d id storeId rfl
  | admitted => exact passage_letIn d id storeId rfl
  | passed => exact (Entry.inside rfl).pass (by simp) id
  | rested => exact .answered (.inside rfl)

end Scripted

/-- Something that becomes of a visit: the double counts it, or it leaves the double, answered or
cancelled. -/
inductive Incident where
  | enters (id : Nat) (storeId : String)
  | answered (id : Nat) (outcome : Except Fault Snapshot)
  | quits (id : Nat)

def Progress.state : Progress → VisitState
  | .waits next => .active next
  | .ends outcome => .ended outcome

def Stage.incidents (stage : Stage) (id : Nat) (storeId : String) : VisitState → List Incident
  | .active next => if stage.inside < next.inside then [.enters id storeId] else []
  | .ended outcome =>
    (if stage.inside = 0 then [.enters id storeId] else []) ++ [.answered id outcome]
  | .cancelled => if stage.inside = 1 then [.quits id] else []

namespace Session

inductive Move where
  | turn (place : Nat)
  | event (e : Event)

def turn (s : Session) (place : Nat) : Session :=
  match s.ready[place]? with
  | some id => { s with ready := s.ready.eraseIdx place }.advance id
  | none => s

def move (s : Session) : Move → Session
  | .turn place => s.turn place
  | .event e => s.apply e

def run (s : Session) (ms : List Move) : Session := ms.foldl move s

@[simp] theorem run_nil (s : Session) : s.run [] = s := rfl

@[simp] theorem run_cons (s : Session) (m : Move) (ms : List Move) :
    s.run (m :: ms) = (s.move m).run ms := rfl

@[simp] theorem run_append (s : Session) (ms ms' : List Move) :
    s.run (ms ++ ms') = (s.run ms).run ms' := List.foldl_append

theorem turn_zero (s : Session) : s.turn 0 = s.step := by
  rw [turn, step]
  cases s.ready <;> rfl

/-- To let visits go on in the order of the queue is one run among others. -/
theorem settleFor_run (fuel : Nat) (s : Session) : ∃ ms, settleFor fuel s = s.run ms := by
  induction fuel generalizing s with
  | zero => exact ⟨[], rfl⟩
  | succ fuel ih =>
    rw [settleFor]
    split
    · dsimp only
      split
      · exact ⟨[.event .wake], rfl⟩
      · obtain ⟨ms, hms⟩ := ih (s.apply .wake)
        exact ⟨.event .wake :: ms, hms⟩
    · obtain ⟨ms, hms⟩ := ih s.step
      exact ⟨.turn 0 :: ms, by rw [hms, run_cons, move, turn_zero]⟩

def subject? (s : Session) : Move → Option Nat
  | .turn place => s.ready[place]?
  | .event (.cancel id) => some id
  | .event _ => none

def incidents (s : Session) (m : Move) : List Incident :=
  match s.subject? m with
  | some id =>
    match s.visits.get? id, (s.move m).visits.get? id with
    | some ⟨storeId, .active stage⟩, some v => stage.incidents id storeId v.state
    | _, _ => []
  | none => []

def story (s : Session) : List Move → List Incident
  | [] => []
  | m :: ms => s.incidents m ++ (s.move m).story ms

@[simp] theorem story_append (s : Session) (ms ms' : List Move) :
    s.story (ms ++ ms') = s.story ms ++ (s.run ms).story ms' := by
  induction ms generalizing s with
  | nil => rfl
  | cons m ms ih => simp [story, ih, List.append_assoc]

inductive Course (s : Session) (d : Scripted) (m : Move) : Prop where
  | begins (id : Nat) (storeId : String) (event : m = .event (.begin id storeId))
      (new : s.visits.get? id = none) (backend : (s.move m).backend = .scripted d)
      (visits : (s.move m).visits = s.visits.insert id ⟨storeId, .active .arriving⟩)
      (ready : (s.move m).ready = s.ready ++ [id]) (incidents : s.incidents m = [])
  | goes (place id : Nat) (storeId : String) (stage : Stage) (r : Scripted × Progress)
      (turn : m = .turn place) (next : s.ready[place]? = some id)
      (visit : s.visits.get? id = some ⟨storeId, .active stage⟩)
      (passage : d.Passage id storeId stage r) (backend : (s.move m).backend = .scripted r.1)
      (visits : (s.move m).visits = s.visits.insert id ⟨storeId, r.2.state⟩)
      (ready : (s.move m).ready = s.ready.eraseIdx place)
      (incidents : s.incidents m = stage.incidents id storeId r.2.state)
  | leaves (id : Nat) (storeId : String) (stage : Stage) (event : m = .event (.cancel id))
      (visit : s.visits.get? id = some ⟨storeId, .active stage⟩)
      (backend : (s.move m).backend = .scripted (d.leave id stage))
      (visits : (s.move m).visits = s.visits.insert id ⟨storeId, .cancelled⟩)
      (ready : (s.move m).ready = s.ready)
      (incidents : s.incidents m = stage.incidents id storeId .cancelled)
  | frees (f : Scripted → Scripted × List Nat)
      (event : (m = .event .release ∧ f = Scripted.release) ∨
        (m = .event .wake ∧ f = Scripted.wake))
      (backend : (s.move m).backend = .scripted (f d).1) (visits : (s.move m).visits = s.visits)
      (ready : (s.move m).ready = s.ready ++ (f d).2) (incidents : s.incidents m = [])
  | responds (answers : List (Except Fault Snapshot)) (event : m = .event (.respond answers))
      (backend : (s.move m).backend = .scripted (d.respond answers))
      (visits : (s.move m).visits = s.visits) (ready : (s.move m).ready = s.ready)
      (incidents : s.incidents m = [])
  | idles (release : m ≠ .event .release)
      (backend : (s.move m).backend = .scripted d)
      (visits : (s.move m).visits = s.visits) (ready : (s.move m).ready.Sublist s.ready)
      (stays : ∀ id storeId stage, s.visits.get? id = some ⟨storeId, .active stage⟩ →
        id ∈ s.ready → id ∈ (s.move m).ready)
      (gone : ∀ place id storeId stage, m = .turn place → s.ready[place]? = some id →
        s.visits.get? id ≠ some ⟨storeId, .active stage⟩) (incidents : s.incidents m = [])

theorem mem_eraseIdx_of_ne {ids : List Nat} {place id j : Nat} (h : ids[place]? = some id)
    (hj : j ∈ ids) (hne : j ≠ id) : j ∈ ids.eraseIdx place := by
  obtain ⟨i, hi⟩ := List.getElem?_of_mem hj
  refine List.mem_eraseIdx_iff_getElem?.2 ⟨i, fun he => hne ?_, hi⟩
  subst he
  exact Option.some.inj (hi.symm.trans h)

section Course
variable {s : Session} {d : Scripted}

theorem course_of_same (hb : s.backend = .scripted d) {m : Move} (hm : s.move m = s)
    (hr : m ≠ .event .release)
    (hg : ∀ place id storeId stage, m = .turn place → s.ready[place]? = some id →
      s.visits.get? id ≠ some ⟨storeId, .active stage⟩)
    (hi : s.incidents m = []) : Course s d m :=
  .idles hr (by rw [hm]; exact hb) (by rw [hm]) (by simp only [hm, List.Sublist.refl])
    (fun _ _ _ _ hj => by rwa [hm]) hg hi

theorem course_turn (hb : s.backend = .scripted d) (place : Nat) : Course s d (.turn place) := by
  cases hn : s.ready[place]? with
  | none =>
    have hm : s.move (.turn place) = s := by simp [move, turn, hn]
    exact course_of_same hb hm (by simp) (fun _ _ _ _ hp hj => by cases hp; simp [hn] at hj)
      (by simp [incidents, subject?, hn])
  | some id =>
    have hm : s.move (.turn place) = { s with ready := s.ready.eraseIdx place }.advance id := by
      simp [move, turn, hn]
    by_cases hv : ∃ storeId stage, s.visits.get? id = some ⟨storeId, .active stage⟩
    · obtain ⟨storeId, stage, hv⟩ := hv
      have hadv : s.move (.turn place) = { s with
          ready := s.ready.eraseIdx place
          backend := .scripted (d.advance id stage storeId).1
          visits := s.visits.insert id ⟨storeId, (d.advance id stage storeId).2.state⟩
          entries := s.entries ++ [] } := by
        rw [hm]
        simp only [advance, hv, hb, Backend.advance, Journaled.value_pure, Journaled.entries_pure]
        cases (d.advance id stage storeId).2 <;> rfl
      exact .goes place id storeId stage _ rfl hn hv (d.passage id stage storeId) (by rw [hadv])
        (by rw [hadv]) (by rw [hadv]) (by simp [incidents, subject?, hn, hv, hadv])
    · have hdead : s.move (.turn place) = { s with ready := s.ready.eraseIdx place } := by
        rw [hm, advance]
        split
        next storeId stage h => exact absurd ⟨storeId, stage, h⟩ hv
        next => rfl
      refine .idles (by simp) (by rw [hdead]; exact hb) (by rw [hdead])
        (by rw [hdead]; exact List.eraseIdx_sublist _ _) (fun j storeId stage hj hr => ?_)
        (fun _ j storeId stage hp hj ha => ?_) ?_
      · have hne : j ≠ id := by
          rintro rfl
          exact hv ⟨storeId, stage, hj⟩
        rw [hdead]
        exact mem_eraseIdx_of_ne hn hr hne
      · cases hp
        cases hn.symm.trans hj
        exact hv ⟨storeId, stage, ha⟩
      · simp only [incidents, subject?, hn]
        split
        next storeId stage v h _ => exact absurd ⟨storeId, stage, h⟩ hv
        next => rfl

theorem course_event (hb : s.backend = .scripted d) (e : Event) : Course s d (.event e) := by
  cases e with
  | begin id storeId =>
    cases hv : s.visits.get? id with
    | none =>
      have hm : s.move (.event (.begin id storeId)) =
          { s.setVisit id ⟨storeId, .active .arriving⟩ with ready := s.ready ++ [id] } := by
        simp [move, apply, Table.contains, hv]
      exact .begins id storeId rfl hv (by rw [hm]; exact hb) (by rw [hm]; rfl) (by rw [hm]) rfl
    | some v =>
      have hm : s.move (.event (.begin id storeId)) = s := by
        simp [move, apply, Table.contains, hv]
      exact course_of_same hb hm (by simp) (by simp) rfl
  | cancel id =>
    by_cases hv : ∃ storeId stage, s.visits.get? id = some ⟨storeId, .active stage⟩
    · obtain ⟨storeId, stage, hv⟩ := hv
      have hm : s.move (.event (.cancel id)) = { s with
          backend := .scripted (d.leave id stage)
          visits := s.visits.insert id ⟨storeId, .cancelled⟩ } := by
        simp [move, apply, cancel, hv, hb, Backend.onDouble, setVisit]
      exact .leaves id storeId stage rfl hv (by rw [hm]) (by rw [hm]) (by rw [hm])
        (by simp [incidents, subject?, hv, hm])
    · have hm : s.move (.event (.cancel id)) = s := by
        rw [move, apply, cancel]
        split
        next storeId stage h => exact absurd ⟨storeId, stage, h⟩ hv
        next => rfl
      refine course_of_same hb hm (by simp) (by simp) ?_
      simp only [incidents, subject?]
      split
      next storeId stage v h _ => exact absurd ⟨storeId, stage, h⟩ hv
      next => rfl
  | release =>
    have hm : s.move (.event .release) = { s with
        backend := .scripted d.release.1, ready := s.ready ++ d.release.2 } := by
      simp [move, apply, free, Backend.free, hb]
    exact .frees Scripted.release (.inl ⟨rfl, rfl⟩) (by rw [hm]) (by rw [hm]) (by rw [hm]) rfl
  | wake =>
    have hm : s.move (.event .wake) = { s with
        backend := .scripted d.wake.1, ready := s.ready ++ d.wake.2 } := by
      simp [move, apply, free, Backend.free, hb]
    exact .frees Scripted.wake (.inr ⟨rfl, rfl⟩) (by rw [hm]) (by rw [hm]) (by rw [hm]) rfl
  | respond answers =>
    have hm : s.move (.event (.respond answers)) = { s with
        backend := .scripted (d.respond answers) } := by
      simp [move, apply, Backend.onDouble, hb]
    exact .responds answers rfl (by rw [hm]) (by rw [hm]) (by rw [hm]) rfl

theorem course (hb : s.backend = .scripted d) (m : Move) : Course s d m := by
  cases m with
  | turn place => exact course_turn hb place
  | event e => exact course_event hb e

end Course

end Session

end LiveConfig
