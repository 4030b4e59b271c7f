import LiveConfig.Proofs.Visiting
import Mathlib.Data.List.Infix
import Mathlib.Data.List.Nodup
set_option autoImplicit false

/-!
What a double counts is what the story of its visits tells. The story tells of a visit no more than
its state shows: that it has entered, and how it has left.
-/
namespace LiveConfig

namespace Incident

def visit : Incident → Nat
  | .enters id _ | .answered id _ | .quits id => id

def entrance? : Incident → Option (Nat × String)
  | .enters id storeId => some (id, storeId)
  | .answered _ _ | .quits _ => none

def departure? : Incident → Option Nat
  | .enters _ _ => none
  | .answered id _ | .quits id => some id

def outcome? : Incident → Option (Nat × Except Fault Snapshot)
  | .answered id outcome => some (id, outcome)
  | .enters _ _ | .quits _ => none

def entrances (es : List Incident) : List (Nat × String) := es.filterMap entrance?

def entered (es : List Incident) : List Nat := (entrances es).map Prod.fst

def departures (es : List Incident) : List Nat := es.filterMap departure?

def outcomes (es : List Incident) : List (Nat × Except Fault Snapshot) := es.filterMap outcome?

def inside (es : List Incident) : List Nat := (entered es).filter (· ∉ departures es)

def about (es : List Incident) (id : Nat) : List Incident := es.filter (·.visit = id)

@[simp] theorem entrances_append (es es' : List Incident) :
    entrances (es ++ es') = entrances es ++ entrances es' := List.filterMap_append

@[simp] theorem entered_append (es es' : List Incident) :
    entered (es ++ es') = entered es ++ entered es' := by simp [entered]

@[simp] theorem departures_append (es es' : List Incident) :
    departures (es ++ es') = departures es ++ departures es' := List.filterMap_append

@[simp] theorem outcomes_append (es es' : List Incident) :
    outcomes (es ++ es') = outcomes es ++ outcomes es' := List.filterMap_append

theorem about_append (es es' : List Incident) (id : Nat) :
    about (es ++ es') id = about es id ++ about es' id := List.filter_append ..

theorem about_of_forall {es : List Incident} {id : Nat} (h : ∀ e ∈ es, e.visit = id) :
    about es id = es := List.filter_eq_self.2 fun e he => decide_eq_true (h e he)

theorem about_of_ne {es : List Incident} {id j : Nat} (h : ∀ e ∈ es, e.visit = id) (hj : j ≠ id) :
    about es j = [] :=
  List.filter_eq_nil_iff.2 fun e he hv => hj ((of_decide_eq_true hv).symm.trans (h e he))

theorem mem_about {es : List Incident} {id : Nat} {e : Incident} :
    e ∈ about es id ↔ e ∈ es ∧ e.visit = id := by simp [about]

theorem mem_entered {es : List Incident} {id : Nat} :
    id ∈ entered es ↔ ∃ storeId, .enters id storeId ∈ about es id := by
  simp only [entered, entrances, List.mem_map, List.mem_filterMap, mem_about]
  constructor
  · rintro ⟨p, ⟨e, he, h⟩, rfl⟩
    cases e <;> cases h
    exact ⟨_, he, rfl⟩
  · rintro ⟨storeId, he, -⟩
    exact ⟨(id, storeId), ⟨_, he, rfl⟩, rfl⟩

theorem mem_departures {es : List Incident} {id : Nat} :
    id ∈ departures es ↔
      (∃ outcome, .answered id outcome ∈ about es id) ∨ .quits id ∈ about es id := by
  simp only [departures, List.mem_filterMap, mem_about]
  constructor
  · rintro ⟨e, he, h⟩
    cases e <;> cases h
    · exact .inl ⟨_, he, rfl⟩
    · exact .inr ⟨he, rfl⟩
  · rintro (⟨outcome, he, -⟩ | ⟨he, -⟩)
    · exact ⟨_, he, rfl⟩
    · exact ⟨_, he, rfl⟩

theorem mem_outcomes {es : List Incident} {id : Nat} {outcome : Except Fault Snapshot} :
    (id, outcome) ∈ outcomes es ↔ .answered id outcome ∈ about es id := by
  simp only [outcomes, List.mem_filterMap, mem_about]
  constructor
  · rintro ⟨e, he, h⟩
    cases e <;> cases h
    exact ⟨he, rfl⟩
  · rintro ⟨he, -⟩
    exact ⟨_, he, rfl⟩

theorem count_entered (es : List Incident) (id : Nat) :
    (entered es).count id = (about es id).countP (·.entrance?.isSome) := by
  rw [entered, entrances, List.map_filterMap, List.count_filterMap, about, List.countP_filter]
  refine List.countP_congr fun e _ => ?_
  cases e with
  | enters j storeId => by_cases hj : j = id <;> simp [entrance?, visit, hj]
  | _ => simp [entrance?]

theorem mem_inside {es : List Incident} {id : Nat} :
    id ∈ inside es ↔ id ∈ entered es ∧ id ∉ departures es := by simp [inside]

theorem inside_enters {es : List Incident} {id : Nat} (h : id ∉ departures es) (storeId : String) :
    inside (es ++ [.enters id storeId]) = inside es ++ [id] := by
  have hd : departures [.enters id storeId] = [] := rfl
  simp [inside, hd, h, entered, entrances, entrance?]

/-- One that was inside and leaves is counted no more. -/
theorem inside_departs {es : List Incident} {e : Incident} {id : Nat} (hn : (entered es).Nodup)
    (hin : id ∈ inside es) (he : e.departure? = some id) (hout : e.entrance? = none) :
    (inside (es ++ [e])).length + 1 = (inside es).length := by
  have hd : departures [e] = [id] := by simp [departures, he]
  have hs : entered [e] = [] := by simp [entered, entrances, hout]
  have hi : inside (es ++ [e]) = (inside es).erase id := by
    rw [inside, inside, (hn.filter _).erase_eq_filter]
    simp only [ entered_append, departures_append, hd, hs, List.append_nil,
      List.filter_filter]
    refine List.filter_congr fun j _ => ?_
    by_cases hj : j = id <;> simp [hj]
  rw [hi, List.length_erase_of_mem hin]
  have := List.length_pos_of_mem hin
  omega

end Incident

open Incident

/-- What is told of a visit in this state. -/
inductive Telling (id : Nat) : Option Visit → List Incident → Prop where
  | unknown : Telling id none []
  | outside {storeId : String} {stage : Stage} (out : stage.inside = 0) :
    Telling id (some ⟨storeId, .active stage⟩) []
  | inside {storeId : String} {stage : Stage} (within : stage.inside = 1) :
    Telling id (some ⟨storeId, .active stage⟩) [.enters id storeId]
  | answered {storeId : String} {outcome : Except Fault Snapshot} :
    Telling id (some ⟨storeId, .ended outcome⟩) [.enters id storeId, .answered id outcome]
  | kept {storeId : String} : Telling id (some ⟨storeId, .cancelled⟩) []
  | quit {storeId : String} :
    Telling id (some ⟨storeId, .cancelled⟩) [.enters id storeId, .quits id]

theorem Stage.inside_eq (stage : Stage) : stage.inside = 0 ∨ stage.inside = 1 := by
  cases stage <;> simp [inside]

theorem Stage.inside_le_one (stage : Stage) : stage.inside ≤ 1 := by
  obtain h | h := stage.inside_eq <;> omega

theorem Stage.incidents_visit (stage : Stage) (id : Nat) (storeId : String) (state : VisitState) :
    ∀ e ∈ stage.incidents id storeId state, e.visit = id := by
  intro e he
  cases state <;> simp only [incidents] at he <;> split at he <;> simp at he
  all_goals rcases he with rfl | rfl
  all_goals rfl

namespace Telling
variable {id : Nat} {v : Option Visit} {es : List Incident}

theorem count_le_one (h : Telling id v es) : es.countP (·.entrance?.isSome) ≤ 1 := by
  cases h <;> simp [entrance?]

theorem inside_iff (h : Telling id v es) :
    ((∃ storeId, .enters id storeId ∈ es) ∧
      ¬((∃ outcome, .answered id outcome ∈ es) ∨ .quits id ∈ es)) ↔
      ∃ storeId stage, v = some ⟨storeId, .active stage⟩ ∧ stage.inside = 1 := by
  cases h <;> simp_all

theorem answered_iff (h : Telling id v es) {outcome : Except Fault Snapshot} :
    .answered id outcome ∈ es ↔ ∃ storeId, v = some ⟨storeId, .ended outcome⟩ := by
  cases h <;> simp [eq_comm]

theorem enters_of_answered (h : Telling id v es) {outcome : Except Fault Snapshot}
    (ho : .answered id outcome ∈ es) : ∃ storeId, .enters id storeId ∈ es := by
  cases h <;> simp_all

theorem eq_nil_of_unknown (h : Telling id none es) : es = [] := by
  cases h
  rfl

theorem eq_nil_of_outside {storeId : String} {stage : Stage}
    (h : Telling id (some ⟨storeId, .active stage⟩) es) (out : stage.inside = 0) : es = [] := by
  cases h with
  | outside => rfl
  | inside within => omega

/-- What a visit goes through adds to what is told of it. -/
theorem shift {storeId : String} {stage : Stage} {state : VisitState}
    (h : Telling id (some ⟨storeId, .active stage⟩) es)
    (hstay : ∀ next, state = .active next → stage.inside ≤ next.inside) :
    Telling id (some ⟨storeId, state⟩) (es ++ stage.incidents id storeId state) := by
  cases h with
  | outside out =>
    cases state with
    | active next =>
      obtain hn | hn := next.inside_eq
      · simpa [Stage.incidents, out, hn] using .outside hn
      · simpa [Stage.incidents, out, hn] using .inside hn
    | ended outcome => simpa [Stage.incidents, out] using .answered
    | cancelled => simpa [Stage.incidents, out] using .kept
  | inside within =>
    cases state with
    | active next =>
      have hn : next.inside = 1 := next.inside_eq.resolve_left (by have := hstay next rfl; omega)
      simpa [Stage.incidents, within, hn] using .inside hn
    | ended outcome => simpa [Stage.incidents, within] using .answered
    | cancelled => simpa [Stage.incidents, within] using .quit

end Telling

theorem Scripted.Passage.stays {d : Scripted} {id : Nat} {storeId : String} {stage : Stage}
    {r : Scripted × Progress} (h : d.Passage id storeId stage r) {next : Stage}
    (hn : r.2.state = .active next) : stage.inside ≤ next.inside := by
  cases h with
  | held hold => exact Nat.zero_le _
  | stopped out stops => rw [out]; exact Nat.zero_le _
  | sleeps entry late early =>
    cases hn
    exact stage.inside_le_one
  | answered entry => cases hn

namespace Session

def Told (s : Session) (es : List Incident) : Prop :=
  ∀ id, Telling id (s.visits.get? id) (about es id)

namespace Told
variable {s s' : Session} {es : List Incident}

theorem once (h : Told s es) : (entered es).Nodup := by
  refine List.nodup_iff_count_le_one.2 fun id => ?_
  rw [count_entered]
  exact (h id).count_le_one

theorem mem_inside_iff (h : Told s es) {id : Nat} :
    id ∈ inside es ↔
      ∃ storeId stage, s.visits.get? id = some ⟨storeId, .active stage⟩ ∧ stage.inside = 1 := by
  rw [mem_inside, mem_entered, mem_departures]
  exact (h id).inside_iff

theorem mem_outcomes_iff (h : Told s es) {id : Nat} {outcome : Except Fault Snapshot} :
    (id, outcome) ∈ outcomes es ↔ ∃ storeId, s.visits.get? id = some ⟨storeId, .ended outcome⟩ :=
  mem_outcomes.trans (h id).answered_iff

theorem mem_entered_of_mem_outcomes (h : Told s es) {id : Nat} {outcome : Except Fault Snapshot}
    (ho : (id, outcome) ∈ outcomes es) : id ∈ entered es :=
  mem_entered.2 ((h id).enters_of_answered (mem_outcomes.1 ho))

/-- Nothing is told yet of a visit that is still outside. -/
theorem about_outside (h : Told s es) {id : Nat} {storeId : String} {stage : Stage}
    (hv : s.visits.get? id = some ⟨storeId, .active stage⟩) (out : stage.inside = 0) :
    about es id = [] := (hv ▸ h id : Telling id (some _) _).eq_nil_of_outside out

theorem about_unknown (h : Told s es) {id : Nat} (hv : s.visits.get? id = none) :
    about es id = [] := (hv ▸ h id : Telling id none _).eq_nil_of_unknown

theorem same (h : Told s es) (hv : s'.visits = s.visits) {es' : List Incident} (he : es' = []) :
    Told s' (es ++ es') := by
  rw [he, List.append_nil, Told, hv]
  exact h

theorem shift (h : Told s es) {id : Nat} {storeId : String} {stage : Stage} {state : VisitState}
    (hv : s.visits.get? id = some ⟨storeId, .active stage⟩)
    (hstay : ∀ next, state = .active next → stage.inside ≤ next.inside)
    (hs : s'.visits = s.visits.insert id ⟨storeId, state⟩) :
    Told s' (es ++ stage.incidents id storeId state) := by
  have hvisit := stage.incidents_visit id storeId state
  intro j
  rw [hs, Table.get?_insert, about_append]
  by_cases hj : j = id
  · rw [if_pos hj, hj, about_of_forall hvisit]
    exact Telling.shift (hv ▸ h id) hstay
  · rw [if_neg hj, about_of_ne hvisit hj, List.append_nil]
    exact h j

theorem move (h : Told s es) {d : Scripted} {m : Move} (hc : Course s d m) :
    Told (s.move m) (es ++ s.incidents m) := by
  cases hc with
  | begins id storeId event new backend visits ready incidents =>
    rw [incidents, List.append_nil]
    intro j
    rw [visits, Table.get?_insert]
    by_cases hj : j = id
    · rw [if_pos hj, hj, h.about_unknown new]
      exact .outside rfl
    · rw [if_neg hj]
      exact h j
  | goes place id storeId stage r turn next visit passage backend visits ready incidents =>
    rw [incidents]
    exact h.shift visit (fun _ hn => passage.stays hn) visits
  | leaves id storeId stage event visit backend visits ready incidents =>
    rw [incidents]
    exact h.shift visit nofun visits
  | frees f event backend visits ready incidents => exact h.same visits incidents
  | responds answers event backend visits ready incidents => exact h.same visits incidents
  | idles release backend visits ready stays gone incidents => exact h.same visits incidents

end Told

end Session

/-- The counts of a double are those of a story. Calls stand in the order in which visits have
entered, and the highest count is that of some moment. -/
structure Scripted.Tally (d : Scripted) (es : List Incident) : Prop where
  calls : d.calls = (entrances es).map Prod.snd
  inFlight : d.inFlight = (inside es).length
  below : ∀ es', es' <+: es → (inside es').length ≤ d.maxInFlight
  reached : ∃ es', es' <+: es ∧ (inside es').length = d.maxInFlight

namespace Scripted.Tally
variable {d d' : Scripted} {es : List Incident}

theorem congr (h : d.Tally es) (hc : d'.calls = d.calls) (hi : d'.inFlight = d.inFlight)
    (hm : d'.maxInFlight = d.maxInFlight) : d'.Tally es :=
  ⟨hc ▸ h.calls, hi ▸ h.inFlight, hm ▸ h.below, hm ▸ h.reached⟩

theorem calls_eq_nil_iff (h : d.Tally es) : d.calls = [] ↔ entered es = [] := by
  rw [h.calls, entered, List.map_eq_nil_iff, List.map_eq_nil_iff]

theorem enter (h : d.Tally es) {id : Nat} (hid : about es id = []) (storeId : String) :
    (d.enter storeId).Tally (es ++ [.enters id storeId]) := by
  have hin : inside (es ++ [.enters id storeId]) = inside es ++ [id] :=
    inside_enters (by simp [mem_departures, hid]) storeId
  have hlen : (inside (es ++ [.enters id storeId])).length = d.inFlight + 1 := by
    rw [hin, List.length_append, h.inFlight, List.length_singleton]
  constructor
  · simp [Scripted.enter, h.calls, entrances, entrance?]
  · exact hlen.symm
  · intro es' hp
    obtain rfl | hp := List.prefix_concat_iff.1 hp
    · rw [hlen]
      exact Nat.le_max_right ..
    · exact (h.below es' hp).trans (Nat.le_max_left ..)
  · obtain ⟨es', hp, he⟩ := h.reached
    obtain hle | hlt := Nat.le_total (d.inFlight + 1) d.maxInFlight
    · exact ⟨es', hp.trans (List.prefix_append ..), he.trans (Nat.max_eq_left hle).symm⟩
    · exact ⟨_, List.prefix_rfl, hlen.trans (Nat.max_eq_right hlt).symm⟩

theorem depart (h : d.Tally es) (hn : (entered es).Nodup) {e : Incident} {id : Nat}
    (hin : id ∈ inside es) (he : e.departure? = some id) (hout : e.entrance? = none)
    (hc : d'.calls = d.calls) (hi : d'.inFlight = d.inFlight - 1)
    (hm : d'.maxInFlight = d.maxInFlight) : d'.Tally (es ++ [e]) := by
  have hlen := inside_departs hn hin he hout
  have hfew := h.below es List.prefix_rfl
  constructor
  · simp [hc, h.calls, entrances, hout]
  · rw [hi, h.inFlight]
    omega
  · intro es' hp
    rw [hm]
    obtain rfl | hp := List.prefix_concat_iff.1 hp
    · omega
    · exact h.below es' hp
  · obtain ⟨es', hp, he⟩ := h.reached
    exact ⟨es', hp.trans (List.prefix_append ..), hm ▸ he⟩

end Scripted.Tally

theorem Stage.incidents_within (stage : Stage) (id : Nat) (storeId : String) {next : Stage}
    (hn : next.inside = 1) : stage.incidents id storeId (.active next) =
      if stage.inside = 0 then [.enters id storeId] else [] := by
  obtain hs | hs := stage.inside_eq <;> simp [incidents, hn, hs]

/-- An answered visit has come in, now or before, and leaves. -/
theorem Stage.incidents_ended (stage : Stage) (id : Nat) (storeId : String)
    (outcome : Except Fault Snapshot) : stage.incidents id storeId (.ended outcome) =
      stage.incidents id storeId (.active .rested) ++ [.answered id outcome] := by
  rw [incidents_within stage id storeId rfl]
  rfl

namespace Session.Told
variable {s : Session} {d d' : Scripted} {es : List Incident} {id : Nat} {storeId : String}
  {stage : Stage}

theorem enter_tally (ht : s.Told es) (h : d.Tally es)
    (hv : s.visits.get? id = some ⟨storeId, .active stage⟩) (out : stage.inside = 0)
    {next : Stage} (hn : next.inside = 1) :
    (d.enter storeId).Tally (es ++ stage.incidents id storeId (.active next)) := by
  rw [stage.incidents_within id storeId hn, if_pos out]
  exact h.enter (ht.about_outside hv out) storeId

theorem entry_tally (ht : s.Told es) (h : d.Tally es)
    (hv : s.visits.get? id = some ⟨storeId, .active stage⟩) {e : Scripted}
    (entry : d.Entry storeId stage e) {next : Stage} (hn : next.inside = 1) :
    e.Tally (es ++ stage.incidents id storeId (.active next)) := by
  cases entry with
  | outside out free => exact ht.enter_tally h hv out hn
  | inside within =>
    rw [stage.incidents_within id storeId hn, if_neg (by omega), List.append_nil]
    exact h

theorem answer_tally (ht : s.Told es) (h : d.Tally es)
    (hv : s.visits.get? id = some ⟨storeId, .active stage⟩) {e : Scripted}
    (entry : d.Entry storeId stage e) :
    e.answer.1.Tally (es ++ stage.incidents id storeId e.answer.2.state) := by
  have hin : (s.setVisit id ⟨storeId, .active .rested⟩).Told
      (es ++ stage.incidents id storeId (.active .rested)) :=
    ht.shift hv (fun _ hn => by cases hn; exact stage.inside_le_one) rfl
  have hmem : id ∈ inside (es ++ stage.incidents id storeId (.active .rested)) :=
    hin.mem_inside_iff.2 ⟨storeId, .rested, by simp [setVisit], rfl⟩
  rw [Scripted.answer, Progress.state, Stage.incidents_ended, ← List.append_assoc]
  exact (ht.entry_tally h hv entry rfl).depart hin.once hmem rfl rfl rfl rfl rfl

theorem leave_tally (ht : s.Told es) (h : d.Tally es)
    (hv : s.visits.get? id = some ⟨storeId, .active stage⟩) :
    (d.leave id stage).Tally (es ++ stage.incidents id storeId .cancelled) := by
  obtain out | within := stage.inside_eq
  · have hi : stage.incidents id storeId .cancelled = [] := by simp [Stage.incidents, out]
    rw [hi, List.append_nil]
    cases stage <;> first | exact h.congr rfl rfl rfl | cases out
  · have hi : stage.incidents id storeId .cancelled = [.quits id] := by
      simp [Stage.incidents, within]
    rw [hi]
    have hmem : id ∈ inside es := ht.mem_inside_iff.2 ⟨storeId, stage, hv, within⟩
    cases stage <;> first | exact h.depart ht.once hmem rfl rfl rfl rfl rfl | cases within

/-- A move keeps the counts what the story tells. -/
theorem tally (ht : s.Told es) (h : d.Tally es) {m : Move} (hc : Course s d m)
    (hb : (s.move m).backend = .scripted d') : d'.Tally (es ++ s.incidents m) := by
  cases hc with
  | begins id storeId event new backend visits ready incidents =>
    cases backend.symm.trans hb
    rw [incidents, List.append_nil]
    exact h
  | goes place id storeId stage r turn next visit passage backend visits ready incidents =>
    cases backend.symm.trans hb
    rw [incidents]
    cases passage with
    | held hold =>
      have hi : Stage.arriving.incidents id storeId (.active .admitted) = [] := rfl
      rw [Progress.state, hi, List.append_nil]
      exact h.congr rfl rfl rfl
    | stopped out stops => exact (ht.enter_tally h visit out rfl).congr rfl rfl rfl
    | sleeps entry late early => exact (ht.entry_tally h visit entry rfl).congr rfl rfl rfl
    | answered entry => exact ht.answer_tally h visit entry
  | leaves id storeId stage event visit backend visits ready incidents =>
    cases backend.symm.trans hb
    rw [incidents]
    exact ht.leave_tally h visit
  | frees f event backend visits ready incidents =>
    cases backend.symm.trans hb
    rw [incidents, List.append_nil]
    obtain ⟨-, rfl⟩ | ⟨-, rfl⟩ := event
    · obtain ⟨hcalls, hin, hmax⟩ := Loop.Still.release d
      exact h.congr hcalls hin hmax
    · exact h.congr rfl rfl rfl
  | responds answers event backend visits ready incidents =>
    cases backend.symm.trans hb
    rw [incidents, List.append_nil]
    exact h.congr rfl rfl rfl
  | idles release backend visits ready stays gone incidents =>
    cases backend.symm.trans hb
    rw [incidents, List.append_nil]
    exact h

end Session.Told

end LiveConfig
