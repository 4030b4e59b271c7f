import LiveConfig.Proofs.Tally
import Mathlib.Data.List.Perm.Basic
set_option autoImplicit false

/-!
The gate of a double. A visit has one place, among those that can go on or where the double makes it
wait. While the gate is closed only the visit that entered first has come past it, and once it is
open every visit can.
-/
namespace LiveConfig

open Incident

namespace Scripted

def waiting (d : Scripted) : List Nat := d.held ++ d.gated ++ d.asleep

theorem Entry.latch {d e : Scripted} {storeId : String} {stage : Stage}
    (h : d.Entry storeId stage e) :
    e.restraint = d.restraint ∧ e.gateOpen = d.gateOpen ∧ e.delayed = d.delayed := by
  cases h <;> exact ⟨rfl, rfl, rfl⟩

theorem Entry.queues {d e : Scripted} {storeId : String} {stage : Stage}
    (h : d.Entry storeId stage e) :
    e.held = d.held ∧ e.gated = d.gated ∧ e.asleep = d.asleep := by
  cases h <;> exact ⟨rfl, rfl, rfl⟩

section Passage
variable {d : Scripted} {id : Nat} {storeId : String} {stage : Stage} {r : Scripted × Progress}

theorem Passage.latch (h : d.Passage id storeId stage r) :
    r.1.restraint = d.restraint ∧ r.1.gateOpen = d.gateOpen ∧ r.1.delayed = d.delayed := by
  cases h with
  | held hold => exact ⟨rfl, rfl, rfl⟩
  | stopped out stops => exact ⟨rfl, rfl, rfl⟩
  | sleeps entry late early => exact entry.latch
  | answered entry => exact entry.latch

/-- A visit that goes on is made to wait in one place at most. -/
theorem Passage.count_waiting (h : d.Passage id storeId stage r) (j : Nat) :
    r.1.waiting.count j ≤ d.waiting.count j + [id].count j := by
  cases h with
  | held hold => simp only [waiting, List.count_append]; omega
  | stopped out stops => simp only [waiting, Scripted.enter, List.count_append]; omega
  | sleeps entry late early =>
    obtain ⟨hh, hg, ha⟩ := entry.queues
    simp only [waiting, hh, hg, ha, List.count_append]
    omega
  | answered entry =>
    obtain ⟨hh, hg, ha⟩ := entry.queues
    simp only [waiting, answer, hh, hg, ha, List.count_append]
    omega

theorem Passage.gated (h : d.Passage id storeId stage r) :
    (r.1.gated = d.gated ∧ r.2.state ≠ .active .passed) ∨
    (stage.inside = 0 ∧ d.Stops ∧ r.1.gated = d.gated ++ [id] ∧ r.2.state = .active .passed) := by
  cases h with
  | held hold => exact .inl ⟨rfl, nofun⟩
  | stopped out stops => exact .inr ⟨out, stops, rfl, rfl⟩
  | sleeps entry late early => exact .inl ⟨entry.queues.2.1, nofun⟩
  | answered entry => exact .inl ⟨entry.queues.2.1, nofun⟩

end Passage

theorem count_leave (d : Scripted) (id : Nat) (stage : Stage) (j : Nat) :
    (d.leave id stage).waiting.count j ≤ d.waiting.count j := by
  have hf : ∀ ids : List Nat, (ids.filter (· ≠ id)).count j ≤ ids.count j :=
    fun ids => List.filter_sublist.count_le j
  have hh := hf d.held
  have hg := hf d.gated
  have ha := hf d.asleep
  cases stage <;> simp only [leave, waiting, List.count_append] <;> omega

theorem count_release (d : Scripted) (j : Nat) :
    d.release.2.count j + d.release.1.waiting.count j = d.waiting.count j := by
  have hh : (d.held.take 1).count j + (d.held.drop 1).count j = d.held.count j := by
    rw [← List.count_append, List.take_append_drop]
  rw [release]
  split <;> simp only [waiting, List.count_append, List.count_nil] <;> omega

theorem release_cases (d : Scripted) :
    d.release = ({ d with gateOpen := true, gated := [] }, d.gated) ∨
    (d.release.1.gateOpen = d.gateOpen ∧ d.release.1.restraint = d.restraint ∧
      d.release.1.gated = d.gated) := by
  cases hr : d.restraint <;> simp [release, hr]

theorem count_wake (d : Scripted) (j : Nat) :
    d.wake.2.count j + d.wake.1.waiting.count j = d.waiting.count j := by
  simp only [wake, waiting, List.count_append, List.count_nil]
  omega

end Scripted

theorem count_eraseIdx_of_getElem? {ids : List Nat} {place id : Nat} (h : ids[place]? = some id)
    (j : Nat) : (ids.eraseIdx place).count j + [id].count j = ids.count j := by
  obtain ⟨hlt, rfl⟩ := List.getElem?_eq_some_iff.1 h
  have hp : (ids[place] :: ids.eraseIdx place).Perm ids := List.getElem_cons_eraseIdx_perm hlt
  rw [← hp.count_eq j]
  simp only [List.count_cons, List.count_nil]
  omega

theorem Incident.eq_of_mem_entered {es : List Incident} {id j : Nat} (h : ∀ e ∈ es, e.visit = id)
    (hj : j ∈ entered es) : j = id := by
  obtain ⟨storeId, hm⟩ := mem_entered.1 hj
  exact h _ (mem_about.1 hm).1

namespace Session

structure Placed (s : Session) (d : Scripted) : Prop where
  once : (s.ready ++ d.waiting).Nodup
  known : ∀ id ∈ s.ready ++ d.waiting, s.visits.get? id ≠ none

namespace Placed
variable {s s' : Session} {d d' : Scripted}

theorem fewer (h : Placed s d)
    (hc : ∀ j, (s'.ready ++ d'.waiting).count j ≤ (s.ready ++ d.waiting).count j)
    (hk : ∀ j, s.visits.get? j ≠ none → s'.visits.get? j ≠ none) : Placed s' d' where
  once := List.nodup_iff_count_le_one.2 fun j =>
    (hc j).trans (List.nodup_iff_count_le_one.1 h.once j)
  known := fun j hj =>
    hk j (h.known j (List.count_pos_iff.1 ((List.count_pos_iff.2 hj).trans_le (hc j))))

theorem move (h : Placed s d) {m : Move} (hc : Course s d m)
    (hb : (s.move m).backend = .scripted d') : Placed (s.move m) d' := by
  have hins : ∀ (id : Nat) (v : Visit) (j : Nat), s.visits.get? j ≠ none →
      (s.visits.insert id v).get? j ≠ none := fun id v j hj => by
    rw [Table.get?_insert]
    split
    · simp
    · exact hj
  cases hc with
  | begins id storeId event new backend visits ready incidents =>
    cases backend.symm.trans hb
    have hnot : id ∉ s.ready ++ d.waiting := fun hm => h.known id hm new
    have hperm : (s.ready ++ [id] ++ d.waiting).Perm (id :: (s.ready ++ d.waiting)) := by
      rw [List.append_assoc, List.singleton_append]
      exact List.perm_middle
    constructor
    · rw [ready]
      exact hperm.nodup_iff.2 (List.nodup_cons.2 ⟨hnot, h.once⟩)
    · intro j hj
      rw [ready] at hj
      rw [visits]
      obtain rfl | hj := List.mem_cons.1 (hperm.mem_iff.1 hj)
      · simp
      · exact hins id _ j (h.known j hj)
  | goes place id storeId stage r turn next visit passage backend visits ready incidents =>
    cases backend.symm.trans hb
    refine h.fewer (fun j => ?_) (visits ▸ hins id _)
    have he := count_eraseIdx_of_getElem? next j
    have hw := passage.count_waiting j
    rw [ready, List.count_append, List.count_append]
    omega
  | leaves id storeId stage event visit backend visits ready incidents =>
    cases backend.symm.trans hb
    refine h.fewer (fun j => ?_) (visits ▸ hins id _)
    have hl := d.count_leave id stage j
    rw [ready, List.count_append, List.count_append]
    omega
  | frees f event backend visits ready incidents =>
    cases backend.symm.trans hb
    refine h.fewer (fun j => ?_) (visits ▸ fun j hj => hj)
    have hf : (f d).2.count j + (f d).1.waiting.count j = d.waiting.count j := by
      obtain ⟨-, rfl⟩ | ⟨-, rfl⟩ := event
      · exact d.count_release j
      · exact d.count_wake j
    rw [ready, List.count_append, List.count_append, List.count_append]
    omega
  | responds answers event backend visits ready incidents =>
    cases backend.symm.trans hb
    exact h.fewer (fun j => by rw [ready]; exact Nat.le_refl _) (visits ▸ fun j hj => hj)
  | idles release backend visits ready stays gone incidents =>
    cases backend.symm.trans hb
    exact h.fewer (fun j => (ready.append_right _).count_le j) (visits ▸ fun j hj => hj)

end Placed

/-- The gate is opened by a release, and stays so. -/
theorem Course.latch {s : Session} {d d' : Scripted} {m : Move} (hc : Course s d m)
    (hb : (s.move m).backend = .scripted d') :
    d'.restraint = d.restraint ∧ d'.delayed = d.delayed ∧
      (d'.gateOpen = true ↔
        d.gateOpen = true ∨ (d.restraint = .gate ∧ m = .event .release)) := by
  cases hc with
  | begins id storeId event new backend visits ready incidents =>
    cases backend.symm.trans hb
    simp [event]
  | goes place id storeId stage r turn next visit passage backend visits ready incidents =>
    cases backend.symm.trans hb
    simp [turn, passage.latch]
  | leaves id storeId stage event visit backend visits ready incidents =>
    cases backend.symm.trans hb
    cases stage <;> simp [event, Scripted.leave]
  | frees f event backend visits ready incidents =>
    cases backend.symm.trans hb
    obtain ⟨rfl, rfl⟩ | ⟨rfl, rfl⟩ := event
    · cases hr : d.restraint <;> simp [Scripted.release, hr]
    · simp [Scripted.wake]
  | responds answers event backend visits ready incidents =>
    cases backend.symm.trans hb
    simp [event, Scripted.respond]
  | idles release backend visits ready stays gone incidents =>
    cases backend.symm.trans hb
    simp [release]

/-- Whom the gate stops, and whom it does not. A visit that it has stopped is still at the gate, or
may go on since the gate is open; the visit that entered first is never stopped, and while the gate
is closed no other has come past it. -/
structure Gated (s : Session) (d : Scripted) (es : List Incident) : Prop where
  free : (d.restraint = .gate → d.gateOpen = true) → d.gated = []
  stopped : ∀ id storeId, s.visits.get? id = some ⟨storeId, .active .passed⟩ →
    id ∈ d.gated ∨ (d.gateOpen = true ∧ id ∈ s.ready)
  late : ∀ id storeId, s.visits.get? id = some ⟨storeId, .active .passed⟩ →
    (entered es).head? ≠ some id
  first : d.restraint = .gate → d.gateOpen = false → ∀ id ∈ entered es,
    (entered es).head? = some id ∨ ∃ storeId,
      s.visits.get? id = some ⟨storeId, .active .passed⟩ ∨
      s.visits.get? id = some ⟨storeId, .cancelled⟩

namespace Gated
variable {s s' : Session} {d d' : Scripted} {es es' : List Incident} {id : Nat}

/-- What one visit does leaves the gate as it is for all others. -/
theorem insert (h : Gated s d es) (ht : Told s es) {v : Visit}
    (hv : s'.visits = s.visits.insert id v) (ho : d'.gateOpen = d.gateOpen)
    (hr : d'.restraint = d.restraint) (hes : ∀ e ∈ es', e.visit = id)
    (hready : ∀ j ∈ s.ready, j ≠ id → j ∈ s'.ready) (hgated : ∀ j ∈ d.gated, j ≠ id → j ∈ d'.gated)
    (hfree : (d.restraint = .gate → d.gateOpen = true) → d'.gated = [])
    (hstop : ∀ t, v = ⟨t, .active .passed⟩ →
      id ∈ d'.gated ∧ (entered (es ++ es')).head? ≠ some id)
    (hfirst : d.restraint = .gate → d.gateOpen = false → id ∈ entered (es ++ es') →
      (entered (es ++ es')).head? = some id ∨
        ∃ t, v = ⟨t, .active .passed⟩ ∨ v = ⟨t, .cancelled⟩) : Gated s' d' (es ++ es') := by
  have hothers : ∀ j, j ≠ id → s'.visits.get? j = s.visits.get? j := fun j hj => by
    rw [hv, Table.get?_insert, if_neg hj]
  have hself : s'.visits.get? id = some v := by rw [hv, Table.get?_insert, if_pos rfl]
  have hhead : ∀ {j}, j ∈ entered es → (entered (es ++ es')).head? = (entered es).head? :=
    fun hj => by rw [entered_append, List.head?_append_of_ne_nil _ (List.ne_nil_of_mem hj)]
  constructor
  · rw [ho, hr]
    exact hfree
  · intro j t hj
    by_cases hid : j = id
    · rw [hid] at hj ⊢
      exact .inl (hstop t (Option.some.inj (hself.symm.trans hj))).1
    · rw [hothers j hid] at hj
      rw [ho]
      exact (h.stopped j t hj).imp (hgated j · hid) (And.imp_right (hready j · hid))
  · intro j t hj
    by_cases hid : j = id
    · rw [hid] at hj ⊢
      exact (hstop t (Option.some.inj (hself.symm.trans hj))).2
    · rw [hothers j hid] at hj
      have hin := (mem_inside.1 (ht.mem_inside_iff.2 ⟨t, .passed, hj, rfl⟩)).1
      rw [hhead hin]
      exact h.late j t hj
  · intro hgate hclosed j hj
    rw [hr] at hgate
    rw [ho] at hclosed
    by_cases hid : j = id
    · rw [hid] at hj ⊢
      rw [hself]
      simpa using hfirst hgate hclosed hj
    · have hin : j ∈ entered es := by
        rw [entered_append, List.mem_append] at hj
        exact hj.resolve_right fun hj => hid (eq_of_mem_entered hes hj)
      rw [hhead hin, hothers j hid]
      exact h.first hgate hclosed j hin

theorem still (h : Gated s d es) (hv : s'.visits = s.visits) (ho : d'.gateOpen = d.gateOpen)
    (hr : d'.restraint = d.restraint) (hg : d'.gated = d.gated)
    (hready : ∀ id storeId stage, s.visits.get? id = some ⟨storeId, .active stage⟩ →
      id ∈ s.ready → id ∈ s'.ready) (hes : es' = []) : Gated s' d' (es ++ es') := by
  rw [hes, List.append_nil]
  constructor
  · rw [ho, hr, hg]
    exact h.free
  · intro id storeId hid
    rw [hv] at hid
    rw [ho, hg]
    exact (h.stopped id storeId hid).imp_right (And.imp_right (hready id storeId _ hid))
  · rw [hv]
    exact h.late
  · rw [hv, hr, ho]
    exact h.first

/-- A release lets all go on that the gate has stopped. -/
theorem opened (h : Gated s d es) (hv : s'.visits = s.visits) (hr : s'.ready = s.ready ++ d.gated)
    (hes : es' = []) : Gated s' { d with gateOpen := true, gated := [] } (es ++ es') := by
  rw [hes, List.append_nil]
  constructor
  · exact fun _ => rfl
  · intro id storeId hid
    rw [hv] at hid
    rw [hr, List.mem_append]
    exact .inr ⟨rfl, (h.stopped id storeId hid).elim .inr fun hgo => .inl hgo.2⟩
  · rw [hv]
    exact h.late
  · exact nofun

section Goes
variable {storeId : String} {stage : Stage} {place : Nat}

theorem late_of_stops (ht : Told s es) (hl : d.Tally es)
    (hv : s.visits.get? id = some ⟨storeId, .active stage⟩) (out : stage.inside = 0)
    (stops : d.Stops) : (entered (es ++ es')).head? ≠ some id := by
  have hcalls : entered es ≠ [] := fun hn => stops.2.2 (hl.calls_eq_nil_iff.2 hn)
  rw [entered_append, List.head?_append_of_ne_nil _ hcalls]
  intro hhead
  obtain ⟨t, hm⟩ := mem_entered.1 (List.mem_of_head? hhead)
  rw [ht.about_outside hv out] at hm
  cases hm

/-- Whoever comes past a closed gate has entered first. -/
theorem first_of_entry (h : Gated s d es) (ht : Told s es) (hl : d.Tally es) (hp : Placed s d)
    (hn : s.ready[place]? = some id) (hv : s.visits.get? id = some ⟨storeId, .active stage⟩)
    (hes : ∀ e ∈ es', e.visit = id) {e : Scripted} (entry : d.Entry storeId stage e)
    (hgate : d.restraint = .gate) (hclosed : d.gateOpen = false)
    (hin : id ∈ entered (es ++ es')) : (entered (es ++ es')).head? = some id := by
  cases entry with
  | outside out free =>
    have hcalls : d.calls = [] := by
      by_contra hc
      exact free ⟨hgate, hclosed, hc⟩
    have hnone : entered es = [] := hl.calls_eq_nil_iff.1 hcalls
    rw [entered_append, hnone, List.nil_append] at hin ⊢
    obtain ⟨j, js, hj⟩ := List.exists_cons_of_ne_nil (List.ne_nil_of_mem hin)
    have hid : j = id := eq_of_mem_entered hes (hj ▸ List.mem_cons_self)
    rw [hj, List.head?_cons, hid]
  | inside within =>
    have hold := (mem_inside.1 (ht.mem_inside_iff.2 ⟨storeId, stage, hv, within⟩)).1
    rw [entered_append, List.head?_append_of_ne_nil _ (List.ne_nil_of_mem hold)]
    obtain hhead | ⟨t, ht | ht⟩ := h.first hgate hclosed id hold
    · exact hhead
    · obtain hgated | ⟨hopen, -⟩ := h.stopped id t ht
      · have hwait : id ∈ d.waiting := by simp [Scripted.waiting, hgated]
        exact absurd rfl ((List.nodup_append.1 hp.once).2.2 id (List.mem_of_getElem? hn) id hwait)
      · rw [hclosed] at hopen
        cases hopen
    · rw [hv] at ht
      cases ht

theorem goes (h : Gated s d es) (ht : Told s es) (hl : d.Tally es) (hp : Placed s d)
    {r : Scripted × Progress} (hn : s.ready[place]? = some id)
    (hv : s.visits.get? id = some ⟨storeId, .active stage⟩) (passage : d.Passage id storeId stage r)
    (hs : s'.visits = s.visits.insert id ⟨storeId, r.2.state⟩)
    (hr : s'.ready = s.ready.eraseIdx place) :
    Gated s' r.1 (es ++ stage.incidents id storeId r.2.state) := by
  have hes := stage.incidents_visit id storeId r.2.state
  refine h.insert ht hs passage.latch.2.1 passage.latch.1 hes
    (fun j hj hne => hr ▸ mem_eraseIdx_of_ne hn hj hne) ?_ ?_ ?_ ?_
  · intro j hj _
    obtain ⟨hg, -⟩ | ⟨-, -, hg, -⟩ := passage.gated
    · rwa [hg]
    · rw [hg]
      exact List.mem_append_left _ hj
  · intro hopen
    obtain ⟨hg, -⟩ | ⟨-, stops, -, -⟩ := passage.gated
    · rw [hg]
      exact h.free hopen
    · have hclosed := stops.2.1
      rw [hopen stops.1] at hclosed
      cases hclosed
  · intro t hpassed
    obtain ⟨-, hne⟩ | ⟨out, stops, hg, -⟩ := passage.gated
    · exact absurd (congrArg Visit.state hpassed) hne
    · exact ⟨by simp [hg], late_of_stops ht hl hv out stops⟩
  · intro hgate hclosed hin
    cases passage with
    | held hold => rw [hold] at hgate; cases hgate
    | stopped out stops => exact .inr ⟨storeId, .inl rfl⟩
    | sleeps entry late early => exact .inl (h.first_of_entry ht hl hp hn hv hes entry hgate hclosed hin)
    | answered entry => exact .inl (h.first_of_entry ht hl hp hn hv hes entry hgate hclosed hin)

end Goes

theorem move (h : Gated s d es) (ht : Told s es) (hl : d.Tally es) (hp : Placed s d) {m : Move}
    (hc : Course s d m) (hb : (s.move m).backend = .scripted d') :
    Gated (s.move m) d' (es ++ s.incidents m) := by
  cases hc with
  | begins id storeId event new backend visits ready incidents =>
    cases backend.symm.trans hb
    rw [incidents]
    refine h.insert ht visits rfl rfl nofun (fun j hj _ => ?_) (fun j hj _ => hj) h.free nofun ?_
    · rw [ready]
      exact List.mem_append_left _ hj
    · intro _ _ hin
      rw [List.append_nil] at hin
      obtain ⟨t, hm⟩ := mem_entered.1 hin
      rw [ht.about_unknown new] at hm
      cases hm
  | goes place id storeId stage r turn next visit passage backend visits ready incidents =>
    cases backend.symm.trans hb
    rw [incidents]
    exact h.goes ht hl hp next visit passage visits ready
  | leaves id storeId stage event visit backend visits ready incidents =>
    cases backend.symm.trans hb
    rw [incidents]
    have hleave : (d.leave id stage).gateOpen = d.gateOpen ∧
        (d.leave id stage).restraint = d.restraint ∧
        ((d.leave id stage).gated = d.gated ∨
          (d.leave id stage).gated = d.gated.filter (· ≠ id)) := by
      cases stage <;> simp [Scripted.leave]
    obtain ⟨hopen, hrestraint, hg⟩ := hleave
    refine h.insert ht visits hopen hrestraint (stage.incidents_visit id storeId .cancelled)
      (fun j hj _ => ready ▸ hj) (fun j hj hne => ?_) (fun ho => ?_) nofun
      (fun _ _ _ => .inr ⟨storeId, .inr rfl⟩)
    · obtain hg | hg := hg <;> rw [hg]
      · exact hj
      · exact List.mem_filter.2 ⟨hj, decide_eq_true hne⟩
    · obtain hg | hg := hg <;> rw [hg, h.free ho]
      rfl
  | frees f event backend visits ready incidents =>
    cases backend.symm.trans hb
    have hready : ∀ j storeId stage, s.visits.get? j = some ⟨storeId, .active stage⟩ →
        j ∈ s.ready → j ∈ (s.move m).ready := fun j _ _ _ hj => by
      rw [ready]
      exact List.mem_append_left _ hj
    obtain ⟨-, rfl⟩ | ⟨-, rfl⟩ := event
    · obtain hopen | ⟨ho, hr, hg⟩ := d.release_cases
      · rw [hopen] at ready ⊢
        exact h.opened visits ready incidents
      · exact h.still visits ho hr hg hready incidents
    · exact h.still visits rfl rfl rfl hready incidents
  | responds answers event backend visits ready incidents =>
    cases backend.symm.trans hb
    exact h.still visits rfl rfl rfl (fun _ _ _ _ hj => ready ▸ hj) incidents
  | idles release backend visits ready stays gone incidents =>
    cases backend.symm.trans hb
    exact h.still visits rfl rfl rfl stays incidents

end Gated

end Session

end LiveConfig
