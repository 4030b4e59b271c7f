import LiveConfig.Traffic
import LiveConfig.Proofs.Landing
import LiveConfig.Proofs.Wiring
set_option autoImplicit false

/-!
What entering comes to, and what becomes of a layer in a run of traffic. As long as nobody wires it,
whoever enters leaves nothing behind but a fault. Once it is wired it stays so, and what is outside
makes no difference any more.
-/
namespace LiveConfig
open Layer

namespace Outside

def settings (o : Outside) : Settings := (Settings.ofEnvironment o.around.environment).value

def offer (o : Outside) (c : Container) : Except Fault Service :=
  match (Service.build o.around o.settings).value with
  | .error f => .error f
  | .ok service =>
    match c.refusal with
    | some f => .error f
    | none => .ok service

def wired (o : Outside) (number : Nat) (service : Service) : Wired :=
  ⟨o.settings, number, .start service o.world o.clock⟩

theorem wire_cases (o : Outside) (l : Layer) (c : Container) :
    (∃ f built, o.offer c = .error f ∧ l.built ≤ built ∧
      (l.wire o.around o.world o.clock c).value = ⟨⟨l.wired, built⟩, c, .error f⟩ ∧
      Unregistered (l.wire o.around o.world o.clock c).entries) ∨
    ∃ service, o.offer c = .ok service ∧
      (l.wire o.around o.world o.clock c).value =
        ⟨⟨some (o.wired l.built service), l.built + 1⟩,
          { c with items := c.items.insert serviceToken (.service l.built) }, .ok ()⟩ ∧
      ∃ before after, (l.wire o.around o.world o.clock c).entries =
          before ++ .said (.registered serviceToken) :: after ∧
        Unregistered before ∧ Unregistered after := by
  obtain ⟨f, built, hf, hw⟩ | ⟨service, hb, hc, hw⟩ := l.wire_cases o.around o.world o.clock c
  · obtain ⟨hb, rfl⟩ | ⟨⟨service, hb⟩, hc, rfl⟩ := hf
    · exact .inl ⟨f, l.built, by simp only [offer, settings, hb], Nat.le_refl _, hw⟩
    · exact .inl ⟨f, l.built + 1, by simp only [offer, settings, hb, hc], Nat.le_succ _, hw⟩
  · exact .inr ⟨service, by simp only [offer, settings, hb, hc], hw⟩

end Outside

section Acts
variable {α : Type}

namespace Act

def registrant? : Act α → Option Nat
  | .noted request entry => if isRegistration entry then some request else none
  | .followed _ | .yielded _ _ => none

def follower? : Act α → Option Nat
  | .followed request => some request
  | .noted _ _ | .yielded _ _ => none

def isOf (request : Nat) : Act α → Bool
  | .noted _ _ => false
  | .followed r | .yielded r _ => request = r

end Act

def registrants (acts : List (Act α)) : List Nat := acts.filterMap Act.registrant?

def followers (acts : List (Act α)) : List Nat := acts.filterMap Act.follower?

def about (request : Nat) (acts : List (Act α)) : List (Act α) := acts.filter (Act.isOf request)

@[simp] theorem registrants_nil : registrants ([] : List (Act α)) = [] := rfl

@[simp] theorem followers_nil : followers ([] : List (Act α)) = [] := rfl

@[simp] theorem registrants_append (acts acts' : List (Act α)) :
    registrants (acts ++ acts') = registrants acts ++ registrants acts' := List.filterMap_append

@[simp] theorem followers_append (acts acts' : List (Act α)) :
    followers (acts ++ acts') = followers acts ++ followers acts' := List.filterMap_append

@[simp] theorem about_append (request : Nat) (acts acts' : List (Act α)) :
    about request (acts ++ acts') = about request acts ++ about request acts' :=
  List.filter_append ..

theorem registrants_noted {notes : List Entry} (h : Unregistered notes) (request : Nat) :
    registrants (notes.map (.noted request) : List (Act α)) = [] := by
  rw [registrants, List.filterMap_eq_nil_iff]
  intro act hact
  obtain ⟨entry, he, rfl⟩ := List.mem_map.1 hact
  simp [Act.registrant?, h entry he]

theorem registrants_registration (request : Nat) (acts : List (Act α)) :
    registrants (.noted request (.said (.registered serviceToken)) :: acts) =
      request :: registrants acts := by
  simp [registrants, Act.registrant?, isRegistration]

@[simp] theorem registrants_followed (request : Nat) (acts : List (Act α)) :
    registrants (.followed request :: acts) = registrants acts := rfl

@[simp] theorem registrants_yielded (request : Nat) (outcome : Except Fault α)
    (acts : List (Act α)) :
    registrants (.yielded request outcome :: acts) = registrants acts := rfl

@[simp] theorem followers_noted (notes : List Entry) (request : Nat) :
    followers (notes.map (.noted request) : List (Act α)) = [] := by
  simp [followers, List.filterMap_map, Act.follower?]

@[simp] theorem followers_followed (request : Nat) (acts : List (Act α)) :
    followers (.followed request :: acts) = request :: followers acts := rfl

@[simp] theorem followers_yielded (request : Nat) (outcome : Except Fault α)
    (acts : List (Act α)) : followers (.yielded request outcome :: acts) = followers acts := rfl

theorem about_noted (notes : List Entry) (r request : Nat) :
    about request (notes.map (.noted r) : List (Act α)) = [] := by
  simp [about, List.filter_map, Act.isOf]

theorem about_followed (r request : Nat) :
    about request [(.followed r : Act α)] = if request = r then [.followed r] else [] := by
  simp [about, List.filter_cons, Act.isOf]

theorem about_yielded (r request : Nat) (outcome : Except Fault α) :
    about request [.yielded r outcome] = if request = r then [.yielded r outcome] else [] := by
  simp [about, List.filter_cons, Act.isOf]

def Passage.acts (request : Nat) : Passage α → List (Act α)
  | .refused f => [.yielded request (.error f)]
  | .inside => [.followed request]
  | .ended outcome => [.followed request, .yielded request outcome]

end Acts

namespace Traffic
variable {α : Type}

@[simp] theorem run_nil (t : Traffic α) : t.run [] = t := rfl

@[simp] theorem run_cons (t : Traffic α) (e : Event α) (es : List (Event α)) :
    t.run (e :: es) = (t.apply e).run es := rfl

@[simp] theorem run_append (t : Traffic α) (es es' : List (Event α)) :
    t.run (es ++ es') = (t.run es).run es' := List.foldl_append

theorem run_keeps {P : Traffic α → Prop} (hP : ∀ t e, P t → P (t.apply e)) {t : Traffic α}
    (h : P t) (es : List (Event α)) : P (t.run es) := by
  induction es generalizing t with
  | nil => exact h
  | cons e es ih => exact ih (hP t e h)

/-- What stays once it holds, holds since one of the events. -/
theorem run_since {P : Traffic α → Prop} (hP : ∀ t e, P t → P (t.apply e)) {t : Traffic α}
    (h : ¬P t) (es : List (Event α)) :
    P (t.run es) ↔ ∃ before e after, es = before ++ e :: after ∧ ¬P (t.run before) ∧
      P ((t.run before).apply e) := by
  constructor
  · intro hrun
    induction es generalizing t with
    | nil => exact absurd hrun h
    | cons e es ih =>
      by_cases he : P (t.apply e)
      · exact ⟨[], e, es, rfl, h, he⟩
      · obtain ⟨before, e', after, rfl, hb, ha⟩ := ih he hrun
        exact ⟨e :: before, e', after, rfl, hb, ha⟩
  · rintro ⟨before, e, after, rfl, -, he⟩
    rw [run_append, run_cons]
    exact run_keeps hP he after

structure Enters (t : Traffic α) (request : Nat) (name : String) (c : Container) : Prop where
  unseen : t.requests.get? request = none
  found : t.containers.get? name = some c

structure Wires (t : Traffic α) (request : Nat) (name : String) (c : Container)
    (service : Service) : Prop extends Enters t request name c where
  unwired : t.layer.wired = none
  offered : t.outside.offer c = .ok service

/-- What entering comes to. A request that finds the layer wired passes on. One that does not, tries
to wire it: it is refused and leaves the layer unwired and all containers as they were, or it wires
the layer, and has registered the service before what follows is called. -/
inductive Entering (t : Traffic α) (request : Nat) (name : String) : Traffic α → Prop where
  | idle (h : ∀ c, ¬t.Enters request name c) : Entering t request name t
  | passes {c : Container} {wired : Wired} (enters : t.Enters request name c)
      (found : t.layer.wired = some wired) :
      Entering t request name
        { t with
          requests := t.requests.insert request .inside
          acts := t.acts ++ [.followed request] }
  | refused {c : Container} {f : Fault} {built : Nat} {notes : List Entry}
      (enters : t.Enters request name c) (unwired : t.layer.wired = none)
      (fails : t.outside.offer c = .error f) (counts : t.layer.built ≤ built)
      (silent : Unregistered notes) :
      Entering t request name
        { t with
          layer := ⟨none, built⟩
          requests := t.requests.insert request (.refused f)
          acts := t.acts ++ notes.map (.noted request) ++ [.yielded request (.error f)] }
  | wires {c : Container} {service : Service} {early late : List Entry}
      (wires : t.Wires request name c service) (before : Unregistered early)
      (after : Unregistered late) :
      Entering t request name
        { t with
          layer := ⟨some (t.outside.wired t.layer.built service), t.layer.built + 1⟩
          containers := t.containers.insert name
            { c with items := c.items.insert serviceToken (.service t.layer.built) }
          requests := t.requests.insert request .inside
          acts := t.acts ++ (early ++ .said (.registered serviceToken) :: late).map
            (.noted request) ++ [.followed request] }

theorem enter_of_enters {t : Traffic α} {request : Nat} {name : String} {c : Container}
    (h : t.Enters request name c) {entered : Journaled Entered}
    (he : t.layer.enter t.outside.around t.outside.world t.outside.clock c = entered) :
    t.enter request name =
      { t with
        layer := entered.value.layer
        containers := t.containers.insert name entered.value.container
        requests := t.requests.insert request
          (match entered.value.outcome with
            | .error f => .refused f
            | .ok () => .inside)
        acts := t.acts ++ entered.entries.map (.noted request) ++
          [match entered.value.outcome with
            | .error f => .yielded request (.error f)
            | .ok () => .followed request] } := by
  rw [enter, h.unseen, h.found]
  simp only [he]
  cases entered.value.outcome <;> rfl

theorem entering (t : Traffic α) (request : Nat) (name : String) :
    Entering t request name (t.enter request name) := by
  by_cases h : ∃ c, t.Enters request name c
  · obtain ⟨c, h⟩ := h
    have hsame : t.containers.insert name c = t.containers := Table.insert_of_get? h.found
    cases hw : t.layer.wired with
    | some wired =>
      rw [enter_of_enters h (enter_of_wired hw _ _ _ c)]
      simpa [hsame] using Entering.passes h hw
    | none =>
      have henter := enter_of_unwired hw t.outside.around t.outside.world t.outside.clock c
      obtain ⟨f, built, hf, hb, hv, hn⟩ | ⟨service, hs, hv, early, late, hn, he, hl⟩ :=
        t.outside.wire_cases t.layer c
      · rw [enter_of_enters h henter, hv, hw]
        simpa [hsame] using Entering.refused h hw hf hb hn
      · rw [enter_of_enters h henter, hv, hn]
        exact .wires ⟨h, hw, hs⟩ he hl
  · have hidle : t.enter request name = t := by
      rw [enter]
      split
      · next c hr hc => exact absurd ⟨c, hr, hc⟩ h
      · rfl
    rw [hidle]
    exact .idle fun c hc => h ⟨c, hc⟩

namespace Event

def move? : Event α → Option Loop.Move
  | .turn => some .turn
  | .happen e => some (.event e)
  | .enter _ _ | .leave _ _ | .change _ | .place _ _ => none

def place? : Event α → Option (String × Container)
  | .place name c => some (name, c)
  | .enter _ _ | .leave _ _ | .change _ | .turn | .happen _ => none

def isInner : Event α → Bool
  | .change _ => false
  | .enter _ _ | .leave _ _ | .place _ _ | .turn | .happen _ => true

end Event

def moves (es : List (Event α)) : List Loop.Move := es.filterMap Event.move?

def placed (containers : Table String Container) (es : List (Event α)) : Table String Container :=
  (es.filterMap Event.place?).foldl (fun cs p => cs.insert p.1 p.2) containers

theorem moves_append (es es' : List (Event α)) : moves (es ++ es') = moves es ++ moves es' :=
  List.filterMap_append

theorem placed_append (containers : Table String Container) (es es' : List (Event α)) :
    placed containers (es ++ es') = placed (placed containers es) es' := by
  rw [placed, List.filterMap_append, List.foldl_append]
  rfl

def under (t : Traffic α) (o : Outside) : Traffic α := { t with outside := o }

/-- What becomes of a wired layer: its settings stay, its service goes on by itself, and nothing is
registered. It is all the same with anything else outside. -/
structure Stays (t : Traffic α) (wired : Wired) (es : List (Event α)) : Prop where
  layer : (t.run es).layer.wired =
    some ⟨wired.settings, wired.number, wired.loop.run (moves es)⟩
  containers : (t.run es).containers = placed t.containers es
  acts : ∃ more, (t.run es).acts = t.acts ++ more ∧ registrants more = []
  anywhere : ∀ o, (t.run es).under o = (t.under o).run (es.filter Event.isInner)

theorem under_apply {t : Traffic α} {wired : Wired} (h : t.layer.wired = some wired) (o : Outside)
    (e : Event α) : (t.apply e).under o = (t.under o).run ([e].filter Event.isInner) := by
  cases e with
  | enter request name =>
    change (t.enter request name).under o = (t.under o).enter request name
    simp only [enter, enter_of_wired h, under]
    split <;> rfl
  | leave request outcome =>
    change (t.leave request outcome).under o = (t.under o).leave request outcome
    simp only [leave, under]
    split <;> rfl
  | _ => rfl

theorem enter_wired_cases {t : Traffic α} {wired : Wired} (h : t.layer.wired = some wired)
    (request : Nat) (name : String) :
    t.enter request name = t ∨ t.enter request name =
      { t with
        requests := t.requests.insert request .inside
        acts := t.acts ++ [.followed request] } := by
  generalize he : t.enter request name = t'
  cases he ▸ t.entering request name with
  | idle => exact .inl rfl
  | passes => exact .inr rfl
  | refused _ hw => cases hw.symm.trans h
  | wires hw => cases hw.unwired.symm.trans h

theorem leave_cases (t : Traffic α) (request : Nat) (outcome : Except Fault α) :
    (t.requests.get? request = some .inside ∧ t.leave request outcome =
      { t with
        requests := t.requests.insert request (.ended outcome)
        acts := t.acts ++ [.yielded request outcome] }) ∨
    t.requests.get? request ≠ some .inside ∧ t.leave request outcome = t := by
  unfold leave
  split
  · next h => exact .inl ⟨h, rfl⟩
  · next h => exact .inr ⟨h, rfl⟩

namespace Stays

theorem one {t : Traffic α} {wired : Wired} (h : t.layer.wired = some wired) (e : Event α) :
    t.Stays wired [e] := by
  have hanywhere := fun o => under_apply h o e
  cases e with
  | enter request name =>
    obtain he | he := enter_wired_cases h request name
    all_goals
      have ha : t.run [.enter request name] = _ := he
    · exact ⟨by rw [ha]; exact h, by rw [ha]; rfl, ⟨[], by simp [ha], rfl⟩, hanywhere⟩
    · exact ⟨by rw [ha]; exact h, by rw [ha]; rfl, ⟨_, by rw [ha], rfl⟩, hanywhere⟩
  | leave request outcome =>
    obtain ⟨-, hl⟩ | ⟨-, hl⟩ := t.leave_cases request outcome
    all_goals
      have ha : t.run [.leave request outcome] = _ := hl
    · exact ⟨by rw [ha]; exact h, by rw [ha]; rfl, ⟨_, by rw [ha], rfl⟩, hanywhere⟩
    · exact ⟨by rw [ha]; exact h, by rw [ha]; rfl, ⟨[], by simp [ha], rfl⟩, hanywhere⟩
  | change outside => exact ⟨h, rfl, ⟨[], (List.append_nil _).symm, rfl⟩, hanywhere⟩
  | place name c => exact ⟨h, rfl, ⟨[], (List.append_nil _).symm, rfl⟩, hanywhere⟩
  | turn =>
    exact ⟨congrArg (Option.map _) h, rfl, ⟨[], (List.append_nil _).symm, rfl⟩, hanywhere⟩
  | happen e =>
    exact ⟨congrArg (Option.map _) h, rfl, ⟨[], (List.append_nil _).symm, rfl⟩, hanywhere⟩

theorem append {t : Traffic α} {wired : Wired} {es es' : List (Event α)} (h : t.Stays wired es)
    (h' : (t.run es).Stays ⟨wired.settings, wired.number, wired.loop.run (moves es)⟩ es') :
    t.Stays wired (es ++ es') := by
  obtain ⟨more, ha, hr⟩ := h.acts
  obtain ⟨more', ha', hr'⟩ := h'.acts
  refine ⟨?_, ?_, ⟨more ++ more', ?_, ?_⟩, fun o => ?_⟩
  · rw [run_append, h'.layer, moves_append, Loop.run_append]
  · rw [run_append, h'.containers, h.containers, placed_append]
  · rw [run_append, ha', ha, List.append_assoc]
  · rw [registrants_append, hr, hr', List.append_nil]
  · rw [run_append, h'.anywhere, h.anywhere, List.filter_append, run_append]

theorem run {t : Traffic α} {wired : Wired} (h : t.layer.wired = some wired)
    (es : List (Event α)) : t.Stays wired es := by
  induction es generalizing t wired with
  | nil => exact ⟨h, rfl, ⟨[], (List.append_nil _).symm, rfl⟩, fun _ => rfl⟩
  | cons e es ih => exact (one h e).append (ih (one h e).layer)

end Stays

theorem apply_wired {t : Traffic α} (h : t.layer.wired ≠ none) (e : Event α) :
    (t.apply e).layer.wired ≠ none := by
  obtain ⟨wired, h⟩ := Option.ne_none_iff_exists'.1 h
  exact Option.ne_none_iff_exists'.2 ⟨_, (Stays.one h e).layer⟩

/-- What becomes of a layer that nobody wires: nothing is registered, nothing is put into a
container, and what follows is called for nobody. -/
structure Fruitless (t : Traffic α) (es : List (Event α)) : Prop where
  containers : (t.run es).containers = placed t.containers es
  registrants : registrants (t.run es).acts = registrants t.acts
  followers : followers (t.run es).acts = followers t.acts

namespace Fruitless

theorem one {t : Traffic α} {e : Event α} (h : (t.apply e).layer.wired = none) :
    t.Fruitless [e] := by
  cases e with
  | enter request name =>
    have hs : (t.enter request name).containers = t.containers ∧
        LiveConfig.registrants (t.enter request name).acts = LiveConfig.registrants t.acts ∧
        LiveConfig.followers (t.enter request name).acts = LiveConfig.followers t.acts := by
      have he := t.entering request name
      rw [apply] at h
      generalize t.enter request name = t' at h he ⊢
      cases he with
      | idle => exact ⟨rfl, rfl, rfl⟩
      | passes _ found => cases h.symm.trans found
      | refused _ _ _ _ silent =>
        exact ⟨rfl, by simp [registrants_noted silent], by simp⟩
      | wires => cases h
    exact ⟨hs.1, hs.2.1, hs.2.2⟩
  | leave request outcome =>
    obtain ⟨-, hl⟩ | ⟨-, hl⟩ := t.leave_cases request outcome
    all_goals
      have ha : t.run [.leave request outcome] = _ := hl
    · exact ⟨by rw [ha]; rfl, by simp [ha], by simp [ha]⟩
    · exact ⟨by rw [ha]; rfl, by rw [ha], by rw [ha]⟩
  | _ => exact ⟨rfl, rfl, rfl⟩

theorem append {t : Traffic α} {es es' : List (Event α)} (h : t.Fruitless es)
    (h' : (t.run es).Fruitless es') : t.Fruitless (es ++ es') := by
  refine ⟨?_, ?_, ?_⟩
  · rw [run_append, h'.containers, h.containers, placed_append]
  · rw [run_append, h'.registrants, h.registrants]
  · rw [run_append, h'.followers, h.followers]

theorem run {t : Traffic α} {es : List (Event α)} (h : (t.run es).layer.wired = none) :
    t.Fruitless es := by
  induction es generalizing t with
  | nil => exact ⟨rfl, rfl, rfl⟩
  | cons e es ih =>
    -- A layer that is wired on the way is wired at the end.
    have he : (t.apply e).layer.wired = none := by
      cases he : (t.apply e).layer.wired with
      | none => rfl
      | some wired => cases h.symm.trans (Stays.run he es).layer
    exact (one he).append (ih h)

end Fruitless

/-- Only a request that enters can wire a layer. -/
theorem wired_by {t : Traffic α} (hw : t.layer.wired = none) {e : Event α}
    (h : (t.apply e).layer.wired ≠ none) :
    ∃ request name c service early late, e = .enter request name ∧
      t.Wires request name c service ∧ Unregistered early ∧ Unregistered late ∧
      t.enter request name =
        { t with
          layer := ⟨some (t.outside.wired t.layer.built service), t.layer.built + 1⟩
          containers := t.containers.insert name
            { c with items := c.items.insert serviceToken (.service t.layer.built) }
          requests := t.requests.insert request .inside
          acts := t.acts ++ (early ++ .said (.registered serviceToken) :: late).map
            (.noted request) ++ [.followed request] } := by
  cases e with
  | enter request name =>
    have he := t.entering request name
    rw [apply] at h
    generalize ht : t.enter request name = t' at h he
    cases he with
    | idle => exact absurd hw h
    | passes _ found => cases hw.symm.trans found
    | refused => exact absurd rfl h
    | wires wires before after => exact ⟨_, _, _, _, _, _, rfl, wires, before, after, ht⟩
  | leave request outcome =>
    obtain ⟨-, hl⟩ | ⟨-, hl⟩ := t.leave_cases request outcome
    all_goals
      rw [apply, hl] at h
      exact absurd hw h
  | change outside => exact absurd hw h
  | place name c => exact absurd hw h
  | turn => exact absurd (congrArg (Option.map _) hw) h
  | happen e => exact absurd (congrArg (Option.map _) hw) h

end Traffic

end LiveConfig
