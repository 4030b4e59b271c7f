import LiveConfig.Proofs.Entering
set_option autoImplicit false

/-!
The requests in a run of traffic. The first for which wiring succeeds wires the layer, and no other
does. Whoever gets through is followed once, and yields what follows it yields; whoever fails before
yields that fault, and is not followed.
-/
namespace LiveConfig.Traffic
open Layer

variable {α : Type}

def Passes (t : Traffic α) (c : Container) : Prop :=
  t.layer.wired ≠ none ∨ ∃ service, t.outside.offer c = .ok service

inductive Motion (t : Traffic α) (request : Nat) (e : Event α) : Prop where
  | rests (now : (t.apply e).requests.get? request = t.requests.get? request)
      (acts : about request (t.apply e).acts = about request t.acts)
  | refused (name : String) (c : Container) (f : Fault) (event : e = .enter request name)
      (enters : t.Enters request name c) (unwired : t.layer.wired = none)
      (fails : t.outside.offer c = .error f)
      (now : (t.apply e).requests.get? request = some (.refused f))
      (acts : about request (t.apply e).acts =
        about request t.acts ++ [.yielded request (.error f)])
  | passes (name : String) (c : Container) (event : e = .enter request name)
      (enters : t.Enters request name c) (passes : t.Passes c)
      (now : (t.apply e).requests.get? request = some .inside)
      (acts : about request (t.apply e).acts = about request t.acts ++ [.followed request])
  | ends (outcome : Except Fault α) (event : e = .leave request outcome)
      (inside : t.requests.get? request = some .inside)
      (now : (t.apply e).requests.get? request = some (.ended outcome))
      (acts : about request (t.apply e).acts =
        about request t.acts ++ [.yielded request outcome])

theorem enter_self (t : Traffic α) (request : Nat) (name : String) :
    t.Motion request (.enter request name) := by
  have ha : t.apply (.enter request name) = t.enter request name := rfl
  have he := t.entering request name
  generalize t.enter request name = t' at ha he
  cases he with
  | idle => exact .rests (by rw [ha]) (by rw [ha])
  | passes enters found =>
    exact .passes name _ rfl enters (.inl (by simp [found])) (by simp [ha])
      (by simp [ha, about_followed])
  | refused enters unwired fails =>
    refine .refused name _ _ rfl enters unwired fails (by simp [ha]) ?_
    rw [ha, about_append, about_append, about_noted, List.append_nil, about_yielded, if_pos rfl]
  | wires wires =>
    refine .passes name _ rfl wires.toEnters (.inr ⟨_, wires.offered⟩) (by simp [ha]) ?_
    rw [ha, about_append, about_append, about_noted, List.append_nil, about_followed, if_pos rfl]

theorem enter_other (t : Traffic α) {r request : Nat} (hr : request ≠ r) (name : String) :
    t.Motion request (.enter r name) := by
  have ha : t.apply (.enter r name) = t.enter r name := rfl
  have he := t.entering r name
  generalize t.enter r name = t' at ha he
  cases he with
  | idle => exact .rests (by rw [ha]) (by rw [ha])
  | passes => exact .rests (by simp [ha, hr]) (by simp [ha, about_followed, hr])
  | refused =>
    refine .rests (by simp [ha, hr]) ?_
    rw [ha, about_append, about_append, about_noted, List.append_nil, about_yielded, if_neg hr,
      List.append_nil]
  | wires =>
    refine .rests (by simp [ha, hr]) ?_
    rw [ha, about_append, about_append, about_noted, List.append_nil, about_followed, if_neg hr,
      List.append_nil]

theorem motion (t : Traffic α) (request : Nat) (e : Event α) : t.Motion request e := by
  cases e with
  | enter r name =>
    by_cases hr : request = r
    · exact hr ▸ t.enter_self request name
    · exact t.enter_other hr name
  | leave r outcome =>
    have ha : t.apply (.leave r outcome) = t.leave r outcome := rfl
    obtain ⟨hi, hl⟩ | ⟨-, hl⟩ := t.leave_cases r outcome
    · by_cases hr : request = r
      · subst hr
        exact .ends outcome rfl hi (by simp [ha, hl]) (by simp [ha, hl, about_yielded])
      · exact .rests (by simp [ha, hl, hr]) (by simp [ha, hl, about_yielded, hr])
    · exact .rests (by rw [ha, hl]) (by rw [ha, hl])
  | _ => exact .rests rfl rfl

def Consistent (t : Traffic α) (request : Nat) : Prop :=
  about request t.acts = ((t.requests.get? request).map (Passage.acts request)).getD []

theorem start_consistent (outside : Outside) (containers : Table String Container)
    (request : Nat) : (start outside containers : Traffic α).Consistent request := rfl

theorem Consistent.apply {t : Traffic α} {request : Nat} (h : t.Consistent request) (e : Event α) :
    (t.apply e).Consistent request := by
  rw [Consistent] at h ⊢
  cases t.motion request e with
  | rests now acts => rw [now, acts, h]
  | refused name c f event enters unwired fails now acts =>
    rw [acts, h, enters.unseen, now]; rfl
  | passes name c event enters passes now acts => rw [acts, h, enters.unseen, now]; rfl
  | ends outcome event inside now acts => rw [acts, h, inside, now]; rfl

theorem Consistent.run {t : Traffic α} {request : Nat} (h : t.Consistent request)
    (es : List (Event α)) : (t.run es).Consistent request :=
  run_keeps (P := fun t => t.Consistent request) (fun _ e ht => ht.apply e) h es

theorem enter_refused {t : Traffic α} {request : Nat} {name : String} {c : Container}
    (h : t.Enters request name c) (hw : t.layer.wired = none) {f : Fault}
    (hf : t.outside.offer c = .error f) :
    (t.enter request name).requests.get? request = some (.refused f) := by
  have he := t.entering request name
  generalize t.enter request name = t' at he ⊢
  cases he with
  | idle idle => exact absurd h (idle c)
  | passes _ found => cases hw.symm.trans found
  | refused enters _ fails =>
    cases h.found.symm.trans enters.found
    cases hf.symm.trans fails
    simp
  | wires wires =>
    cases h.found.symm.trans wires.found
    cases hf.symm.trans wires.offered

theorem enter_passes {t : Traffic α} {request : Nat} {name : String} {c : Container}
    (h : t.Enters request name c) (hp : t.Passes c) :
    (t.enter request name).requests.get? request = some .inside := by
  have he := t.entering request name
  generalize t.enter request name = t' at he ⊢
  cases he with
  | idle idle => exact absurd h (idle c)
  | refused enters unwired fails =>
    cases h.found.symm.trans enters.found
    obtain hw | ⟨service, hs⟩ := hp
    · exact absurd unwired hw
    · cases hs.symm.trans fails
  | passes => simp
  | wires => simp

/-- A request that is not inside moves no more. -/
theorem settled {t : Traffic α} {request : Nat} {p : Passage α}
    (h : t.requests.get? request = some p) (hp : p ≠ .inside) (e : Event α) :
    (t.apply e).requests.get? request = some p := by
  cases t.motion request e with
  | rests now => exact now.trans h
  | refused _ _ _ _ enters => cases enters.unseen.symm.trans h
  | passes _ _ _ enters => cases enters.unseen.symm.trans h
  | ends _ _ inside => exact absurd (Option.some.inj (h.symm.trans inside)) hp

def IsThrough (t : Traffic α) (request : Nat) : Prop :=
  t.requests.get? request = some .inside ∨
    ∃ outcome, t.requests.get? request = some (.ended outcome)

theorem IsThrough.apply {t : Traffic α} {request : Nat} (h : t.IsThrough request) (e : Event α) :
    (t.apply e).IsThrough request := by
  obtain hi | ⟨outcome, ho⟩ := h
  · cases t.motion request e with
    | rests now => exact .inl (now.trans hi)
    | refused _ _ _ _ enters => cases enters.unseen.symm.trans hi
    | passes _ _ _ enters => cases enters.unseen.symm.trans hi
    | ends outcome _ _ now => exact .inr ⟨outcome, now⟩
  · exact .inr ⟨outcome, settled ho nofun e⟩

section Since
variable {t : Traffic α} {request : Nat} (h : t.requests.get? request = none)
include h

theorem refused_since (f : Fault) (es : List (Event α)) :
    (t.run es).requests.get? request = some (.refused f) ↔
      ∃ before name c after, es = before ++ .enter request name :: after ∧
        (t.run before).Enters request name c ∧ (t.run before).layer.wired = none ∧
        (t.run before).outside.offer c = .error f := by
  rw [run_since (P := fun t => t.requests.get? request = some (.refused f))
    (fun t e ht => settled ht nofun e) (by simp [h])]
  constructor
  · rintro ⟨before, e, after, rfl, hb, ha⟩
    cases (t.run before).motion request e with
    | rests now => exact absurd (now.symm.trans ha) hb
    | refused name c f' event enters unwired fails now =>
      cases now.symm.trans ha
      exact ⟨before, name, c, after, by rw [event], enters, unwired, fails⟩
    | passes _ _ _ _ _ now => cases now.symm.trans ha
    | ends _ _ _ now => cases now.symm.trans ha
  · rintro ⟨before, name, c, after, rfl, enters, unwired, fails⟩
    exact ⟨before, _, after, rfl, by simp [enters.unseen], enter_refused enters unwired fails⟩

theorem ended_since (outcome : Except Fault α) (es : List (Event α)) :
    (t.run es).requests.get? request = some (.ended outcome) ↔
      ∃ before after, es = before ++ .leave request outcome :: after ∧
        (t.run before).requests.get? request = some .inside := by
  rw [run_since (P := fun t => t.requests.get? request = some (.ended outcome))
    (fun t e ht => settled ht nofun e) (by simp [h])]
  constructor
  · rintro ⟨before, e, after, rfl, hb, ha⟩
    cases (t.run before).motion request e with
    | rests now => exact absurd (now.symm.trans ha) hb
    | refused _ _ _ _ _ _ _ now => cases now.symm.trans ha
    | passes _ _ _ _ _ now => cases now.symm.trans ha
    | ends outcome' event inside now =>
      cases now.symm.trans ha
      exact ⟨before, after, by rw [event], inside⟩
  · rintro ⟨before, after, rfl, inside⟩
    refine ⟨before, _, after, rfl, by simp [inside], ?_⟩
    obtain ⟨-, hl⟩ | ⟨hn, -⟩ := (t.run before).leave_cases request outcome
    · rw [apply, hl]
      simp
    · exact absurd inside hn

theorem through_since (es : List (Event α)) :
    (t.run es).IsThrough request ↔
      ∃ before name c after, es = before ++ .enter request name :: after ∧
        (t.run before).Enters request name c ∧ (t.run before).Passes c := by
  rw [run_since (P := fun t => t.IsThrough request) (fun t e ht => ht.apply e)
    (by simp [IsThrough, h])]
  constructor
  · rintro ⟨before, e, after, rfl, hb, ha⟩
    cases (t.run before).motion request e with
    | rests now =>
      rw [IsThrough, now] at ha
      exact absurd ha hb
    | refused _ _ _ _ _ _ _ now => simp [IsThrough, now] at ha
    | passes name c event enters passes =>
      exact ⟨before, name, c, after, by rw [event], enters, passes⟩
    | ends _ _ inside => exact absurd (.inl inside) hb
  · rintro ⟨before, name, c, after, rfl, enters, passes⟩
    exact ⟨before, _, after, rfl, by simp [IsThrough, enters.unseen],
      .inl (enter_passes enters passes)⟩

end Since

theorem Consistent.mem_followers {t : Traffic α} {request : Nat} (h : t.Consistent request)
    (ht : t.IsThrough request) : request ∈ followers t.acts := by
  have hmem : .followed request ∈ about request t.acts := by
    rw [h]
    obtain hi | ⟨outcome, ho⟩ := ht
    · simp [hi, Passage.acts]
    · simp [ho, Passage.acts]
  exact List.mem_filterMap.2 ⟨_, (List.mem_filter.1 hmem).1, rfl⟩

structure RegisteredBy (acts : List (Act α)) (request : Nat) : Prop where
  once : registrants acts = [request]
  first : ∃ early late, acts = early ++ .noted request (.said (.registered serviceToken)) :: late ∧
    followers early = [] ∧ (followers late).head? = some request

theorem RegisteredBy.of_notes {acts more : List (Act α)} {early late : List Entry} (request : Nat)
    (hr : registrants acts = []) (hf : followers acts = []) (he : Unregistered early)
    (hl : Unregistered late) (hm : registrants more = []) :
    RegisteredBy (acts ++ (early ++ .said (.registered serviceToken) :: late).map
      (.noted request) ++ [.followed request] ++ more) request := by
  have hacts : acts ++ (early ++ .said (.registered serviceToken) :: late).map
      (.noted request) ++ [.followed request] ++ more =
        (acts ++ early.map (.noted request)) ++
          .noted request (.said (.registered serviceToken)) ::
            (late.map (.noted request) ++ .followed request :: more) := by simp
  refine ⟨?_, _, _, hacts, by simp [hf], by simp⟩
  rw [hacts, registrants_append, registrants_registration]
  simp [hr, registrants_noted he, registrants_noted hl, hm]

/-- A request that enters after certain events wires the layer: all that have come before it have
been refused and have left the containers alone. The service that it puts into its container is the
one that the layer has, and the layer stays wired with it through all that comes after. -/
structure Opening (t : Traffic α) (before : List (Event α)) (request : Nat) (name : String)
    (c : Container) (number : Nat) (service : Service) (after : List (Event α)) : Prop where
  wires : (t.run before).Wires request name c service
  others : ∀ r p, (t.run before).requests.get? r = some p → ∃ f, p = .refused f
  layer : ((t.run before).enter request name).layer.wired =
    some ((t.run before).outside.wired number service)
  containers : ((t.run before).enter request name).containers =
    (placed t.containers before).insert name
      { c with items := c.items.insert serviceToken (.service number) }
  stays : ((t.run before).enter request name).Stays
    ((t.run before).outside.wired number service) after
  names : (((t.run before).outside.wired number service).loop.run (moves after)).service.names =
    service.names
  registered : RegisteredBy (t.run (before ++ .enter request name :: after)).acts request

section Start
variable {outside : Outside} {containers : Table String Container} {es : List (Event α)}

/-- As long as the layer is not wired, everyone is refused. -/
theorem refused_of_unwired (h : ((start outside containers).run es).layer.wired = none) (r : Nat)
    (p : Passage α) (hp : ((start outside containers).run es).requests.get? r = some p) :
    ∃ f, p = .refused f := by
  have hthrough : ¬((start outside containers).run es).IsThrough r := by
    intro ht
    have hmem := ((start_consistent outside containers r).run es).mem_followers ht
    rw [(Fruitless.run h).followers] at hmem
    cases hmem
  cases p with
  | refused f => exact ⟨f, rfl⟩
  | inside => exact absurd (.inl hp) hthrough
  | ended outcome => exact absurd (.inr ⟨outcome, hp⟩) hthrough

theorem opening (h : ((start outside containers).run es).layer.wired ≠ none) :
    ∃ before request name c number service after, es = before ++ .enter request name :: after ∧
      (start outside containers).Opening before request name c number service after := by
  obtain ⟨before, e, after, rfl, hb, ha⟩ :=
    (run_since (P := fun t => t.layer.wired ≠ none) (fun _ e ht => apply_wired ht e)
      (not_not_intro rfl) es).1 h
  have hb : ((start outside containers).run before).layer.wired = none := Classical.not_not.1 hb
  obtain ⟨request, name, c, service, early, late, rfl, hwires, he, hl, hs⟩ := wired_by hb ha
  have hidle := Fruitless.run hb
  have hlayer : (((start outside containers).run before).enter request name).layer.wired =
      some (((start outside containers).run before).outside.wired
        ((start outside containers).run before).layer.built service) := by rw [hs]
  have hstays := Stays.run hlayer after
  obtain ⟨more, hmore, hnone⟩ := hstays.acts
  refine ⟨before, request, name, c, _, service, after, rfl, hwires, refused_of_unwired hb, hlayer,
    ?_, hstays, Loop.run_names _ _, ?_⟩
  · rw [hs, hidle.containers]
  · rw [run_append, run_cons, apply, hmore, hs]
    exact .of_notes request hidle.registrants hidle.followers he hl hnone

end Start

/-- What a run of traffic comes to. As long as the layer is not wired, nothing is registered and
nobody is followed; when it is, one request has opened it. Any request that enters next does so in
one of the ways that there are. All along, each request has done what one does that has got as far:
it is refused just when it found no service to wire the layer with, gets through just when it found
the layer wired or such a service, and ends with the outcome of what has followed it. -/
structure WiredOnce (t : Traffic α) (es : List (Event α)) : Prop where
  unwired : (t.run es).layer.wired = none → (t.run es).containers = placed t.containers es ∧
    registrants (t.run es).acts = [] ∧ followers (t.run es).acts = []
  wired : (t.run es).layer.wired ≠ none → ∃ before request name c number service after,
    es = before ++ .enter request name :: after ∧
      t.Opening before request name c number service after
  entering : ∀ request name, (t.run es).Entering request name ((t.run es).enter request name)
  consistent : ∀ request, (t.run es).Consistent request
  refused : ∀ request f, (t.run es).requests.get? request = some (.refused f) ↔
    ∃ before name c after, es = before ++ .enter request name :: after ∧
      (t.run before).Enters request name c ∧ (t.run before).layer.wired = none ∧
      (t.run before).outside.offer c = .error f
  through : ∀ request, (t.run es).IsThrough request ↔
    ∃ before name c after, es = before ++ .enter request name :: after ∧
      (t.run before).Enters request name c ∧ (t.run before).Passes c
  ended : ∀ request outcome, (t.run es).requests.get? request = some (.ended outcome) ↔
    ∃ before after, es = before ++ .leave request outcome :: after ∧
      (t.run before).requests.get? request = some .inside

theorem wired_once (outside : Outside) (containers : Table String Container)
    (es : List (Event α)) : WiredOnce (start outside containers) es where
  unwired h := by
    have hidle := Fruitless.run h
    exact ⟨hidle.containers, hidle.registrants, hidle.followers⟩
  wired h := opening h
  entering request name := entering _ request name
  consistent request := (start_consistent outside containers request).run es
  refused request f := refused_since rfl f es
  through request := through_since rfl es
  ended request outcome := ended_since rfl outcome es

/-- The first of three requests comes with a container that refuses it; the next wires the layer. -/
example (world : World) (clock : Float) (f : Fault) :
    let t : Traffic Unit := (start ⟨⟨.empty, some .empty⟩, world, clock⟩
      (.ofList [("closed", ⟨.empty, some f⟩), ("open", .empty)])).run
      [.enter 1 "closed", .enter 2 "open", .enter 3 "open", .leave 3 (.ok ()), .leave 2 (.error f)]
    (registrants t.acts, followers t.acts) = ([2], [2, 3]) := by cbv

end LiveConfig.Traffic
