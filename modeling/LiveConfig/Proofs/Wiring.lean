import LiveConfig.Layer
import LiveConfig.Proofs.Discovery
import LiveConfig.Proofs.Notices
import LiveConfig.Proofs.Registration
set_option autoImplicit false

/-!
What wiring a layer comes to. Any environment wires it, whatever is in it, as long as no two
variables declare namespaces of one name; the service is registered once, and when wiring fails it
is not.
-/
namespace LiveConfig

namespace Layer

def isRegistration (e : Entry) : Bool := e = .said (.registered serviceToken)

def Unregistered (es : List Entry) : Prop := ∀ e ∈ es, isRegistration e = false

end Layer

def Silent (es : List Entry) : Prop := ∀ e ∈ es, e.exchange? = none

def Noticed (es : List Entry) : Prop :=
  ∀ e ∈ es, ∃ n, e = .said n ∧ ∀ token, n ≠ .registered token

namespace Noticed

theorem append {es es' : List Entry} (h : Noticed es) (h' : Noticed es') : Noticed (es ++ es') :=
  fun e he => (List.mem_append.1 he).elim (h e) (h' e)

theorem unregistered {es : List Entry} (h : Noticed es) : Layer.Unregistered es := by
  intro e he
  obtain ⟨n, rfl, hn⟩ := h e he
  exact decide_eq_false fun he => hn _ (Entry.said.inj he)

theorem silent {es : List Entry} (h : Noticed es) : Silent es := by
  intro e he
  obtain ⟨n, rfl, -⟩ := h e he
  rfl

end Noticed

namespace Journaled

theorem silent_bind {α β : Type} {x : Journaled α} {f : α → Journaled β} (hx : Silent x.entries)
    (hf : Silent (f x.value).entries) : Silent (x >>= f).entries := fun e he =>
  (List.mem_append.1 he).elim (hx e) (hf e)

theorem silent_pure {α : Type} (a : α) : Silent (pure a : Journaled α).entries :=
  fun _ he => absurd he List.not_mem_nil

theorem silent_say (n : Notice) : Silent (say n).entries := by
  intro e he
  cases List.mem_singleton.1 he
  rfl

end Journaled

open Journaled Layer

theorem Settings.ofEnvironment_noticed (env : Environment) :
    Noticed (ofEnvironment env).entries :=
  ofEnvironment_tells (fun _ _ he => by cases he) env

theorem Service.addBindings_noticed (s : Surroundings) (platform : Platform)
    (interval : Option Int) (service : Service) (bs : List Binding) :
    Noticed (addBindings s platform interval service bs).entries :=
  addBindings_tells (fun _ _ he => by cases he) s (fun _ _ _ he => by cases he)
    (fun _ _ _ he => by cases he) interval service bs

namespace Layer

/-- Wiring fails as building the service fails, or as the container refuses it, with nothing
registered; else it registers the service once, by its number. -/
theorem wire_cases (l : Layer) (s : Surroundings) (w : World) (clock : Float) (c : Container) :
    let settings := (Settings.ofEnvironment s.environment).value
    (∃ f built, ((Service.build s settings).value = .error f ∧ built = l.built ∨
        (∃ service, (Service.build s settings).value = .ok service) ∧ c.refusal = some f ∧
          built = l.built + 1) ∧
      (l.wire s w clock c).value = ⟨⟨l.wired, built⟩, c, .error f⟩ ∧
      Unregistered (l.wire s w clock c).entries) ∨
    ∃ service, (Service.build s settings).value = .ok service ∧ c.refusal = none ∧
      (l.wire s w clock c).value = ⟨⟨some ⟨settings, l.built, .start service w clock⟩, l.built + 1⟩,
        { c with items := c.items.insert serviceToken (.service l.built) }, .ok ()⟩ ∧
      ∃ before after, (l.wire s w clock c).entries =
          before ++ .said (.registered serviceToken) :: after ∧
        Unregistered before ∧ Unregistered after := by
  intro settings
  have hearly : Unregistered ((Settings.ofEnvironment s.environment).entries ++
      (Service.build s settings).entries) := Noticed.unregistered <|
    (Settings.ofEnvironment_noticed _).append (Service.addBindings_noticed _ _ _ _ _)
  cases hb : (Service.build s settings).value with
  | error f =>
    refine .inl ⟨f, l.built, .inl ⟨rfl, rfl⟩, by simp [wire, settings, hb], ?_⟩
    rwa [show (l.wire s w clock c).entries = _ ++ _ by simp [wire, settings, hb]; rfl]
  | ok service =>
    cases hc : c.refusal with
    | some f =>
      refine .inl ⟨f, l.built + 1, .inr ⟨⟨service, rfl⟩, rfl, rfl⟩, ?_, ?_⟩
      · simp [wire, settings, hb, Container.register, hc]
      · rwa [show (l.wire s w clock c).entries = _ ++ _ by
          simp [wire, settings, hb, Container.register, hc]; rfl]
    | none =>
      refine .inr ⟨service, rfl, rfl, ?_, _,
        [.said (.layerReady settings.platform.token service.nameList settings.interval)], ?_,
        hearly, by simp [Unregistered, isRegistration]⟩
      · simp [wire, settings, hb, Container.register, hc]
      · simp [wire, settings, hb, Container.register, hc, say]

/-- Nothing outside is used to wire a layer. -/
theorem wire_silent (l : Layer) (s : Surroundings) (w : World) (clock : Float) (c : Container) :
    Silent (l.wire s w clock c).entries := by
  unfold wire
  refine silent_bind (Settings.ofEnvironment_noticed _).silent
    (silent_bind (Service.addBindings_noticed _ _ _ _ _).silent ?_)
  split
  · exact silent_pure _
  · refine silent_bind ?_ ?_
    · unfold Container.register
      split
      · exact silent_pure _
      · exact silent_bind (silent_say _) (silent_pure _)
    · split
      · exact silent_pure _
      · exact silent_bind (silent_say _) (silent_pure _)

theorem enter_of_wired {l : Layer} {wired : Wired} (h : l.wired = some wired) (s : Surroundings)
    (w : World) (clock : Float) (c : Container) : l.enter s w clock c = pure ⟨l, c, .ok ()⟩ := by
  rw [enter, h]

theorem enter_of_unwired {l : Layer} (h : l.wired = none) (s : Surroundings) (w : World)
    (clock : Float) (c : Container) : l.enter s w clock c = l.wire s w clock c := by
  rw [enter, h]

/-- What the first request through a layer comes to, with a container that takes what is registered.
When no variables clash, a service is built and registered, and the request is handed on; when some
do, the service is not built, and the request fails with one of their names. -/
structure Opening (s : Surroundings) (w : World) (clock : Float) (items : Table String Item) :
    Prop where
  wired : (¬∃ name, s.environment.Clash name) → ∃ service,
    (Service.build s (Settings.ofEnvironment s.environment).value).value = .ok service ∧
      ∀ {α : Type} (next : Except Fault α), (fresh.handle s w clock ⟨items, none⟩ next).value =
        ⟨⟨some ⟨(Settings.ofEnvironment s.environment).value, 0, .start service w clock⟩, 1⟩,
          ⟨items.insert serviceToken (.service 0), none⟩, true, next⟩
  clashing : (∃ name, s.environment.Clash name) → ∃ name, s.environment.Clash name ∧
    (Service.build s (Settings.ofEnvironment s.environment).value).value =
        .error (.namespaceTaken name) ∧
      ∀ {α : Type} (next : Except Fault α), (fresh.handle s w clock ⟨items, none⟩ next).value =
        ⟨fresh, ⟨items, none⟩, false, .error (.namespaceTaken name)⟩

theorem first_request (s : Surroundings) (w : World) (clock : Float) (items : Table String Item) :
    Opening s w clock items := by
  have henter : fresh.enter s w clock ⟨items, none⟩ = fresh.wire s w clock ⟨items, none⟩ :=
    enter_of_unwired rfl s w clock _
  obtain ⟨hnodup, service, hb, -⟩ | ⟨name, hcount, hb⟩ :=
    Service.build_cases s (Settings.ofEnvironment s.environment).value
  · have hno := (Settings.nodup_bindings _).1 hnodup
    refine ⟨fun _ => ⟨service, hb, fun next => ?_⟩, fun h => absurd h hno⟩
    obtain ⟨f, built, ⟨hf, -⟩ | ⟨-, hf, -⟩, -⟩ | ⟨service', hb', -, hw, -⟩ :=
      fresh.wire_cases s w clock ⟨items, none⟩
    · cases hb.symm.trans hf
    · cases hf
    · cases hb.symm.trans hb'
      rw [handle, value_bind, henter, hw]
      rfl
  · have hclash := (Settings.two_le_count_bindings _ name).1 hcount
    refine ⟨fun h => absurd ⟨name, hclash⟩ h, fun _ => ⟨name, hclash, hb, fun next => ?_⟩⟩
    obtain ⟨f, built, ⟨hf, rfl⟩ | ⟨-, hf, -⟩, hw, -⟩ | ⟨service', hb', -⟩ :=
      fresh.wire_cases s w clock ⟨items, none⟩
    · cases hb.symm.trans hf
      rw [handle, value_bind, henter, hw]
      rfl
    · cases hf
    · cases hb.symm.trans hb'

def twoCases : Environment :=
  .ofList [("CELERITY_CONFIG_APP_STORE_ID", "a"), ("CELERITY_CONFIG_app_STORE_ID", "b")]

theorem twoCases_clash : twoCases.Clash "app" where
  several := by decide
  pair := ⟨"APP", "app", by decide, ⟨⟨by decide, by decide⟩, by decide⟩,
    ⟨⟨by decide, by decide⟩, by decide⟩⟩

/-- No service is built when they are set together. -/
theorem two_cases_not_wired : ¬∀ s : Surroundings, ∃ service,
    (Service.build s (Settings.ofEnvironment s.environment).value).value = .ok service := by
  intro hclaim
  obtain ⟨service, hservice⟩ := hclaim ⟨.empty, some twoCases⟩
  obtain ⟨hnodup, -⟩ | ⟨name, -, hb⟩ :=
    Service.build_cases ⟨.empty, some twoCases⟩ (Settings.ofEnvironment twoCases).value
  · exact (Settings.nodup_bindings twoCases).1 hnodup ⟨"app", twoCases_clash⟩
  · cases hservice.symm.trans hb

end Layer

end LiveConfig
