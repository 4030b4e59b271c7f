import LiveConfig.Http
import LiveConfig.Proofs.Absorption
import LiveConfig.Proofs.Entering
import LiveConfig.Proofs.Outcome
set_option autoImplicit false

/-!
The health report only looks. It lists the namespaces in the order of their registration, and what
it says of each is what has become of its fetches; of the snapshots it says nothing. A request for
it changes nothing, but that the first request wires the layer.
-/
namespace LiveConfig

namespace Loop

def succeeded (id : Nat) (xs : List Landing) : Bool :=
  xs.any fun x => x.fetch.space = id ∧ x.outcome.isOk

def unfinished (id : Nat) (l : Loop) : Bool := l.fetches.any fun f => f.space = id

theorem isSome_lastSuccess (id : Nat) (xs : List Landing) :
    ((lastSuccess id xs).bind (Landing.kept? id)).isSome = succeeded id xs := by
  rw [Bool.eq_iff_iff, succeeded, List.any_eq_true]
  constructor
  · intro h
    obtain ⟨c, hc⟩ := Option.isSome_iff_exists.1 h
    obtain ⟨x, hx, hkept⟩ := Option.bind_eq_some_iff.1 hc
    obtain ⟨hm, hi⟩ := lastSuccess_mem hx
    refine ⟨x, hm, ?_⟩
    rw [Landing.kept?, if_pos hi] at hkept
    cases ho : x.outcome with
    | ok s => simp [hi, Except.isOk, Except.toBool]
    | error f =>
      rw [ho] at hkept
      cases hkept
  · rintro ⟨x, hm, hx⟩
    simp only [decide_eq_true_eq] at hx
    cases ho : x.outcome with
    | ok s =>
      obtain ⟨y, s', hy, hyi, hys⟩ := lastSuccess_of_mem hm hx.1 ho
      rw [hy, Option.bind_some, Landing.kept?, if_pos hyi, hys]
      rfl
    | error f =>
      rw [ho] at hx
      cases hx.2

theorem cached_isSome {l : Loop} (hf : l.IsFresh) (ms : List Move) {id : Nat} {n : Namespace}
    (hn : (l.run ms).service.get? id = some n) :
    n.cached.isSome = succeeded id (l.landings ms) := by
  rw [← isSome_lastSuccess]
  exact congrArg Option.isSome ((Accounts.fresh hf).run (.fresh hf) ms id n hn).cached

/-- No later fetch takes a success back. -/
theorem succeeded_run {l : Loop} {ms : List Move} {id : Nat} (h : succeeded id (l.landings ms))
    (ms' : List Move) : succeeded id (l.landings (ms ++ ms')) := by
  rw [landings_append, succeeded, List.any_append]
  exact Bool.or_eq_true_iff.2 (.inl h)

theorem isRefreshing_eq {l : Loop} (hc : Coherent l) {id : Nat} {n : Namespace}
    (hn : l.service.get? id = some n) : n.isRefreshing = l.unfinished id := by
  rw [Bool.eq_iff_iff, (hc.oneFlight hn).slot, unfinished, List.any_eq_true]
  simp only [decide_eq_true_eq]

theorem run_length (l : Loop) (ms : List Move) :
    (l.run ms).service.namespaces.length = l.service.namespaces.length := by
  have hlt : ∀ id, id < (l.run ms).service.namespaces.length ↔
      id < l.service.namespaces.length := by
    intro id
    have h := l.run_isSome ms id
    rw [Bool.eq_iff_iff, ← Option.ne_none_iff_isSome, ← Option.ne_none_iff_isSome, Service.get?,
      Service.get?, ne_eq, ne_eq, List.getElem?_eq_none_iff, List.getElem?_eq_none_iff, Nat.not_le,
      Nat.not_le] at h
    exact h
  exact Nat.le_antisymm (Nat.le_of_not_lt fun h => Nat.lt_irrefl _ ((hlt _).1 h))
    (Nat.le_of_not_lt fun h => Nat.lt_irrefl _ ((hlt _).2 h))

end Loop

namespace Http

/-- What is reported of a namespace with such fetches. -/
def row (name : String) (n : Namespace) (loaded refreshing : Bool) : Json :=
  fields
    [("name", .text name), ("store_id", .text n.storeId), ("backend", .text n.backend.kindName),
     ("refresh_interval_ms", optionalInt n.interval), ("loaded", .bool loaded),
     ("refresh_in_flight", .bool refreshing)]

def rows (l : Loop) (ms : List Loop.Move) : List Json :=
  ((l.service.nameList.zip (l.run ms).service.namespaces).zipIdx.map fun e =>
    row e.1.1 e.1.2 (Loop.succeeded e.2 (l.landings ms)) ((l.run ms).unfinished e.2))

def page (settings : Settings) (rows : List Json) : Json :=
  fields
    [("status", .text "ok"), ("initialized", .bool true),
     ("platform", .text settings.platform.token), ("namespaces", .arr rows)]

/-- Names that stand where their namespaces do are looked up one after the other. -/
theorem filterMap_zipIdx {α : Type} (names : List String) (before spaces : List Namespace)
    (hl : names.length = spaces.length) (f : String → Nat → Namespace → α) :
    (names.zipIdx before.length).filterMap
        (fun e => ((before ++ spaces)[e.2]?).map (f e.1 e.2)) =
      ((names.zip spaces).zipIdx before.length).map fun e => f e.1.1 e.2 e.1.2 := by
  induction names generalizing before spaces with
  | nil => rfl
  | cons name names ih =>
    cases spaces with
    | nil => cases hl
    | cons n spaces =>
      have hrest := ih (before ++ [n]) spaces (Nat.succ.inj hl)
      rw [List.length_append, List.length_singleton, List.append_assoc,
        List.singleton_append] at hrest
      rw [List.zipIdx_cons, List.zip_cons_cons, List.zipIdx_cons, List.map_cons, ← hrest]
      exact List.filterMap_cons_some (by simp)

theorem namespaceReport_eq {l : Loop} (hf : l.IsFresh) (ms : List Loop.Move) {id : Nat}
    {n : Namespace} (hn : (l.run ms).service.get? id = some n) (name : String) :
    namespaceReport name n =
      row name n (Loop.succeeded id (l.landings ms)) ((l.run ms).unfinished id) := by
  have hc : Loop.Coherent (l.run ms) := (Loop.Coherent.fresh hf).run ms
  rw [← Loop.cached_isSome hf ms hn, ← Loop.isRefreshing_eq hc hn]
  rfl

theorem serviceReport_eq {l : Loop} (hf : l.IsFresh) (ms : List Loop.Move)
    {spaces : List (String × Namespace)} (hs : l.service.Holds spaces) :
    serviceReport (l.run ms).service = rows l ms := by
  have hl : l.service.nameList.length = (l.run ms).service.namespaces.length :=
    hs.length.trans (l.run_length ms).symm
  have hrow : (fun e : String × Nat =>
      ((l.run ms).service.get? e.2).map (namespaceReport e.1)) = fun e =>
        ((l.run ms).service.namespaces[e.2]?).map fun n =>
          row e.1 n (Loop.succeeded e.2 (l.landings ms)) ((l.run ms).unfinished e.2) := by
    funext e
    change ((l.run ms).service.get? e.2).map _ = ((l.run ms).service.get? e.2).map _
    cases hn : (l.run ms).service.get? e.2 with
    | none => rfl
    | some n => exact congrArg some (namespaceReport_eq hf ms hn e.1)
  rw [serviceReport, l.run_names, hs.names, ← hs.nameList, hrow]
  exact filterMap_zipIdx l.service.nameList [] (l.run ms).service.namespaces hl fun name id n =>
    row name n (Loop.succeeded id (l.landings ms)) ((l.run ms).unfinished id)

structure Server where
  app : App
  outside : Outside

namespace Server

inductive Event where
  | request (method path : String)
  | work (m : Loop.Move)
  | change (outside : Outside)

def ask (s : Server) (method path : String) : Journaled (App × Except Fault Response) :=
  s.app.request s.outside.around s.outside.world s.outside.clock method path

def apply (s : Server) : Event → Server
  | .request method path => { s with app := (s.ask method path).value.1 }
  | .work m => { s with app := { s.app with layer := s.app.layer.onLoop fun l => l.move m } }
  | .change outside => { s with outside := outside }

def run (s : Server) (es : List Event) : Server := es.foldl apply s

def start (outside : Outside) : Server := ⟨.fresh, outside⟩

@[simp] theorem run_nil (s : Server) : s.run [] = s := rfl

@[simp] theorem run_cons (s : Server) (e : Event) (es : List Event) :
    s.run (e :: es) = (s.apply e).run es := rfl

@[simp] theorem run_append (s : Server) (es es' : List Event) :
    s.run (es ++ es') = (s.run es).run es' := List.foldl_append

def Event.move? : Event → Option Loop.Move
  | .work m => some m
  | .request _ _ | .change _ => none

def moves (es : List Event) : List Loop.Move := es.filterMap Event.move?

end Server

def App.opened (o : Outside) (service : Service) (ms : List Loop.Move) : App :=
  ⟨⟨some ⟨o.settings, 0, (o.wired 0 service).loop.run ms⟩, 1⟩,
    ⟨Table.empty.insert Layer.serviceToken (.service 0), none⟩⟩

end Http

/-- With a container that takes what is registered, the layer is left as it was or is wired. -/
theorem Outside.wire_empty (o : Outside) :
    (∃ f, o.offer .empty = .error f ∧
      (Layer.fresh.wire o.around o.world o.clock .empty).value = ⟨.fresh, .empty, .error f⟩) ∨
    ∃ service, o.offer .empty = .ok service ∧
      (Layer.fresh.wire o.around o.world o.clock .empty).value =
        ⟨⟨some (o.wired 0 service), 1⟩,
          ⟨Table.empty.insert Layer.serviceToken (.service 0), none⟩, .ok ()⟩ := by
  obtain ⟨f, built, ⟨hb, rfl⟩ | ⟨-, hc, -⟩, hw, -⟩ | ⟨service, hb, -, hw, -⟩ :=
    Layer.fresh.wire_cases o.around o.world o.clock .empty
  · exact .inl ⟨f, by simp only [offer, settings, hb], hw⟩
  · cases hc
  · exact .inr ⟨service, by simp only [offer, settings, hb]; rfl, hw⟩

namespace Http

section Request
variable {a : App} {o : Outside} (method path : String)

/-- A request is answered by what has entered. -/
theorem ask_of_entered {entered : Journaled Entered}
    (h : a.layer.enter o.around o.world o.clock a.container = entered) :
    Server.ask ⟨a, o⟩ method path =
      ⟨(⟨entered.value.layer, entered.value.container⟩, entered.value.outcome.bind fun _ =>
        App.route ⟨entered.value.layer, entered.value.container⟩ method path),
        entered.entries⟩ := by
  obtain ⟨⟨layer, container, outcome⟩, notes⟩ := entered
  cases outcome <;> simp [Server.ask, App.request, Layer.handle, h, bind, pure, Except.bind]

theorem ask_of_wired {wired : Wired} (h : a.layer.wired = some wired) :
    Server.ask ⟨a, o⟩ method path = ⟨(a, a.route method path), []⟩ :=
  ask_of_entered method path (Layer.enter_of_wired h ..)

/-- A request that finds the app as it was made wires it, or fails and leaves it alone. -/
theorem ask_fresh (o : Outside) :
    (∃ f, o.offer .empty = .error f ∧
      (Server.ask ⟨.fresh, o⟩ method path).value = (.fresh, .error f)) ∨
    ∃ service, o.offer .empty = .ok service ∧
      (Server.ask ⟨.fresh, o⟩ method path).value =
        (.opened o service [], (App.opened o service []).route method path) ∧
      Silent (Server.ask ⟨.fresh, o⟩ method path).entries := by
  have henter : App.fresh.layer.enter o.around o.world o.clock App.fresh.container =
      Layer.fresh.wire o.around o.world o.clock .empty := Layer.enter_of_unwired rfl ..
  have hsilent := Layer.fresh.wire_silent o.around o.world o.clock .empty
  have hw := o.wire_empty
  rw [ask_of_entered method path henter]
  generalize Layer.fresh.wire o.around o.world o.clock .empty = entered at hw hsilent
  obtain ⟨entered, entries⟩ := entered
  obtain ⟨f, hf, rfl⟩ | ⟨service, hs, rfl⟩ := hw
  · exact .inl ⟨f, hf, rfl⟩
  · exact .inr ⟨service, hs, rfl, hsilent⟩

end Request

namespace Server

structure Opened (outside : Outside) (es : List Event) (o : Outside) (service : Service)
    (ms : List Loop.Move) : Prop where
  offered : o.offer .empty = .ok service
  split : ∃ before method path after, es = before ++ .request method path :: after ∧
    (start outside).run before = ⟨.fresh, o⟩ ∧ moves after = ms

theorem run_opened (o' : Outside) (service : Service) (o : Outside) (ms : List Loop.Move)
    (es : List Event) :
    (run ⟨.opened o' service ms, o⟩ es).app = .opened o' service (ms ++ moves es) := by
  induction es generalizing o ms with
  | nil => exact congrArg (App.opened o' service) (List.append_nil ms).symm
  | cons e es ih =>
    rw [run_cons]
    cases e with
    | request method path =>
      rw [apply, ask_of_wired method path rfl]
      exact ih o ms
    | work m =>
      have hm : App.opened o' service (ms ++ [m]) =
          ⟨(App.opened o' service ms).layer.onLoop fun l => l.move m,
            (App.opened o' service ms).container⟩ := by
        simp [App.opened, Layer.onLoop]
      rw [apply, ← hm, ih, List.append_assoc]
      rfl
    | change outside => exact ih outside ms

def Opens (s : Server) (es : List Event) : Prop :=
  ∃ before method path after o service, es = before ++ .request method path :: after ∧
    s.run before = ⟨.fresh, o⟩ ∧ o.offer .empty = .ok service

theorem Opens.cons {s : Server} {e : Event} {es : List Event} (h : Opens (s.apply e) es) :
    Opens s (e :: es) := by
  obtain ⟨before, method, path, after, o, service, rfl, hb, hs⟩ := h
  exact ⟨e :: before, method, path, after, o, service, rfl, hb, hs⟩

theorem fresh_or_opens (o : Outside) (es : List Event) :
    (run ⟨.fresh, o⟩ es).app = .fresh ∨ Opens ⟨.fresh, o⟩ es := by
  induction es generalizing o with
  | nil => exact .inl rfl
  | cons e es ih =>
    cases e with
    | request method path =>
      obtain ⟨f, -, hv⟩ | ⟨service, hs, -⟩ := ask_fresh method path o
      · have hsame : apply ⟨.fresh, o⟩ (.request method path) = ⟨.fresh, o⟩ := by rw [apply, hv]
        obtain hf | h := ih o
        · exact .inl (by rw [run_cons, hsame]; exact hf)
        · exact .inr (.cons (by rw [hsame]; exact h))
      · exact .inr ⟨[], method, path, es, o, service, rfl, rfl, hs⟩
    | work m => exact (ih o).imp id .cons
    | change outside => exact (ih outside).imp id .cons

namespace Opened
variable {outside o : Outside} {es : List Event} {service : Service} {ms : List Loop.Move}

theorem append (h : Opened outside es o service ms) (es' : List Event) :
    Opened outside (es ++ es') o service (ms ++ moves es') := by
  obtain ⟨before, method, path, after, rfl, hb, rfl⟩ := h.split
  exact ⟨h.offered, before, method, path, after ++ es', by simp, hb, List.filterMap_append⟩

theorem app (h : Opened outside es o service ms) :
    ((start outside).run es).app = .opened o service ms := by
  obtain ⟨before, method, path, after, rfl, hb, rfl⟩ := h.split
  rw [run_append, run_cons, hb, apply]
  obtain ⟨f, hf, -⟩ | ⟨service', hs, hv, -⟩ := ask_fresh method path o
  · cases h.offered.symm.trans hf
  · cases h.offered.symm.trans hs
    rw [hv]
    exact run_opened o service o [] after

end Opened

end Server

end Http

theorem Outside.build_of_offer {o : Outside} {c : Container} {service : Service}
    (h : o.offer c = .ok service) : (Service.build o.around o.settings).value = .ok service := by
  rw [offer] at h
  split at h
  · cases h
  · next hb =>
    split at h
    · cases h
    · cases h
      exact hb

theorem Service.isFresh_of_build {s : Surroundings} {settings : Settings} {service : Service}
    (hb : (build s settings).value = .ok service) : service.IsFresh := by
  intro n hn
  rw [(holds_of_build hb).namespaces, List.map_map] at hn
  obtain ⟨b, -, rfl⟩ := List.mem_map.1 hn
  exact Namespace.fresh_isFresh ..

namespace Http

section Report
variable {o : Outside} {service : Service} (h : o.offer .empty = .ok service)
include h

theorem wired_isFresh : (o.wired 0 service).loop.IsFresh :=
  Loop.start_isFresh (Service.isFresh_of_build (Outside.build_of_offer h)) _ _

theorem report_opened (ms : List Loop.Move) :
    (App.opened o service ms).route "GET" "/v1/config/health" =
      .ok ⟨200, page o.settings (rows (o.wired 0 service).loop ms)⟩ := by
  rw [← serviceReport_eq (wired_isFresh h) ms
    (Service.holds_of_build (Outside.build_of_offer h))]
  rfl

theorem length_rows (ms : List Loop.Move) :
    (rows (o.wired 0 service).loop ms).length = service.nameList.length := by
  have hs := Service.holds_of_build (Outside.build_of_offer h)
  have hl : ((o.wired 0 service).loop.run ms).service.namespaces.length =
      service.namespaces.length := Loop.run_length _ ms
  have hn : (o.wired 0 service).loop.service.nameList = service.nameList := rfl
  rw [rows, List.length_map, List.length_zipIdx, List.length_zip, hl, hn, hs.length, Nat.min_self]

end Report

end Http

/-- The same with nothing in its snapshot. When it was fetched is still known. -/
def Namespace.blind (n : Namespace) : Namespace :=
  { n with cached := n.cached.map fun c => ⟨.empty, c.fetchedAt⟩ }

def Service.blind (s : Service) : Service :=
  { s with namespaces := s.namespaces.map Namespace.blind }

def Loop.blind (l : Loop) : Loop := { l with service := l.service.blind }

namespace Http

def App.blind (a : App) : App :=
  { a with
    layer := { a.layer with wired := a.layer.wired.map fun w => { w with loop := w.loop.blind } } }

theorem namespaceReport_blind (name : String) (n : Namespace) :
    namespaceReport name n.blind = namespaceReport name n := by
  simp [namespaceReport, Namespace.blind, Namespace.isRefreshing]

theorem serviceReport_blind (s : Service) : serviceReport s.blind = serviceReport s := by
  have hget : ∀ id, s.blind.get? id = (s.get? id).map Namespace.blind := fun id =>
    List.getElem?_map
  rw [serviceReport, serviceReport]
  refine congrArg (fun f => s.names.entries.filterMap f) (funext fun e => ?_)
  rw [hget, Option.map_map]
  exact congrArg (fun f => (s.get? e.2).map f) (funext (namespaceReport_blind e.1))

theorem health_blind (w : Wired) : health { w with loop := w.loop.blind } = health w :=
  congrArg (fun rows => page w.settings rows) (serviceReport_blind w.loop.service)

theorem report_blind (a : App) (item : Item) : a.blind.report item = a.report item := by
  cases item with
  | service number =>
    have hs : a.blind.layer.service? (.service number) =
        (a.layer.service? (.service number)).map fun w => { w with loop := w.loop.blind } := by
      rw [Layer.service?, Layer.service?, App.blind, Option.filter_map]
      rfl
    rw [App.report, App.report, hs]
    cases a.layer.service? (.service number) with
    | none => rfl
    | some w =>
      have hw := health_blind w
      simp only [Option.map_some, hw]
  | _ => rfl

/-- No page tells the values of a snapshot. -/
theorem route_blind (a : App) (method path : String) :
    a.blind.route method path = a.route method path := by
  have hs : a.blind.service = a.service := rfl
  rw [App.route, App.route, hs]
  cases a.service with
  | error f => rfl
  | ok item =>
    have hr := report_blind a item
    simp only [hr]

theorem ask_blind (a : App) (o : Outside) (method path : String) :
    (Server.ask ⟨a.blind, o⟩ method path).value.2 = (Server.ask ⟨a, o⟩ method path).value.2 := by
  cases hw : a.layer.wired with
  | none =>
    have ha : a.blind = a := by
      obtain ⟨⟨wired, built⟩, container⟩ := a
      cases hw
      rfl
    rw [ha]
  | some w =>
    have hb : a.blind.layer.wired = some { w with loop := w.loop.blind } := by
      rw [App.blind, hw]
      rfl
    rw [ask_of_wired method path hb, ask_of_wired method path hw, route_blind]

theorem Server.Opened.ask {outside o : Outside} {es : List Server.Event} {service : Service}
    {ms : List Loop.Move} (h : Server.Opened outside es o service ms) :
    ((Server.start outside).run es).ask "GET" "/v1/config/health" =
      ⟨(((Server.start outside).run es).app,
        .ok ⟨200, page o.settings (rows (o.wired 0 service).loop ms)⟩), []⟩ := by
  rw [← report_opened h.offered ms, ← h.app]
  exact ask_of_wired (a := ((Server.start outside).run es).app) _ _ (by rw [h.app]; rfl)

theorem ask_first {o : Outside} {service : Service} (h : o.offer .empty = .ok service) :
    (Server.ask ⟨.fresh, o⟩ "GET" "/v1/config/health").value = (.opened o service [],
        .ok ⟨200, page o.settings (rows (o.wired 0 service).loop [])⟩) ∧
      Silent (Server.ask ⟨.fresh, o⟩ "GET" "/v1/config/health").entries := by
  obtain ⟨f, hf, -⟩ | ⟨service', hs, hv, hsilent⟩ := ask_fresh "GET" "/v1/config/health" o
  · cases h.symm.trans hf
  · cases h.symm.trans hs
    rw [← report_opened h []]
    exact ⟨hv, hsilent⟩

/-- What is found in the end is the app as it was made, or one that was wired in between. -/
theorem Server.known (outside : Outside) (es : List Server.Event) :
    ((Server.start outside).run es).app = .fresh ∨
      ∃ o service ms, Server.Opened outside es o service ms := by
  obtain h | ⟨before, method, path, after, o, service, he, hb, hs⟩ :=
    Server.fresh_or_opens outside es
  · exact .inl h
  · exact .inr ⟨o, service, _, hs, before, method, path, after, he, hb, rfl⟩

theorem status_of_ask_fresh {o : Outside} {r : Response}
    (hr : (Server.ask ⟨.fresh, o⟩ "GET" "/v1/config/health").value.2 = .ok r) : r.status = 200 := by
  obtain ⟨f, -, hv⟩ | ⟨service, hs, -⟩ := ask_fresh "GET" "/v1/config/health" o
  · rw [hv] at hr
    cases hr
  · rw [(ask_first hs).1] at hr
    cases hr
    rfl

/-- A report that is given at all is given with this status. -/
theorem Server.status_of_ask {outside : Outside} {es : List Server.Event} {r : Response}
    (hr : (((Server.start outside).run es).ask "GET" "/v1/config/health").value.2 = .ok r) :
    r.status = 200 := by
  obtain hfresh | ⟨o, service, ms, h⟩ := Server.known outside es
  · generalize (Server.start outside).run es = s at hfresh hr
    obtain ⟨app, o⟩ := s
    subst hfresh
    exact status_of_ask_fresh hr
  · rw [h.ask] at hr
    cases hr
    rfl

/-- What a request for the health report comes to, after any events. When the app was wired before,
the request changes nothing and leaves nothing in the journal; when it was not, and the environment
gives a service, the request wires it and uses nothing outside. Either way the answer has a row for
each namespace, in the order of the bindings, and tells whether one of its fetches has succeeded and
whether one has not ended; it is the same if what follows the entry takes its time. There is no
answer but this, and the values of snapshots make no difference to it. What was loaded stays so,
whatever becomes of the fetches that follow. -/
structure Health (outside : Outside) (es : List Server.Event) (s : Server) : Prop where
  known : s.app = .fresh ∨ ∃ o service ms, Server.Opened outside es o service ms
  wired : ∀ o service ms, Server.Opened outside es o service ms →
    s.ask "GET" "/v1/config/health" =
      ⟨(s.app, .ok ⟨200, page o.settings (rows (o.wired 0 service).loop ms)⟩), []⟩
  late : ∀ o service ms es', Server.Opened outside es o service ms →
    (s.run es').app.route "GET" "/v1/config/health" =
      .ok ⟨200, page o.settings (rows (o.wired 0 service).loop (ms ++ Server.moves es'))⟩
  first : s.app = .fresh → ∀ service, s.outside.offer .empty = .ok service →
    (s.ask "GET" "/v1/config/health").value = (.opened s.outside service [],
        .ok ⟨200, page s.outside.settings (rows (s.outside.wired 0 service).loop [])⟩) ∧
      Silent (s.ask "GET" "/v1/config/health").entries ∧
      (s.outside.wired 0 service).loop.IsFresh ∧
      Server.Opened outside (es ++ [.request "GET" "/v1/config/health"]) s.outside service []
  kept : ∀ o service ms es', Server.Opened outside es o service ms → ∀ id,
    Loop.succeeded id ((o.wired 0 service).loop.landings ms) →
      Loop.succeeded id ((o.wired 0 service).loop.landings (ms ++ Server.moves es'))
  order : ∀ o service ms, Server.Opened outside es o service ms →
    service.nameList = o.settings.bindings.map Binding.name ∧
      (rows (o.wired 0 service).loop ms).length = service.nameList.length
  never : ∀ r, (s.ask "GET" "/v1/config/health").value.2 = .ok r → r.status = 200
  blind : ∀ a b : App, a.blind = b.blind →
    (Server.ask ⟨a, s.outside⟩ "GET" "/v1/config/health").value.2 =
      (Server.ask ⟨b, s.outside⟩ "GET" "/v1/config/health").value.2

theorem health_of_run (outside : Outside) (es : List Server.Event) :
    Health outside es ((Server.start outside).run es) := by
  refine ⟨Server.known outside es, fun o service ms h => h.ask, fun o service ms es' h => ?_,
    fun hfresh service h => ?_, fun o service ms es' _ id hid => Loop.succeeded_run hid _,
    fun o service ms h => ?_, fun r hr => ?_, fun a b hab => ?_⟩
  · have hlater := (h.append es').app
    rw [Server.run_append] at hlater
    rw [hlater, report_opened h.offered]
  · obtain ⟨hv, hsilent⟩ := ask_first h
    rw [← hfresh] at hv hsilent
    refine ⟨hv, hsilent, wired_isFresh h, h, es, _, _, [], rfl, ?_, rfl⟩
    rw [← hfresh]
  · have hs := (Service.holds_of_build (Outside.build_of_offer h.offered)).nameList
    rw [List.map_map] at hs
    exact ⟨hs, length_rows h.offered ms⟩
  · exact Server.status_of_ask hr
  · rw [← ask_blind a, ← ask_blind b, hab]

/-- The first request wires the app, and a task waits for the first fetch. -/
example (world : World) (clock : Float) :
    let env : Environment :=
      .ofList [("CELERITY_PLATFORM", "aws"), ("CELERITY_CONFIG_STORE_ID", "app")]
    let s := (Server.start ⟨⟨.empty, some env⟩, world, clock⟩).run
      [.request "GET" "/", .work (.event (.begin 0 (.space 0) [.all])), .work .turn]
    ∃ n, (s.ask "GET" "/v1/config/health").value.2 =
      .ok ⟨200, page (Settings.ofEnvironment env).value [row "default" n false true]⟩ := ⟨_, rfl⟩

def holding : World :=
  ({ Contents.empty with secrets := .ofList [("app",
    .ok ⟨.json (.str (Text.codePoints "\x7b\x7d")), .bytes []⟩)] } : Contents).world

def single : Outside :=
  ⟨⟨.empty, some (.ofList
    [("CELERITY_PLATFORM", "aws"), ("CELERITY_CONFIG_STORE_ID", "app")])⟩, holding, 1000⟩

def lonely : Service where
  namespaces := [.fresh .freshSecrets "app" (some 30000) (some "default")]
  names := .ofList [("default", 0)]

def lapsed : Loop := (single.wired 0 lonely).loop

/-- The first fetch succeeds. When the world has gone offline, a task finds the snapshot stale. -/
def lapsing : List Server.Event :=
  [.request "GET" "/", .work (.event (.begin 0 (.space 0) [.all])), .work .turn, .work .turn,
    .work .turn, .work .turn, .work (.event (.setClock 1030)), .work (.event (.setWorld .offline)),
    .work (.event (.begin 1 (.space 0) [.all]))]

theorem rows_lapsed : ∃ x y n,
    lapsed.landings (Server.moves lapsing ++ [.turn, .turn]) = [x, y] ∧
      x.outcome.isOk ∧ ¬y.outcome.isOk ∧
      rows lapsed (Server.moves lapsing ++ [.turn, .turn]) = [row "default" n true false] := by
  have hold : Decimal.atLeast (Cached.age ⟨.empty, 1000⟩ 1030) 30000 = true := by decide +kernel
  have hmove : (lapsed.run (Server.moves lapsing)).move .turn = _ :=
    Loop.move_of_stale (s := ⟨1, .space 0, [], [.all]⟩) rfl rfl rfl rfl rfl rfl rfl rfl
      (by exact hold)
  have hland : ∃ x y, lapsed.landings (Server.moves lapsing ++ [.turn, .turn]) = [x, y] ∧
      x.fetch.space = 0 ∧ x.outcome.isOk ∧ ¬y.outcome.isOk := by
    rw [Loop.landings_append, Loop.landings, Loop.landings, Loop.visits, Loop.visits, hmove]
    exact ⟨_, _, rfl, rfl, rfl, Bool.false_ne_true⟩
  have hrow : ∃ n, rows lapsed (Server.moves lapsing ++ [.turn, .turn]) = [row "default" n
      (Loop.succeeded 0 (lapsed.landings (Server.moves lapsing ++ [.turn, .turn]))) false] := by
    rw [rows, Loop.run_append, Loop.run_cons, hmove]
    exact ⟨_, rfl⟩
  obtain ⟨x, y, hxy, hx, hok, hno⟩ := hland
  obtain ⟨n, hn⟩ := hrow
  have hloaded : Loop.succeeded 0 [x, y] = true := by simp [Loop.succeeded, hx, hok]
  exact ⟨x, y, n, hxy, hok, hno, by rw [hn, hxy, hloaded]⟩

/-- A fetch succeeds and the next one fails. The namespace is reported as loaded all the same. -/
theorem health_lapsed : ∃ x y n,
    Server.Opened single (lapsing ++ [.work .turn, .work .turn]) single lonely
      (Server.moves lapsing ++ [.turn, .turn]) ∧
    (single.wired 0 lonely).loop.landings (Server.moves lapsing ++ [.turn, .turn]) = [x, y] ∧
    x.outcome.isOk ∧ ¬y.outcome.isOk ∧
    (((Server.start single).run (lapsing ++ [.work .turn, .work .turn])).ask
        "GET" "/v1/config/health").value.2 =
      .ok ⟨200, page single.settings [row "default" n true false]⟩ := by
  obtain ⟨x, y, n, hxy, hok, hno, hrows⟩ := rows_lapsed
  have hopened : Server.Opened single (lapsing ++ [.work .turn, .work .turn]) single lonely
      (Server.moves lapsing ++ [.turn, .turn]) := ⟨rfl, [], _, _, _, rfl, rfl, rfl⟩
  refine ⟨x, y, n, hopened, hxy, hok, hno, ?_⟩
  rw [hopened.ask, ← hrows]
  rfl

end Http

end LiveConfig
