import LiveConfig.Proofs.Landing
set_option autoImplicit false

/-!
The names of a service. Whatever else goes on meanwhile, they are listed in the order in which they
were given first, and each means the namespace that it was given to then. Giving a name again is
refused and changes nothing.
-/
namespace LiveConfig

def Namespace.origin (n : Namespace) : String × String := (n.name, n.storeId)

namespace Service

theorem assignName_taken {s : Service} {name : String} (h : name ∈ s.nameList) (id : Nat)
    (label : String) : s.assignName name id label = pure (.error (.namespaceTaken name)) :=
  if_pos ((s.names.contains_eq_true_iff name).2 h)

theorem assignName_new {s : Service} {name : String} (h : name ∉ s.nameList) (id : Nat)
    (label : String) : s.assignName name id label =
      ⟨.ok { s with names := s.names.insert name id },
        [.said (.namespaceRegistered name label)]⟩ :=
  if_neg fun hc => h ((s.names.contains_eq_true_iff name).1 hc)

structure Knows (s : Service) (ns : List Namespace) (rs : List (String × Nat)) : Prop where
  origins : s.namespaces.map Namespace.origin = ns.map Namespace.origin
  listed : s.nameList = (rs.map Prod.fst).eraseDups
  first : ∀ name, s.names.get? name = rs.lookup name

namespace Knows
variable {s : Service} {ns : List Namespace} {rs : List (String × Nat)} {name : String}

theorem empty : Service.empty.Knows [] [] := ⟨rfl, rfl, fun _ => rfl⟩

theorem mem_iff (h : s.Knows ns rs) : name ∈ s.nameList ↔ name ∈ rs.map Prod.fst := by
  rw [h.listed, List.mem_eraseDups]

theorem lookup_isSome_iff (h : s.Knows ns rs) :
    (rs.lookup name).isSome ↔ name ∈ s.nameList := by
  rw [← h.first]
  exact s.names.contains_eq_true_iff name

theorem adopt (h : s.Knows ns rs) (n : Namespace) : (s.adopt n).1.Knows (ns ++ [n]) rs :=
  ⟨by simp [Service.adopt, h.origins], h.listed, h.first⟩

theorem taken (h : s.Knows ns rs) (hm : name ∈ s.nameList) (id : Nat) :
    s.Knows ns (rs ++ [(name, id)]) := by
  refine ⟨h.origins, ?_, fun k => ?_⟩
  · have hr := h.mem_iff.1 hm
    rw [h.listed, List.map_append, List.eraseDups_append]
    simp [List.removeAll, hr]
  · rw [h.first, List.lookup_append, List.lookup_cons]
    by_cases hk : k = name
    · obtain ⟨first, hf⟩ := Option.isSome_iff_exists.1 (h.lookup_isSome_iff.2 hm)
      rw [hk, hf, Option.some_or]
    · simp [beq_eq_false_iff_ne.2 hk]

theorem new (h : s.Knows ns rs) (hm : name ∉ s.nameList) (id : Nat) :
    Service.Knows { s with names := s.names.insert name id } ns (rs ++ [(name, id)]) := by
  refine ⟨h.origins, ?_, fun k => ?_⟩
  · have hr : name ∉ rs.map Prod.fst := fun hk => hm (h.mem_iff.2 hk)
    have hl := h.listed
    rw [nameList] at hl hm
    rw [nameList, Table.keys_insert, if_neg hm, hl, List.map_append, List.eraseDups_append]
    simp [List.removeAll, hr, List.eraseDups_cons]
  · rw [Table.get?_insert, h.first, List.lookup_append, List.lookup_cons]
    by_cases hk : k = name
    · have hn : rs.lookup name = none :=
        Option.not_isSome_iff_eq_none.1 fun hs => hm (h.lookup_isSome_iff.1 hs)
      simp [hk, hn]
    · simp [hk, beq_eq_false_iff_ne.2 hk]

end Knows

end Service

namespace Loop

/-- What happens to a service: a namespace is made, one is registered under a name, or the loop
moves. -/
inductive Deed where
  | make (n : Namespace)
  | register (name : String) (id : Nat)
  | move (m : Move)

def registering (l : Loop) (name : String) (id : Nat) : Journaled (Except Fault Service) :=
  l.service.assignName name id (((l.service.get? id).map Namespace.label).getD "")

def act (l : Loop) : Deed → Loop
  | .make n => { l with service := (l.service.adopt n).1 }
  | .register name id =>
    { l with service := ((l.registering name id).value.toOption).getD l.service }.write
      (l.registering name id).entries
  | .move m => l.move m

def live (l : Loop) (ds : List Deed) : Loop := ds.foldl act l

@[simp] theorem live_nil (l : Loop) : l.live [] = l := rfl

@[simp] theorem live_cons (l : Loop) (d : Deed) (ds : List Deed) :
    l.live (d :: ds) = (l.act d).live ds := rfl

def made (ds : List Deed) : List Namespace :=
  ds.filterMap fun
    | .make n => some n
    | .register _ _ | .move _ => none

def registrations (ds : List Deed) : List (String × Nat) :=
  ds.filterMap fun
    | .register name id => some (name, id)
    | .make _ | .move _ => none

section Act
variable (l : Loop)

theorem register_taken {name : String} (h : name ∈ l.service.nameList) (id : Nat) :
    l.act (.register name id) = l := by
  simp [act, registering, Service.assignName_taken h, Except.toOption, write]

theorem register_new {name : String} (h : name ∉ l.service.nameList) (id : Nat) :
    (l.act (.register name id)).service =
      { l.service with names := l.service.names.insert name id } := by
  simp [act, registering, Service.assignName_new h, Except.toOption, write]

theorem move_names (m : Move) : (l.move m).service.names = l.service.names := l.run_names [m]

theorem move_origins (m : Move) :
    (l.move m).service.namespaces.map Namespace.origin =
      l.service.namespaces.map Namespace.origin := by
  refine List.ext_getElem? fun id => ?_
  rw [List.getElem?_map, List.getElem?_map]
  refine move_map (fun n n' h => ?_) (fun _ => rfl) (fun n b background clock p => ?_) l m id
  · obtain ⟨hname, hstore, -⟩ := Namespace.core_eq_iff.1 h
    rw [Namespace.origin, Namespace.origin, hname, hstore]
  · obtain ⟨_, _, _, h⟩ := n.turn_eq b background clock p
    rw [h]
    rfl

end Act

theorem knows_act {l : Loop} {ns : List Namespace} {rs : List (String × Nat)}
    (h : l.service.Knows ns rs) (d : Deed) :
    (l.act d).service.Knows (ns ++ made [d]) (rs ++ registrations [d]) := by
  cases d with
  | make n =>
    simp only [made, registrations, List.filterMap_cons, List.filterMap_nil, List.append_nil]
    exact h.adopt n
  | register name id =>
    simp only [made, registrations, List.filterMap_cons, List.filterMap_nil, List.append_nil]
    by_cases hm : name ∈ l.service.nameList
    · rw [l.register_taken hm]
      exact h.taken hm id
    · rw [l.register_new hm]
      exact h.new hm id
  | move m =>
    have hn := l.move_names m
    simp only [made, registrations, List.filterMap_cons, List.filterMap_nil, List.append_nil]
    refine ⟨(l.move_origins m).trans h.origins, ?_, fun name => ?_⟩
    · rw [act, Service.nameList, hn]
      exact h.listed
    · rw [act, hn]
      exact h.first name

theorem knows_live {l : Loop} {ns : List Namespace} {rs : List (String × Nat)}
    (h : l.service.Knows ns rs) (ds : List Deed) :
    (l.live ds).service.Knows (ns ++ made ds) (rs ++ registrations ds) := by
  induction ds generalizing l ns rs with
  | nil => simpa [made, registrations] using h
  | cons d ds ih =>
    have hm : made (d :: ds) = made [d] ++ made ds := List.filterMap_append (l := [d])
    have hr : registrations (d :: ds) = registrations [d] ++ registrations ds :=
      List.filterMap_append (l := [d])
    rw [live_cons, hm, hr, ← List.append_assoc, ← List.append_assoc]
    exact ih (knows_act h d)

/-- What a service knows after a history: the namespaces that were made, each name once in the
order in which it was given first, and under each name the namespace that it was given to then.
A name that is taken cannot be given again, and the attempt leaves everything as it is; a new one
can be given to any namespace, be it made for that. -/
structure Registry (l : Loop) (ds : List Deed) : Prop where
  origins : l.service.namespaces.map Namespace.origin = (made ds).map Namespace.origin
  listed : l.service.nameList = ((registrations ds).map Prod.fst).eraseDups
  found : ∀ name id, (registrations ds).lookup name = some id → l.service.find name = .ok id
  unknown : ∀ name, name ∉ (registrations ds).map Prod.fst →
    l.service.find name = .error (.unknownNamespace name)
  taken : ∀ name, name ∈ l.service.nameList → (Fault.namespaceTaken name).isValueFault ∧
    (∀ id, (l.registering name id).value = .error (.namespaceTaken name) ∧
      l.act (.register name id) = l) ∧
    ∀ n, (l.service.register name n).value = .error (.namespaceTaken name)
  new : ∀ name, name ∉ l.service.nameList →
    (∀ id, (l.registering name id).value = .ok (l.act (.register name id)).service) ∧
    ∀ n, (l.service.register name n).value =
      .ok (l.live [.make n, .register name l.service.namespaces.length]).service

theorem registry_of_knows {l : Loop} {ds : List Deed}
    (h : l.service.Knows (made ds) (registrations ds)) : Registry l ds := by
  refine ⟨h.origins, h.listed, fun name id hid => ?_, fun name hn => ?_, fun name hm => ?_,
    fun name hm => ?_⟩
  · rw [Service.find, h.first, hid]
  · have hl : (registrations ds).lookup name = none :=
      Option.not_isSome_iff_eq_none.1 fun hs => hn (h.mem_iff.1 (h.lookup_isSome_iff.1 hs))
    rw [Service.find, h.first, hl]
  · refine ⟨rfl, fun id => ⟨?_, l.register_taken hm id⟩, fun n => ?_⟩
    · rw [registering, Service.assignName_taken hm]
      rfl
    · exact congrArg Journaled.value (Service.assignName_taken (s := (l.service.adopt n).1) hm ..)
  · refine ⟨fun id => ?_, fun n => ?_⟩
    · rw [l.register_new hm, registering, Service.assignName_new hm]
    · rw [live_cons, live_cons, live_nil, register_new (l.act (.make n)) hm]
      exact congrArg Journaled.value (Service.assignName_new (s := (l.service.adopt n).1) hm ..)

theorem registry (world : World) (clock : Float) (ds : List Deed) :
    Registry ((start .empty world clock).live ds) ds :=
  registry_of_knows (knows_live (l := start .empty world clock) .empty ds)

end Loop

end LiveConfig
