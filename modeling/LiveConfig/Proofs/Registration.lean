import LiveConfig.Settings
set_option autoImplicit false

/-!
What building a service comes to. It has one namespace for each binding, in their order and under
their names, unless two of them have one name: then it is not built.
-/
namespace LiveConfig.Service

def spaceOf (s : Surroundings) (platform : Platform) (interval : Option Int) (b : Binding) :
    Namespace :=
  .fresh (Backend.select s platform b.kind).value b.storeId interval (some b.name)

/-- The service has these namespaces under these names, in this order, and nothing else. -/
structure Holds (service : Service) (spaces : List (String × Namespace)) : Prop where
  namespaces : service.namespaces = spaces.map Prod.snd
  names : service.names.entries = (spaces.map Prod.fst).zipIdx

namespace Holds
variable {service : Service} {spaces : List (String × Namespace)}

theorem empty : Service.empty.Holds [] := ⟨rfl, rfl⟩

theorem nameList (h : service.Holds spaces) : service.nameList = spaces.map Prod.fst := by
  rw [Service.nameList, Table.keys, h.names, List.zipIdx_map_fst]

theorem nodup (h : service.Holds spaces) : (spaces.map Prod.fst).Nodup :=
  h.nameList ▸ service.names.distinct

theorem length (h : service.Holds spaces) :
    service.nameList.length = service.namespaces.length := by
  rw [h.nameList, h.namespaces, List.length_map, List.length_map]

theorem get? (h : service.Holds spaces) (id : Nat) :
    service.get? id = (spaces[id]?).map Prod.snd := by
  rw [Service.get?, h.namespaces, List.getElem?_map]

/-- A name stands where its namespace does. -/
theorem fst_of_find (h : service.Holds spaces) {name : String} {id : Nat}
    (hf : service.find name = .ok id) : (spaces.map Prod.fst)[id]? = some name := by
  rw [find] at hf
  split at hf
  · next hg =>
    cases hf
    have hm := service.names.mem_of_get? hg
    rwa [h.names, List.mem_zipIdx_iff_getElem?] at hm
  · cases hf

/-- Whatever has a name is the namespace of that name. -/
theorem get?_of_find (h : service.Holds spaces) {name : String} {id : Nat}
    (hf : service.find name = .ok id) : ∃ n, service.get? id = some n ∧ (name, n) ∈ spaces := by
  have hm := h.fst_of_find hf
  rw [List.getElem?_map, Option.map_eq_some_iff] at hm
  obtain ⟨⟨label, n⟩, he, rfl⟩ := hm
  exact ⟨n, by rw [h.get?, he]; rfl, List.mem_of_getElem? he⟩

end Holds

theorem register_taken {service : Service} {name : String} (h : name ∈ service.nameList)
    (n : Namespace) : (service.register name n).value = .error (.namespaceTaken name) := by
  have hc := (service.names.contains_eq_true_iff name).2 h
  simp [register, adopt, assignName, hc]

theorem register_new {service : Service} {spaces : List (String × Namespace)}
    (h : service.Holds spaces) {name : String} (hn : name ∉ service.nameList) (n : Namespace) :
    ∃ service', (service.register name n).value = .ok service' ∧
      service'.Holds (spaces ++ [(name, n)]) := by
  have hc : service.names.contains name = false := by
    rw [← Bool.not_eq_true, service.names.contains_eq_true_iff]
    exact hn
  refine ⟨_, by simp [register, adopt, assignName, hc]; rfl, ?_, ?_⟩
  · simp [h.namespaces]
  · have hl : service.namespaces.length = spaces.length := by rw [h.namespaces, List.length_map]
    simp [Table.entries_insert hn, h.names, hl, List.zipIdx_append]

/-- Up to the first name that is taken, each binding gets its namespace. -/
theorem addBindings_cases (s : Surroundings) (platform : Platform) (interval : Option Int)
    {service : Service} {spaces : List (String × Namespace)} (h : service.Holds spaces)
    (bs : List Binding) :
    (∃ service', (addBindings s platform interval service bs).value = .ok service' ∧
        service'.Holds (spaces ++ bs.map fun b => (b.name, spaceOf s platform interval b))) ∨
      ∃ before b after, bs = before ++ b :: after ∧
        b.name ∈ spaces.map Prod.fst ++ before.map Binding.name ∧
        (addBindings s platform interval service bs).value = .error (.namespaceTaken b.name) := by
  induction bs generalizing service spaces with
  | nil => exact .inl ⟨service, rfl, by simpa using h⟩
  | cons b bs ih =>
    by_cases hn : b.name ∈ service.nameList
    · right
      refine ⟨[], b, bs, rfl, by simpa [h.nameList] using hn, ?_⟩
      simp [addBindings, register_taken hn]
    · obtain ⟨service', hr, h'⟩ := register_new h hn (spaceOf s platform interval b)
      have hadd : (addBindings s platform interval service (b :: bs)).value =
          (addBindings s platform interval service' bs).value := by
        rw [spaceOf] at hr
        simp [addBindings, hr]
      obtain ⟨built, hb, hh⟩ | ⟨before, c, after, hbs, hc, hb⟩ := ih h'
      · exact .inl ⟨built, hadd.trans hb, by simpa using hh⟩
      · exact .inr ⟨b :: before, c, after, by rw [hbs, List.cons_append], by simpa using hc,
          hadd.trans hb⟩

/-- A service is built from bindings of different names; from others it is not, and the fault tells
a name that is taken. -/
theorem build_cases (s : Surroundings) (settings : Settings) :
    ((settings.bindings.map Binding.name).Nodup ∧
      ∃ service, (build s settings).value = .ok service ∧ service.Holds (settings.bindings.map
        fun b => (b.name, spaceOf s settings.platform settings.interval b))) ∨
    ∃ name, 2 ≤ (settings.bindings.map Binding.name).count name ∧
      (build s settings).value = .error (.namespaceTaken name) := by
  obtain ⟨service, hb, h⟩ | ⟨before, b, after, hbs, hmem, hb⟩ :=
    addBindings_cases s settings.platform settings.interval Holds.empty settings.bindings
  · refine .inl ⟨?_, service, hb, h⟩
    have hn := h.nodup
    rwa [List.nil_append, List.map_map] at hn
  · refine .inr ⟨b.name, ?_, hb⟩
    have hpos : 0 < (before.map Binding.name).count b.name := List.count_pos_iff.2 hmem
    rw [hbs, List.map_append, List.map_cons, List.count_append, List.count_cons_self]
    omega

theorem holds_of_build {s : Surroundings} {settings : Settings} {service : Service}
    (hb : (build s settings).value = .ok service) : service.Holds (settings.bindings.map
      fun b => (b.name, spaceOf s settings.platform settings.interval b)) := by
  obtain ⟨-, built, hbuilt, h⟩ | ⟨name, -, hf⟩ := build_cases s settings
  · cases hb.symm.trans hbuilt
    exact h
  · cases hb.symm.trans hf

end LiveConfig.Service
