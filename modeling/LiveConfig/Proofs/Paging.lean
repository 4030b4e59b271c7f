import Mathlib.Data.List.Nodup
import LiveConfig.Proofs.Agreement
set_option autoImplicit false

/-!
Parameters come in pages, and how they are spread over them does not matter: a snapshot is made of
all parameters one after another, or not at all. Under the path of the store, different parameters
have different keys.
-/
namespace LiveConfig
open Text (Points codePoints)

namespace Parameter

def complete? (p : Parameter) : Option (Points × Points) :=
  p.name.bind fun name => p.value.map (name, ·)

/-- What follows the path in a name that begins with it; else the whole name. -/
def keyUnder (path : String) (name : Points) : Points :=
  if codePoints path <+: name then name.drop (codePoints path).length else name

def enter (path : String) (s : Snapshot) (p : Parameter) : Snapshot :=
  match p.name, p.value with
  | some name, some value => s.insert (keyUnder path name) value
  | _, _ => s

theorem keyUnder_append (path : String) (rest : Points) :
    keyUnder path (codePoints path ++ rest) = rest := by
  simp [keyUnder]

theorem keyUnder_eq (path : String) (name : Points) :
    (Text.afterStart? (codePoints path) name).getD name = keyUnder path name := by
  cases h : Text.afterStart? (codePoints path) name with
  | some rest =>
    rw [Text.afterStart?_eq_some.1 h, keyUnder_append]
    rfl
  | none =>
    have hn : ¬codePoints path <+: name := by
      rintro ⟨rest, hrest⟩
      cases h.symm.trans (Text.afterStart?_eq_some.2 hrest.symm)
    simp [keyUnder, hn]

def keyed (path : String) (e : Points × Points) : Points × Points := (keyUnder path e.1, e.2)

theorem pair?_eq (path : String) (p : Parameter) :
    pair? path p = p.complete?.map (keyed path) := by
  obtain ⟨name, value⟩ := p
  cases name <;> cases value <;> simp [pair?, complete?, keyed, keyUnder_eq]

theorem snapshot_eq_foldl (path : String) (ps : List Parameter) :
    snapshot path ps = ps.foldl (enter path) .empty := by
  rw [snapshot, Table.ofList, List.foldl_filterMap]
  congr 1
  funext s p
  obtain ⟨name, value⟩ := p
  cases name <;> cases value <;> simp [pair?, enter, keyUnder_eq]

theorem snapshot_eq_ofList (path : String) (ps : List Parameter) :
    snapshot path ps = .ofList ((ps.filterMap complete?).map (keyed path)) := by
  rw [snapshot, List.map_filterMap]
  congr 2
  funext p
  exact pair?_eq path p

theorem lookup_map {κ α β : Type} [DecidableEq κ] (g : α → κ) (f : α → β) (l : List α) (k : κ) :
    (l.map fun a => (g a, f a)).lookup k = (l.find? (g · = k)).map f := by
  induction l with
  | nil => rfl
  | cons a l ih =>
    by_cases h : g a = k
    · simp [h]
    · simpa [h, List.lookup_cons, beq_eq_false_iff_ne.2 (Ne.symm h)] using ih

theorem get?_snapshot (path : String) (ps : List Parameter) (key : Points) :
    (snapshot path ps).get? key =
      ((ps.filterMap complete?).reverse.find? (keyUnder path ·.1 = key)).map Prod.snd := by
  rw [snapshot_eq_ofList, Table.get?_ofList, ← List.map_reverse]
  exact lookup_map _ Prod.snd _ key

/-- Under the path, the names are the keys with the path before them. -/
theorem entries_snapshot {path : String} {ps : List Parameter}
    (hunder : ∀ e ∈ ps.filterMap complete?, ∃ rest, e.1 = codePoints path ++ rest)
    (hnodup : ((ps.filterMap complete?).map Prod.fst).Nodup) :
    (snapshot path ps).entries.map (fun e => (codePoints path ++ e.1, e.2)) =
      ps.filterMap complete? := by
  rw [snapshot_eq_ofList]
  generalize ps.filterMap complete? = l at hunder hnodup
  have hname : ∀ e ∈ l, codePoints path ++ (keyed path e).1 = e.1 := fun e he => by
    obtain ⟨rest, hrest⟩ := hunder e he
    rw [keyed, hrest, keyUnder_append]
  have hnames : ((l.map (keyed path)).map Prod.fst).map (codePoints path ++ ·) =
      l.map Prod.fst := by
    simpa using hname
  have hkeys : ((l.map (keyed path)).map Prod.fst).Nodup :=
    List.Nodup.of_map (codePoints path ++ ·) (hnames ▸ hnodup)
  rw [Table.entries_ofList hkeys, List.map_map]
  refine (List.map_congr_left fun e he => ?_).trans (List.map_id l)
  exact Prod.ext (hname e he) rfl

theorem gather_ok (pages : List (List Parameter)) :
    gather (pages.map .ok) = .ok pages.flatten := by
  induction pages with
  | nil => rfl
  | cons page pages ih => simp [gather, ih, Except.map]

theorem gather_error (pages : List (List Parameter)) (f : RemoteFault) (rest : List Page) :
    gather (pages.map .ok ++ .error f :: rest) = .error f := by
  induction pages with
  | nil => rfl
  | cons page pages ih => simp [gather, ih, Except.map]

/-- Pages are read to the end, or to the first fault. -/
theorem pages_cases (ps : List Page) : (∃ pages : List (List Parameter), ps = pages.map .ok) ∨
    ∃ (pages : List (List Parameter)) (f : RemoteFault) (rest : List Page),
      ps = pages.map .ok ++ .error f :: rest := by
  induction ps with
  | nil => exact .inl ⟨[], rfl⟩
  | cons p ps ih =>
    cases p with
    | error f => exact .inr ⟨[], f, ps, rfl⟩
    | ok page =>
      obtain ⟨pages, rfl⟩ | ⟨pages, f, rest, rfl⟩ := ih
      · exact .inl ⟨page :: pages, rfl⟩
      · exact .inr ⟨page :: pages, f, rest, rfl⟩

/-- A store named with a slash at its end is asked for by its name, any other with a slash added. -/
theorem pathOf_slash (stem : String) : pathOf (stem ++ "/") = stem ++ "/" := by
  have h : Text.dropEnd? "/" (stem ++ "/") = some stem := Text.dropEnd?_eq_some.2 rfl
  simp [pathOf, h]

theorem pathOf_open {storeId : String} (h : ∀ stem, storeId ≠ stem ++ "/") :
    pathOf storeId = storeId ++ "/" := by
  have hn : Text.dropEnd? "/" storeId = none :=
    Option.eq_none_iff_forall_ne_some.2 fun stem hs => h stem (Text.dropEnd?_eq_some.1 hs)
  simp [pathOf, hn]

end Parameter

namespace CloudClient
variable {w : World} {c : CloudClient} {storeId : String}

def parameters (w : World) (c : CloudClient) (storeId : String) : Except Fault Snapshot :=
  (c.fetchParameters w storeId).value.2

theorem parameters_of_pages (h : c.Usable w) {pages : List (List Parameter)}
    (hp : w.pages (Parameter.pathOf storeId) = pages.map .ok) :
    c.parameters w storeId =
      .ok (Parameter.snapshot (Parameter.pathOf storeId) pages.flatten) := by
  simp [parameters, fetchParameters, acquire_ok h, hp, Parameter.gather_ok]

theorem parameters_of_fault (h : c.Usable w) {pages : List (List Parameter)} {f : RemoteFault}
    {rest : List Page}
    (hp : w.pages (Parameter.pathOf storeId) = pages.map .ok ++ .error f :: rest) :
    c.parameters w storeId = .error (f.asCloudFault storeId) := by
  simp [parameters, fetchParameters, acquire_ok h, hp, Parameter.gather_error]

/-- The slash at the end of a name makes no difference but in what faults are blamed on. -/
theorem fetchParameters_slash (h : ∀ stem, storeId ≠ stem ++ "/") :
    (c.fetchParameters w (storeId ++ "/")).entries = (c.fetchParameters w storeId).entries ∧
      ∀ s, c.parameters w (storeId ++ "/") = .ok s ↔ c.parameters w storeId = .ok s := by
  simp only [parameters, fetchParameters, Parameter.pathOf_slash, Parameter.pathOf_open h,
    Journaled.entries_bind, Journaled.value_bind]
  cases (c.acquire w .parameters).value.2 with
  | error f => simp
  | ok _ => cases Parameter.gather (w.pages (storeId ++ "/")) <;> simp

theorem exchanges_of_usable (h : c.Usable w) :
    (c.fetchParameters w storeId).entries.filterMap Entry.exchange? =
      (if c.made then [] else [.clientMade "ssm" c.region]) ++
        [.paginatorMade "get_parameters_by_path", .pagesAsked (Parameter.pathOf storeId)] := by
  have hclient : (c.acquire w .parameters).entries.filterMap Entry.exchange? =
      if c.made then [] else [.clientMade "ssm" c.region] := by
    rw [acquire]
    split
    · simp
    · next hm => simp [h.resolve_left hm, Journaled.ask, Entry.exchange?, CloudService.token]
  simp only [fetchParameters, Journaled.entries_bind, acquire_ok h, List.filterMap_append, hclient]
  cases Parameter.gather (w.pages (Parameter.pathOf storeId)) <;>
    simp [Journaled.ask, Journaled.say, Entry.exchange?]

/-- What fetching the parameters of a store comes to. If no page fails, the snapshot has all
complete parameters, written one after another whatever pages they come in: the last of a key stays,
and if all names are different and under the path, each makes one setting, under the name without
the path. If a page fails there is no snapshot. -/
structure Paging (w : World) (c : CloudClient) (storeId : String) : Prop where
  fetched : ∀ visit stage, ((Backend.parameters c).advance w visit stage storeId).value.2 =
    .ends (c.parameters w storeId)
  kept : ∀ stem, storeId = stem ++ "/" → Parameter.pathOf storeId = storeId
  closed : (∀ stem, storeId ≠ stem ++ "/") → Parameter.pathOf storeId = storeId ++ "/"
  asked : (c.fetchParameters w storeId).entries.filterMap Entry.exchange? =
    (if c.made then [] else [.clientMade "ssm" c.region]) ++
      [.paginatorMade "get_parameters_by_path", .pagesAsked (Parameter.pathOf storeId)]
  folded : ∀ pages : List (List Parameter), w.pages (Parameter.pathOf storeId) = pages.map .ok →
    c.parameters w storeId =
      .ok (pages.flatten.foldl (Parameter.enter (Parameter.pathOf storeId)) .empty)
  regrouped : ∀ (w' : World) (c' : CloudClient) (pages pages' : List (List Parameter)),
    w.pages (Parameter.pathOf storeId) = pages.map .ok → c'.Usable w' →
    w'.pages (Parameter.pathOf storeId) = pages'.map .ok → pages'.flatten = pages.flatten →
    c'.parameters w' storeId = c.parameters w storeId
  latest : ∀ (pages : List (List Parameter)) (s : Snapshot),
    w.pages (Parameter.pathOf storeId) = pages.map .ok → c.parameters w storeId = .ok s →
    ∀ key, s.get? key = ((pages.flatten.filterMap Parameter.complete?).reverse.find?
      (Parameter.keyUnder (Parameter.pathOf storeId) ·.1 = key)).map Prod.snd
  distinct : ∀ pages : List (List Parameter), w.pages (Parameter.pathOf storeId) = pages.map .ok →
    (∀ e ∈ pages.flatten.filterMap Parameter.complete?,
      ∃ rest, e.1 = codePoints (Parameter.pathOf storeId) ++ rest) →
    ((pages.flatten.filterMap Parameter.complete?).map Prod.fst).Nodup →
    ∃ s, c.parameters w storeId = .ok s ∧
      s.entries.map (fun e => (codePoints (Parameter.pathOf storeId) ++ e.1, e.2)) =
        pages.flatten.filterMap Parameter.complete?
  broken : ∀ (pages : List (List Parameter)) (f : RemoteFault) (rest : List Page),
    w.pages (Parameter.pathOf storeId) = pages.map .ok ++ .error f :: rest → f.isCloud = true →
    c.parameters w storeId =
      .error (.fetch { FetchFault.ofCloud storeId f with cause := some (.remote f) })
  whole : ∀ s, c.parameters w storeId = .ok s →
    ∃ pages : List (List Parameter), w.pages (Parameter.pathOf storeId) = pages.map .ok
  slash : (∀ stem, storeId ≠ stem ++ "/") →
    (c.fetchParameters w (storeId ++ "/")).entries = (c.fetchParameters w storeId).entries ∧
      ∀ s, c.parameters w (storeId ++ "/") = .ok s ↔ c.parameters w storeId = .ok s

theorem paging (h : c.Usable w) (storeId : String) : Paging w c storeId where
  fetched _ _ := rfl
  kept stem hs := by rw [hs, Parameter.pathOf_slash]
  closed := Parameter.pathOf_open
  asked := exchanges_of_usable h
  folded pages hp := by rw [parameters_of_pages h hp, Parameter.snapshot_eq_foldl]
  regrouped w' c' pages pages' hp h' hp' hflat := by
    rw [parameters_of_pages h hp, parameters_of_pages h' hp', hflat]
  latest pages s hp hs key := by
    rw [parameters_of_pages h hp] at hs
    rw [← Except.ok.inj hs, Parameter.get?_snapshot]
  distinct pages hp hunder hnodup :=
    ⟨_, parameters_of_pages h hp, Parameter.entries_snapshot hunder hnodup⟩
  broken pages f rest hp hf := by
    rw [parameters_of_fault h hp, RemoteFault.asCloudFault, if_pos hf]
  whole s hs := by
    obtain hp | ⟨pages, f, rest, hp⟩ := Parameter.pages_cases (w.pages (Parameter.pathOf storeId))
    · exact hp
    · rw [parameters_of_fault h hp] at hs
      cases hs
  slash := fetchParameters_slash

def scattered : World :=
  { World.offline with
    clientFault := none
    pages := fun _ =>
      [.ok [⟨some (codePoints "/app/a"), some (codePoints "1")⟩, ⟨some (codePoints "/app/b"), none⟩],
        .ok [],
        .ok [⟨some (codePoints "/app/db/host"), some (codePoints "h")⟩,
          ⟨some (codePoints "/app/a"), some (codePoints "2")⟩, ⟨some (codePoints "/x"), some []⟩]] }

theorem paging_scattered : (fresh none).Usable scattered ∧
    ∃ s, (fresh none).parameters scattered "/app" = .ok s ∧
      s.entries = [(codePoints "a", codePoints "2"), (codePoints "db/host", codePoints "h"),
        (codePoints "/x", [])] := by
  have husable : (fresh none).Usable scattered := .inr rfl
  have hfolded := (paging husable "/app").folded [_, _, _] rfl
  exact ⟨husable, _, hfolded, by decide⟩

end CloudClient

end LiveConfig
