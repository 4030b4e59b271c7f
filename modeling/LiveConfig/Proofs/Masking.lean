import LiveConfig.Proofs.Showing
set_option autoImplicit false

/-!
Masking. What is shown without revealing values is made of names and keys alone: in two worlds that
hold other values under the same keys, showing prints the same text and ends alike.
-/
namespace LiveConfig.Command
open Text (CodePoint Points)

def SameKeys (s s' : Snapshot) : Prop := ∀ key, key ∈ s.keys ↔ key ∈ s'.keys

def Alike (w w' : World) (service : Service) (name : String) : Prop :=
  ∃ s s', Yields w service name (.ok s) ∧ Yields w' service name (.ok s') ∧ SameKeys s s'

theorem Ascends.pairwise_keys {s : Snapshot} {es : List (Points × Points)} (h : Ascends s es) :
    (es.map Prod.fst).Pairwise fun a b => a.map CodePoint.toNat < b.map CodePoint.toNat :=
  List.pairwise_map.2 h.sorted

/-- One set of keys ascends in one way only. -/
theorem SameKeys.ascending {s s' : Snapshot} (h : SameKeys s s') {es es' : List (Points × Points)}
    (he : Ascends s es) (he' : Ascends s' es') : es.map Prod.fst = es'.map Prod.fst := by
  have hkeys : s.keys.Perm s'.keys := (List.perm_ext_iff_of_nodup s.distinct s'.distinct).2 h
  have hperm : (es.map Prod.fst).Perm (es'.map Prod.fst) :=
    (he.perm.map Prod.fst).trans (hkeys.trans (he'.perm.map Prod.fst).symm)
  exact hperm.eq_of_pairwise (fun _ _ _ _ hab hba => absurd hba (List.lt_asymm hab))
    he.pairwise_keys he'.pairwise_keys

/-- Masked lines have no more than the keys. -/
theorem masked_lines (name : String) (s : Snapshot) : ∃ es, Ascends s es ∧
    namespaceLines false name s = Text.codePoints ("[" ++ name ++ "]") ::
      (es.map Prod.fst).map fun key =>
        key ++ Text.codePoints "=" ++ Text.codePoints "********" := by
  obtain ⟨es, he, hs⟩ := namespaceLines_eq false name s
  refine ⟨es, he, hs.trans ?_⟩
  rw [List.map_map]
  rfl

theorem SameKeys.namespaceLines_eq {s s' : Snapshot} (h : SameKeys s s') (name : String) :
    namespaceLines false name s = namespaceLines false name s' := by
  obtain ⟨es, he, hs⟩ := masked_lines name s
  obtain ⟨es', he', hs'⟩ := masked_lines name s'
  rw [hs, hs', h.ascending he he']

section Two
variable {w w' : World} {service : Service}

/-- Worlds that are alike for all names have all of them, and with the same masked lines. -/
theorem gathers_of_alike {names : List String} (h : ∀ n ∈ names, Alike w w' service n) :
    ∃ shown shown', Gathers w service names shown ∧ Gathers w' service names shown' ∧
      sheets false shown = sheets false shown' := by
  induction names with
  | nil =>
    exact ⟨[], [], ⟨rfl, fun _ he => absurd he List.not_mem_nil⟩,
      ⟨rfl, fun _ he => absurd he List.not_mem_nil⟩, rfl⟩
  | cons name names ih =>
    obtain ⟨s, s', hy, hy', hkeys⟩ := h name List.mem_cons_self
    obtain ⟨shown, shown', hg, hg', hsheets⟩ := ih fun n hn => h n (List.mem_cons_of_mem _ hn)
    refine ⟨(name, s) :: shown, (name, s') :: shown', hg.cons hy, hg'.cons hy', ?_⟩
    rw [sheets, sheets, List.flatMap_cons, List.flatMap_cons, hkeys.namespaceLines_eq name]
    exact congrArg (namespaceLines false name s' ++ ·) hsheets

end Two

/-- Showing without revealing tells two worlds apart by the keys that they hold, and by nothing
else: what is printed, the complaint and the exit code do not depend on the values. -/
theorem masking {console : Console} {env : Environment} {name : Option String} {w w' : World}
    (alike : ∀ service, serviceOf env = .ok service →
      ∀ n ∈ requested service name, Alike w w' service n) :
    ∃ r, (runShow console env w name false).value = .ok r ∧
      (runShow console env w' name false).value = .ok r := by
  cases hb : serviceOf env with
  | error f => exact ⟨_, (runShow_of_unbuilt hb).2, (runShow_of_unbuilt hb).2⟩
  | ok service =>
    obtain ⟨shown, shown', hg, hg', hsheets⟩ := gathers_of_alike (alike service hb)
    by_cases hn : requested service name = []
    · exact ⟨_, runShow_of_none hb hn, runShow_of_none hb hn⟩
    · have hne : shown ≠ [] := fun h => hn (hg.names.symm.trans (h ▸ rfl))
      have hne' : shown' ≠ [] := fun h => hn (hg'.names.symm.trans (h ▸ rfl))
      exact ⟨_, runShow_of_gathers hb hg hne, hsheets ▸ runShow_of_gathers hb hg' hne'⟩

def parameterStore : Environment :=
  .ofList [("CELERITY_PLATFORM", "aws"), ("CELERITY_CONFIG_STORE_ID", "/app"),
    ("CELERITY_CONFIG_STORE_KIND", "parameter-store")]

def onePage (ps : List Parameter) : World :=
  { Contents.empty with parameters := Table.empty.insert "/app/" [.ok ps] }.world

def annsPage : List Parameter :=
  [⟨some (Text.codePoints "/app/USER"), some (Text.codePoints "ann")⟩,
    ⟨some (Text.codePoints "/app/PASSWORD"), some (Text.codePoints "one")⟩]

def bobsPage : List Parameter :=
  [⟨some (Text.codePoints "/app/PASSWORD"), some (Text.codePoints "two")⟩,
    ⟨some (Text.codePoints "/app/USER"), some [.surrogate 0]⟩]

/-- The keys stand in another order, and have other values. One of these is no text that the console
could take. -/
theorem masking_parameters :
    (∀ service, serviceOf parameterStore = .ok service → ∀ n ∈ requested service none,
      Alike (onePage annsPage) (onePage bobsPage) service n) ∧
    ∃ r, (runShow .utf8 parameterStore (onePage annsPage) none false).value = .ok r ∧
      (runShow .utf8 parameterStore (onePage bobsPage) none false).value = .ok r := by
  have alike : ∀ service, serviceOf parameterStore = .ok service →
      ∀ n ∈ requested service none, Alike (onePage annsPage) (onePage bobsPage) service n := by
    intro service hb n hn
    cases hb
    cases List.mem_singleton.1 hn
    refine ⟨_, _, .fetched rfl rfl (.ends rfl), .fetched rfl rfl (.ends rfl), fun key => ?_⟩
    exact (List.Perm.swap (Text.codePoints "PASSWORD") (Text.codePoints "USER") []).mem_iff
  exact ⟨alike, masking alike⟩

end LiveConfig.Command
