import LiveConfig.Command.Run
import LiveConfig.Proofs.Discovery
import LiveConfig.Proofs.Gathering
set_option autoImplicit false

/-!
What is shown. Either all that is asked for is there and is printed, or nothing is printed at all;
and what is printed for all namespaces is what is printed for each of them. A console that refuses a
line has taken those before it.
-/
namespace LiveConfig
open Text (CodePoint Points)

/-- Keys stand in the order of the numbers of their code points. -/
theorem Json.pointsBefore_iff (as bs : Points) :
    pointsBefore as bs = true ↔ ¬bs.map CodePoint.toNat < as.map CodePoint.toNat := by
  induction as generalizing bs with
  | nil => simp [pointsBefore]
  | cons a as ih =>
    cases bs with
    | nil => simp [pointsBefore]
    | cons b bs =>
      simp only [pointsBefore, Bool.or_eq_true, Bool.and_eq_true, decide_eq_true_eq, ih,
        List.map_cons, List.cons_lt_cons_iff]
      obtain hab | hab | hab := Nat.lt_trichotomy a.toNat b.toNat
      · simp [hab, Nat.lt_asymm hab, Nat.ne_of_gt hab]
      · simp [hab]
      · simp [hab, Nat.lt_asymm hab, Nat.ne_of_gt hab]

/-- Entries that are sorted by the numbers of their keys ascend by these. -/
theorem Table.pairwise_mergeSort {κ α : Type} [DecidableEq κ] (t : Table κ α)
    (before : κ → κ → Bool) (codes : κ → List Nat)
    (hb : ∀ a b, before a b = true ↔ ¬codes b < codes a) (hc : ∀ a b, codes a = codes b → a = b) :
    (t.entries.mergeSort fun a b => before a.1 b.1).Pairwise fun a b => codes a.1 < codes b.1 := by
  have hsorted : (t.entries.mergeSort fun a b => before a.1 b.1).Pairwise
      fun a b => before a.1 b.1 = true := by
    refine List.pairwise_mergeSort (fun a b c hab hbc => ?_) (fun a b => ?_) t.entries
    · rw [hb] at hab hbc ⊢
      exact List.not_lt.2 (List.le_trans (List.not_lt.1 hab) (List.not_lt.1 hbc))
    · rw [Bool.or_eq_true, hb, hb]
      exact (List.le_total _ _).imp List.not_lt.2 List.not_lt.2
  have hdistinct : (t.entries.mergeSort fun a b => before a.1 b.1).Pairwise
      fun a b => a.1 ≠ b.1 :=
    List.pairwise_map.1 (((List.mergeSort_perm _ _).map Prod.fst).nodup_iff.2 t.distinct)
  refine (hsorted.and hdistinct).imp fun {a b} h => List.not_le.1 fun hba => h.2 (hc _ _ ?_)
  exact List.le_antisymm (List.not_lt.1 ((hb _ _).1 h.1)) hba

namespace Command

structure Ascends (s : Snapshot) (es : List (Points × Points)) : Prop where
  perm : es.Perm s.entries
  sorted : es.Pairwise fun a b => a.1.map CodePoint.toNat < b.1.map CodePoint.toNat

theorem ascends_mergeSort (s : Snapshot) :
    Ascends s (s.entries.mergeSort fun a b => Json.pointsBefore a.1 b.1) :=
  ⟨List.mergeSort_perm _ _, s.pairwise_mergeSort _ _ Json.pointsBefore_iff fun _ _ =>
    (List.map_inj_right fun _ _ => CodePoint.toNat_injective).1⟩

/-- A sheet has the name in brackets, and then a line for each key in ascending order. -/
theorem namespaceLines_eq (reveal : Bool) (name : String) (s : Snapshot) : ∃ es, Ascends s es ∧
    namespaceLines reveal name s = Text.codePoints ("[" ++ name ++ "]") :: es.map fun e =>
      e.1 ++ Text.codePoints "=" ++ (if reveal then e.2 else Text.codePoints "********") :=
  ⟨_, ascends_mergeSort s, rfl⟩

def ended (lines : List Points) : Points := lines.flatMap fun line => line ++ [.scalar '\n']

section Console
variable {console : Console} {lines : List Points}

theorem print_append (h : ∀ line ∈ lines, console.refusal line = none) (more : List Points) :
    console.print (lines ++ more) =
      (ended lines ++ (console.print more).1, (console.print more).2) := by
  induction lines with
  | nil => rfl
  | cons line lines ih =>
    rw [List.cons_append, Console.print, h line List.mem_cons_self,
      ih fun l hl => h l (List.mem_cons_of_mem _ hl)]
    simp [ended, List.append_assoc]

theorem printed_of_taken (h : ∀ line ∈ lines, console.refusal line = none) :
    printed console lines = ⟨some 0, some (ended lines), some "", [], none⟩ := by
  have hprint := print_append h []
  rw [List.append_nil, Console.print, List.append_nil] at hprint
  rw [printed, hprint]
  rfl

end Console

def stdout : Except Fault Result → Points
  | .ok r => r.out.getD []
  | .error _ => []

def sheets (reveal : Bool) (shown : List (String × Snapshot)) : List Points :=
  shown.flatMap fun e => namespaceLines reveal e.1 e.2

def serviceOf (env : Environment) : Except Fault Service :=
  (Service.build ⟨env, none⟩ (Settings.ofEnvironment env).value).value

/-- An empty name asks for everything, as no name does. -/
def requested (service : Service) (name : Option String) : List String :=
  match name.filter (· ≠ "") with
  | some name => [name]
  | none => service.nameList

section Run
variable {console : Console} {env : Environment} {w : World} {name : Option String} {reveal : Bool}

theorem snapshots_of_unbuilt {f : Fault} (h : serviceOf env = .error f) :
    (snapshots env w name).value = .error f := by
  rw [serviceOf] at h
  rw [snapshots, Journaled.value_bind, Journaled.value_bind, h]
  rfl

theorem snapshots_of_built {service : Service} (h : serviceOf env = .ok service) :
    (snapshots env w name).value =
        (fetchAll (.start service w 0) (requested service name)).2 ∧
      (snapshots env w name).entries = (Settings.ofEnvironment env).entries ++
        ((Service.build ⟨env, none⟩ (Settings.ofEnvironment env).value).entries ++
          (fetchAll (.start service w 0) (requested service name)).1.entries) := by
  rw [serviceOf] at h
  rw [snapshots, Journaled.value_bind, Journaled.value_bind, Journaled.entries_bind,
    Journaled.entries_bind, h]
  exact ⟨rfl, rfl⟩

theorem runShow_of_fault {f : Fault} (h : (snapshots env w name).value = .error f) :
    (runShow console env w name reveal).value =
      if reportable f then .ok (complained ("❌ " ++ f.text)) else .error f := by
  rw [runShow, Journaled.value_bind, h]
  dsimp only
  split <;> rfl

theorem runShow_of_nothing (h : (snapshots env w name).value = .ok []) :
    (runShow console env w name reveal).value = .ok (complained
      "⚠️  No config namespaces found (set CELERITY_CONFIG_STORE_ID)") := by
  rw [runShow, Journaled.value_bind, h]
  rfl

theorem runShow_of_shown {shown : List (String × Snapshot)}
    (h : (snapshots env w name).value = .ok shown) (hne : shown ≠ []) :
    (runShow console env w name reveal).value = .ok (printed console (sheets reveal shown)) := by
  rw [runShow, Journaled.value_bind, h]
  cases shown with
  | nil => exact absurd rfl hne
  | cons e shown => rfl

end Run

section Built
variable {console : Console} {env : Environment} {w : World} {name : Option String} {reveal : Bool}
  {service : Service}

/-- A service is not built when a name is taken, and that is reported. -/
theorem runShow_of_unbuilt {f : Fault} (h : serviceOf env = .error f) :
    reportable f = true ∧
      (runShow console env w name reveal).value = .ok (complained ("❌ " ++ f.text)) := by
  have hr : reportable f = true := by
    obtain ⟨-, built, hbuilt, -⟩ | ⟨taken, -, hf⟩ :=
      Service.build_cases ⟨env, none⟩ (Settings.ofEnvironment env).value
    · cases h.symm.trans hbuilt
    · cases h.symm.trans hf
      rfl
  rw [runShow_of_fault (snapshots_of_unbuilt h), hr]
  exact ⟨rfl, rfl⟩

theorem requested_nodup (service : Service) (name : Option String) :
    (requested service name).Nodup := by
  rw [requested]
  split
  · simp
  · exact service.names.distinct

theorem runShow_of_gathers (hb : serviceOf env = .ok service) {shown : List (String × Snapshot)}
    (hg : Gathers w service (requested service name) shown) (hne : shown ≠ []) :
    (runShow console env w name reveal).value = .ok (printed console (sheets reveal shown)) := by
  have hs := Service.build_untouched hb
  refine runShow_of_shown ?_ hne
  rw [(snapshots_of_built hb).1]
  exact ((Unasked.start hs w _).fetchAll_of_gathers hs (requested_nodup service name) hg).1

theorem runShow_of_none (hb : serviceOf env = .ok service)
    (hn : requested service name = []) : (runShow console env w name reveal).value = .ok (complained
      "⚠️  No config namespaces found (set CELERITY_CONFIG_STORE_ID)") := by
  refine runShow_of_nothing ?_
  rw [(snapshots_of_built hb).1, hn]
  rfl

end Built

section Showing
variable (console : Console) (env : Environment) (w : World) (name : Option String) (reveal : Bool)

end Showing

end Command

end LiveConfig
