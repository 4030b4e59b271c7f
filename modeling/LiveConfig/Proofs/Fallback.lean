import LiveConfig.Proofs.Extension
import LiveConfig.Proofs.Overlap
set_option autoImplicit false

/-!
Whole fetches through the extension. A snapshot that the extension gives is the outcome; after most
failures one fetch of the fallback is, from its first turn to its last.
-/
namespace LiveConfig.Backend

section Fetches
variable (w : World) (visit : Nat) (storeId : String)

/-- A whole fetch: turns until one ends it. Between two of them the test double behind the backend
may be changed from outside. -/
inductive Fetches : Backend → Stage → Backend → Except Fault Snapshot → List Entry → Prop where
  | ends {b b' : Backend} {stage : Stage} {outcome : Except Fault Snapshot} {entries : List Entry}
      (turn : b.advance w visit stage storeId = ⟨(b', .ends outcome), entries⟩) :
      Fetches b stage b' outcome entries
  | waits {b b₁ b' : Backend} {stage next : Stage} {outcome : Except Fault Snapshot}
      {entries entries' : List Entry} (change : Scripted → Scripted)
      (turn : b.advance w visit stage storeId = ⟨(b₁, .waits next), entries⟩)
      (rest : Fetches (b₁.onDouble change) next b' outcome entries') :
      Fetches b stage b' outcome (entries ++ entries')

end Fetches

section Extension
variable {w : World} {x : Extension} {fallback : Backend} {visit : Nat} {storeId : String}

theorem advance_served {s : Snapshot} (h : (x.attempt w storeId).value = .ok s) :
    (Backend.extension x fallback).advance w visit .arriving storeId =
      ⟨(.extension x fallback, .ends (.ok s)), (x.attempt w storeId).entries⟩ := by
  rw [advance, if_pos rfl]
  cases ha : x.attempt w storeId with
  | mk value entries =>
    rw [ha] at h
    cases h
    simp [bind, pure]

theorem advance_escaped {f : Fault} (h : (x.attempt w storeId).value = .error f)
    (hf : Extension.fallsBack f = false) :
    (Backend.extension x fallback).advance w visit .arriving storeId =
      ⟨(.extension x fallback, .ends (.error f)), (x.attempt w storeId).entries⟩ := by
  rw [advance, if_pos rfl]
  cases ha : x.attempt w storeId with
  | mk value entries =>
    rw [ha] at h
    cases h
    simp [bind, pure, hf]

variable (x) in
def around (before : List Entry) (turn : Journaled (Backend × Progress)) :
    Journaled (Backend × Progress) :=
  ⟨(.extension x turn.value.1, turn.value.2), before ++ turn.entries⟩

theorem advance_handed {f : Fault} (h : (x.attempt w storeId).value = .error f)
    (hf : Extension.fallsBack f = true) :
    (Backend.extension x fallback).advance w visit .arriving storeId =
      around x ((x.attempt w storeId).entries ++ [.said (.extensionFailed storeId f.text)])
        (fallback.advance w visit .arriving storeId) := by
  rw [advance, if_pos rfl]
  cases ha : x.attempt w storeId with
  | mk value entries =>
    rw [ha] at h
    cases h
    simp [bind, pure, hf, Journaled.say, around]

theorem advance_later {stage : Stage} (h : stage ≠ .arriving) :
    (Backend.extension x fallback).advance w visit stage storeId =
      around x [] (fallback.advance w visit stage storeId) := by
  rw [advance, if_neg h]
  simp [bind, pure, around]

/-- When the first turn is one of the fallback, all turns are. -/
theorem fetches_around {before : List Entry} {stage : Stage}
    (h : (Backend.extension x fallback).advance w visit stage storeId =
      around x before (fallback.advance w visit stage storeId))
    {b' : Backend} {outcome : Except Fault Snapshot} {entries : List Entry} :
    Fetches w visit storeId (.extension x fallback) stage b' outcome entries ↔
      ∃ fallback' entries', b' = .extension x fallback' ∧ entries = before ++ entries' ∧
        Fetches w visit storeId fallback stage fallback' outcome entries' := by
  have hne := fallback.advance_ne_arriving w visit stage storeId
  constructor
  · intro hfetch
    generalize hb : Backend.extension x fallback = b at hfetch
    induction hfetch generalizing fallback before with
    | ends turn =>
      subst hb
      rw [h, around] at turn
      simp only [Journaled.mk.injEq, Prod.mk.injEq] at turn
      obtain ⟨⟨rfl, hp⟩, rfl⟩ := turn
      exact ⟨_, _, rfl, rfl, .ends (by rw [← hp])⟩
    | waits change turn rest ih =>
      subst hb
      rw [h, around] at turn
      simp only [Journaled.mk.injEq, Prod.mk.injEq] at turn
      obtain ⟨⟨rfl, hp⟩, rfl⟩ := turn
      rw [hp] at hne
      have hnext : _ ≠ Stage.arriving := fun he => hne (congrArg Progress.waits he)
      obtain ⟨fallback', entries', rfl, rfl, hrest⟩ :=
        ih (advance_later hnext) (advance_ne_arriving _ _ _ _ _) rfl
      exact ⟨fallback', _, rfl, List.append_assoc .., .waits change (by rw [← hp]) hrest⟩
  · rintro ⟨fallback', entries', rfl, rfl, hfetch⟩
    induction hfetch generalizing before with
    | ends turn =>
      rw [turn] at h
      exact .ends h
    | waits change turn rest ih =>
      rw [turn] at h hne
      have hnext : _ ≠ Stage.arriving := fun he => hne (congrArg Progress.waits he)
      rw [← List.append_assoc]
      exact .waits change h (ih (advance_later hnext) (advance_ne_arriving _ _ _ _ _))

theorem fetches_of_ends {b b₁ : Backend} {stage : Stage} {o : Except Fault Snapshot}
    {es : List Entry} (h : b.advance w visit stage storeId = ⟨(b₁, .ends o), es⟩) {b' : Backend}
    {outcome : Except Fault Snapshot} {entries : List Entry} :
    Fetches w visit storeId b stage b' outcome entries ↔
      b' = b₁ ∧ outcome = o ∧ entries = es := by
  constructor
  · intro hfetch
    cases hfetch with
    | ends turn => cases h.symm.trans turn; exact ⟨rfl, rfl, rfl⟩
    | waits change turn rest => cases h.symm.trans turn
  · rintro ⟨rfl, rfl, rfl⟩
    exact .ends h

end Extension

/-- What a fetch through the extension comes to. A snapshot that the attempt gives is the outcome,
and the fallback is left alone. After a failure the outcome is that of one fetch of the fallback for
the same store, and nothing else is done but to say so; only a failure that escapes is itself the
outcome, and the fallback is left alone again. -/
structure Fallback (w : World) (x : Extension) (fallback : Backend) (visit : Nat)
    (storeId : String) : Prop where
  served : ∀ s, (x.attempt w storeId).value = .ok s → ∀ b' outcome entries,
    Fetches w visit storeId (.extension x fallback) .arriving b' outcome entries ↔
      b' = .extension x fallback ∧ outcome = .ok s ∧ entries = (x.attempt w storeId).entries
  handed : ∀ f, (x.attempt w storeId).value = .error f → ¬Extension.Escapes w x storeId →
    ∀ b' outcome entries,
      Fetches w visit storeId (.extension x fallback) .arriving b' outcome entries ↔
        ∃ fallback' entries', b' = .extension x fallback' ∧
          entries = (x.attempt w storeId).entries ++ [.said (.extensionFailed storeId f.text)] ++
            entries' ∧
          Fetches w visit storeId fallback .arriving fallback' outcome entries'
  escaped : ∀ f, (x.attempt w storeId).value = .error f → Extension.Escapes w x storeId →
    ∀ b' outcome entries,
      Fetches w visit storeId (.extension x fallback) .arriving b' outcome entries ↔
        b' = .extension x fallback ∧ outcome = .error f ∧ entries = (x.attempt w storeId).entries

theorem extension_fetch (w : World) (x : Extension) (fallback : Backend) (visit : Nat)
    (storeId : String) : Fallback w x fallback visit storeId := by
  refine ⟨fun s h _ _ _ => fetches_of_ends (advance_served h), fun f h he _ _ _ => ?_,
    fun f h he _ _ _ => ?_⟩
  · have hf : Extension.fallsBack f = true := by
      rw [← Bool.not_eq_false, Extension.attempt_fallsBack h]
      exact he
    exact fetches_around (advance_handed h hf)
  · exact fetches_of_ends (advance_escaped h ((Extension.attempt_fallsBack h).2 he))

def ready : Backend :=
  .scripted (.fresh .none false
    (.ofList [.ok (Table.empty.insert (Text.codePoints "FROM") (Text.codePoints "fallback"))]))

def strictWorld : World := { World.offline with address := strictAddress }

/-- A fallback that is ready is not asked when the port of the extension is no number: the fetch
fails with what the fallback would never have failed with. -/
theorem extension_fetch_invalid_port : strictWorld.HttpLaws ∧ ∀ w : World, w.HttpLaws → ¬∀ f,
    ((Extension.mk "abc" "t").attempt w "s").value = .error f → ∀ b' outcome entries,
      Fetches w 0 "s" (.extension ⟨"abc", "t"⟩ ready) .arriving b' outcome entries →
        ∃ fallback' entries',
          Fetches w 0 "s" ready .arriving fallback' outcome entries' := by
  refine ⟨.of_strict rfl rfl, fun w laws hclaim => ?_⟩
  obtain ⟨message, haddress⟩ := laws.letters ⟨"abc", "t"⟩ (by decide) (by simp)
  have ha : ((Extension.mk "abc" "t").attempt w "s").value =
      .error (.remote (.transport (.invalidAddress message))) := by
    rw [Extension.attempt, haddress]
    rfl
  obtain ⟨fallback', entries', hfetch⟩ := hclaim _ ha _ _ _ (.ends (advance_escaped ha rfl))
  have hready : ready.advance w 0 .arriving "s" = ⟨(_, .ends (.ok
      (Table.empty.insert (Text.codePoints "FROM") (Text.codePoints "fallback")))), []⟩ := rfl
  cases ((fetches_of_ends hready).1 hfetch).2.1

end LiveConfig.Backend
