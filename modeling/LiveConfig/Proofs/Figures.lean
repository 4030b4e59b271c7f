import LiveConfig.Proofs.Denotation
import LiveConfig.Proofs.Lifetime
set_option autoImplicit false

/-!
The two integers among the settings, the port of the cache and the refresh interval, are had from
any text. Both readers go by the integer that the text denotes and have a default for a text that
denotes none: a port is always one that can be connected to, and an interval is never zero or
negative.
-/
namespace LiveConfig
open Text

def Journaled.Warned {α : Type} (x : Journaled α) (n : Notice) : Prop :=
  x.entries = [.said n] ∧ n.level = .warning

namespace CacheAddress

/-- What is read where a port is expected: the port that the text denotes, and else the default,
which is not taken without a warning unless there is no text. -/
structure PortRead (raw : Option String) (port : Journaled Nat) : Prop where
  range : 1 ≤ port.value ∧ port.value ≤ 65535
  denoted : ∀ text ∈ raw, ∀ z, Denotes text z → 1 ≤ z → z ≤ 65535 →
    (port.value : Int) = z ∧ port.entries = []
  refused : ∀ text ∈ raw, text ≠ "" → (∀ z, Denotes text z → ¬(1 ≤ z ∧ z ≤ 65535)) →
    port.value = 6379 ∧ port.Warned (.invalidPort text)
  missing : raw = none ∨ raw = some "" → port.value = 6379 ∧ port.entries = []

theorem readPort_of_missing {raw : Option String} (h : raw = none ∨ raw = some "") :
    readPort raw = pure 6379 := by
  obtain rfl | rfl := h <;> rfl

theorem readPort_of_denotes {text : String} {z : Int} (h : Denotes text z) (hlow : 1 ≤ z)
    (hhigh : z ≤ 65535) : readPort (some text) = pure z.toNat := by
  have hfilter : (some text).filter (· ≠ "") = some text := by simp [h.ne_empty]
  simp only [readPort, hfilter, readTrimmedInteger_eq_some_iff.2 h]
  exact if_pos ⟨by omega, by omega⟩

theorem readPort_of_refused {text : String} (hne : text ≠ "")
    (h : ∀ z, Denotes text z → ¬(1 ≤ z ∧ z ≤ 65535)) :
    readPort (some text) = (do Journaled.say (.invalidPort text); pure 6379) := by
  have hfilter : (some text).filter (· ≠ "") = some text := by simp [hne]
  simp only [readPort, hfilter]
  cases hread : readTrimmedInteger text with
  | none => rfl
  | some z =>
    have hz := h z (readTrimmedInteger_eq_some_iff.1 hread)
    exact if_neg (by omega)

/-- There are three ways for a port to be read. -/
theorem readPort_cases (raw : Option String) : (raw = none ∨ raw = some "") ∨
    ∃ text, raw = some text ∧ text ≠ "" ∧ ((∃ z, Denotes text z ∧ 1 ≤ z ∧ z ≤ 65535) ∨
      ∀ z, Denotes text z → ¬(1 ≤ z ∧ z ≤ 65535)) := by
  cases raw with
  | none => exact .inl (.inl rfl)
  | some text =>
    by_cases hne : text = ""
    · exact .inl (.inr (congrArg some hne))
    · refine .inr ⟨text, rfl, hne, ?_⟩
      by_cases h : ∃ z, Denotes text z ∧ 1 ≤ z ∧ z ≤ 65535
      · exact .inl h
      · exact .inr fun z hz hrange => h ⟨z, hz, hrange⟩

theorem portRead (raw : Option String) : PortRead raw (readPort raw) where
  range := by
    obtain h | ⟨text, rfl, hne, ⟨z, hz, hlow, hhigh⟩ | h⟩ := readPort_cases raw
    · simp [readPort_of_missing h]
    · rw [readPort_of_denotes hz hlow hhigh, Journaled.value_pure]
      omega
    · simp [readPort_of_refused hne h]
  denoted text htext z hz hlow hhigh := by
    cases htext
    rw [readPort_of_denotes hz hlow hhigh]
    exact ⟨Int.toNat_of_nonneg (by omega), rfl⟩
  refused text htext hne h := by
    cases htext
    rw [readPort_of_refused hne h]
    exact ⟨rfl, rfl, rfl⟩
  missing h := by
    rw [readPort_of_missing h]
    exact ⟨rfl, rfl⟩

end CacheAddress

namespace Settings

/-- What is read where an interval is set: the integer that the text denotes when it is positive,
no refreshing when it is not, and the default with a warning when there is no such integer. -/
structure IntervalRead (raw : String) (settings : Journaled Settings) : Prop where
  positive : ∀ ms, Denotes raw ms → 0 < ms →
    settings.value.interval = some ms ∧ settings.entries = []
  never : ∀ ms, Denotes raw ms → ms ≤ 0 →
    settings.value.interval = none ∧ settings.entries = []
  refused : (∀ ms, ¬Denotes raw ms) →
    settings.value.interval = some 30000 ∧ settings.Warned (.invalidInterval raw)

theorem readInterval_of_denotes {raw : String} {ms : Int} (h : Denotes raw ms) :
    readInterval raw = pure (if ms ≤ 0 then none else some ms) := by
  rw [readInterval, readTrimmedInteger_eq_some_iff.2 h]

theorem readInterval_of_refused {raw : String} (h : ∀ ms, ¬Denotes raw ms) :
    readInterval raw = (do Journaled.say (.invalidInterval raw); pure (some 30000)) := by
  rw [readInterval, readTrimmedInteger_eq_none_iff.2 h]
  rfl

/-- Of all settings only the interval can be worth a warning. -/
theorem ofEnvironment_of_interval {env : Environment} {raw : String}
    (h : env.get? intervalVariable = some raw) :
    (ofEnvironment env).value.interval = (readInterval raw).value ∧
      (ofEnvironment env).entries = (readInterval raw).entries := by
  simp [ofEnvironment, h]

theorem intervalRead {env : Environment} {raw : String}
    (h : env.get? intervalVariable = some raw) : IntervalRead raw (ofEnvironment env) := by
  obtain ⟨hvalue, hentries⟩ := ofEnvironment_of_interval h
  refine ⟨fun ms hms hpos => ?_, fun ms hms hneg => ?_, fun hnone => ?_⟩
  · rw [hvalue, hentries, readInterval_of_denotes hms, if_neg (by omega)]
    exact ⟨rfl, rfl⟩
  · rw [hvalue, hentries, readInterval_of_denotes hms, if_pos hneg]
    exact ⟨rfl, rfl⟩
  · rw [Journaled.Warned, hvalue, hentries, readInterval_of_refused hnone]
    exact ⟨rfl, rfl, rfl⟩

theorem interval_pos {env : Environment} {ms : Int}
    (h : (ofEnvironment env).value.interval = some ms) : 0 < ms := by
  cases hset : env.get? intervalVariable with
  | none =>
    obtain ⟨-, hi⟩ | ⟨-, hi⟩ := ofEnvironment_interval hset
    · cases hi.symm.trans h
    · cases hi.symm.trans h
      decide
  | some raw =>
    have hread := intervalRead hset
    by_cases hdenotes : ∃ z, Denotes raw z
    · obtain ⟨z, hz⟩ := hdenotes
      by_cases hpos : 0 < z
      · cases (hread.positive z hz hpos).1.symm.trans h
        exact hpos
      · cases (hread.never z hz (by omega)).1.symm.trans h
    · cases (hread.refused (not_exists.1 hdenotes)).1.symm.trans h
      decide

end Settings

/-- The integers among the settings are read from any text. A text denotes one integer at most, and
none when it has more than 4300 digits; a decimal text that is not too long is read as its number,
whatever blanks are around it. -/
structure Figures : Prop where
  unique : ∀ (text : String) (y z : Int), Denotes text y → Denotes text z → y = z
  limited : ∀ (text : String) (z : Int), Denotes text z → digitCount text.toList ≤ 4300
  port : ∀ raw, CacheAddress.PortRead raw (CacheAddress.readPort raw)
  interval : ∀ (env : Environment) (raw : String),
    env.get? Settings.intervalVariable = some raw →
      Settings.IntervalRead raw (Settings.ofEnvironment env)
  /-- Whether it is set or not, an interval is neither zero nor negative. -/
  positive : ∀ (env : Environment) (ms : Int),
    (Settings.ofEnvironment env).value.interval = some ms → 0 < ms
  portText : ∀ before after : String,
    (∀ c ∈ before.toList ++ after.toList, isBlank c = true) → ∀ p : Nat, 1 ≤ p → p ≤ 65535 →
      CacheAddress.readPort (some (before ++ toString p ++ after)) = pure p
  intervalText : ∀ before after : String,
    (∀ c ∈ before.toList ++ after.toList, isBlank c = true) →
      ∀ n : Nat, 0 < n → (toString n).length ≤ 4300 → ∀ env : Environment,
        env.get? Settings.intervalVariable = some (before ++ toString n ++ after) →
          (Settings.ofEnvironment env).value.interval = some (n : Int) ∧
            (Settings.ofEnvironment env).entries = []

theorem figures : Figures where
  unique _ _ _ := Denotes.unique
  limited _ _ := Denotes.digitCount_le
  port := CacheAddress.portRead
  interval _ _ := Settings.intervalRead
  positive _ _ := Settings.interval_pos
  portText before after hpad p hlow hhigh := by
    have hlength : (toString p).length ≤ 5 := by
      rw [Nat.toString_eq_ofList_toDigits, String.length_ofList]
      exact Nat.toDigits_length 10 p 5 (by decide) (by omega)
    have hdenotes : Denotes (before ++ toString p ++ after) p :=
      denotes_padded hpad (by omega)
    exact CacheAddress.readPort_of_denotes hdenotes (by omega) (by omega)
  intervalText before after hpad n hpos hlength env hset :=
    (Settings.intervalRead hset).positive n (denotes_padded hpad hlength) (by omega)

def mingled : String := "\x1c+\u0666_3\uff180\u3000"

theorem denotes_mingled : Denotes mingled 6380 := by
  have hnumeral : Numeral ['\u0666', '_', '3', '\uff18', '0'] [6, 3, 8, 0] :=
    .spaced ⟨0x660, by decide, by decide, by decide⟩
      (.next ⟨0x30, by decide, by decide, by decide⟩
        (.next ⟨0xFF10, by decide, by decide, by decide⟩
          (.last ⟨0x30, by decide, by decide, by decide⟩)))
  have hblank : ∀ c ∈ ['\x1c', '\u3000'], isBlank c = true :=
    List.forall_mem_cons.2 ⟨by decide, List.forall_mem_singleton.2 (by decide)⟩
  exact ⟨['\x1c'], _, ['\u3000'], by decide, hblank, .plus ⟨_, hnumeral, by decide, by decide⟩⟩

def intervalOf (raw : String) : Environment := .ofList [(Settings.intervalVariable, raw)]

theorem figures_mingled :
    ((CacheAddress.readPort (some mingled)).value = 6380 ∧
      (CacheAddress.readPort (some mingled)).entries = []) ∧
    (CacheAddress.readPort (some "70000")).Warned (.invalidPort "70000") ∧
    CacheAddress.readPort (some ("\t" ++ toString 65535 ++ "\x1f")) = pure 65535 ∧
    (Settings.ofEnvironment (intervalOf mingled)).value.interval = some 6380 ∧
    (Settings.ofEnvironment (intervalOf "-\u0660")).value.interval = none ∧
    (Settings.ofEnvironment (intervalOf "soon")).Warned (.invalidInterval "soon") := by
  have hport := (figures.port (some mingled)).denoted mingled rfl 6380 denotes_mingled
    (by decide) (by decide)
  have hbeyond : ∀ z, Denotes "70000" z → ¬(1 ≤ z ∧ z ≤ 65535) := by
    intro z hz
    have hread : readTrimmedInteger "70000" = some 70000 := by decide
    have hsame := figures.unique "70000" z 70000 hz (readTrimmedInteger_eq_some_iff.1 hread)
    omega
  have hblank : ∀ c ∈ "\t".toList ++ "\x1f".toList, isBlank c = true :=
    List.forall_mem_cons.2 ⟨by decide, List.forall_mem_singleton.2 (by decide)⟩
  have hset : ∀ raw, (intervalOf raw).get? Settings.intervalVariable = some raw := by
    intro raw
    simp [intervalOf, Table.get?_ofList]
  have hzero : Denotes "-\u0660" 0 := readTrimmedInteger_eq_some_iff.1 (by decide)
  have hsoon : ∀ ms, ¬Denotes "soon" ms := readTrimmedInteger_eq_none_iff.1 (by decide)
  refine ⟨⟨Int.ofNat.inj hport.1, hport.2⟩, ?_, ?_, ?_, ?_, ?_⟩
  · exact ((figures.port (some "70000")).refused "70000" rfl (by decide) hbeyond).2
  · exact figures.portText "\t" "\x1f" hblank 65535 (by decide) (by decide)
  · exact ((figures.interval _ _ (hset _)).positive 6380 denotes_mingled (by decide)).1
  · exact ((figures.interval _ _ (hset _)).never 0 hzero (by decide)).1
  · exact ((figures.interval _ _ (hset _)).refused hsoon).2

end LiveConfig
