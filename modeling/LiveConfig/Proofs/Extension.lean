import LiveConfig.Backend.Extension
set_option autoImplicit false

/-!
What an attempt through the extension can fail with. Faults of payloads are faults of the store or
of values, and another way is tried after them; an address that is invalid, values that are nested
too deeply, and a secret that is neither text nor bytes, are the exceptions.
-/
namespace LiveConfig

theorem Payload.json_ne_remote (levels : Nat) (p : Payload) (f : RemoteFault) :
    p.json levels ≠ .error (.remote f) := by
  cases p with
  | text points => cases h : Json.ofText levels points <;> rw [json, h] <;> exact nofun
  | bytes bs =>
    cases hd : Bytes.decodePayload bs with
    | error flaw => simp [json, hd]
    | ok points =>
      cases h : Json.ofCodePoints levels points <;> simp only [json, hd, h] <;> exact nofun

/-- There is no room to read the payload, or to write one of the values in it. -/
inductive Payload.TooDeep (room : Json.Room) (p : Payload) : Prop where
  | reading (work : Json.Work) (stopped : p.json room.reading = .error (.json (.tooDeep work)))
  | writing (members : List (Text.Points × Json))
      (read : p.json room.reading = .ok (.obj members))
      (deep : ¬∀ m ∈ members, m.2.depth ≤ room.writing)

theorem Snapshot.fallsBack_of_payload {room : Json.Room} {storeId : String} {p : Payload}
    {f : Fault} (h : Snapshot.ofPayload room storeId p = .error f) :
    Extension.fallsBack f = false ↔ p.TooDeep room := by
  rw [ofPayload] at h
  cases hj : p.json room.reading with
  | ok v =>
    rw [hj] at h
    cases v with
    | obj members =>
      dsimp only at h
      rw [ofJson] at h
      split at h
      · cases h
      · next hdeep => cases h; exact ⟨fun _ => .writing members hj hdeep, fun _ => rfl⟩
    | _ =>
      cases h
      refine ⟨nofun, fun hp => ?_⟩
      cases hp with
      | reading work hs => cases hj.symm.trans hs
      | writing members hr => cases hj.symm.trans hr
  | error cause =>
    rw [hj] at h
    cases h
    have hread : p.TooDeep room ↔ ∃ work, cause = .json (.tooDeep work) := by
      constructor
      · intro hp
        cases hp with
        | reading work hs => cases hj.symm.trans hs; exact ⟨work, rfl⟩
        | writing members hr => cases hj.symm.trans hr
      · rintro ⟨work, rfl⟩
        exact .reading work hj
    rw [hread]
    cases cause with
    | json fault =>
      cases fault <;> simp [Cause.asFault, Extension.fallsBack, Fault.isValueFault]
    | encoding flaw => simp [Cause.asFault, Extension.fallsBack]
    | remote fault => exact absurd hj (p.json_ne_remote _ fault)

def Field.isReadable : Field → Bool
  | .json (.str _) | .bytes _ => true
  | .json _ => false

namespace Secret

/-- The field that a snapshot would be taken from holds neither text nor bytes. -/
def Misshapen (s : Secret) : Prop :=
  (s.string.isPresent = true ∧ s.string.isReadable = false) ∨
    (s.string.isPresent = false ∧ s.binary.isPresent = true ∧ s.binary.isReadable = false)

def TooDeep (room : Json.Room) (s : Secret) : Prop :=
  s.string.isPresent = true ∧ ∃ p, s.string.payload = .ok p ∧ p.TooDeep room

end Secret

theorem Field.payload_eq (x : Field) : (∃ p, x.payload = .ok p ∧ x.isReadable = true) ∨
    ∃ kind, x.payload = .error (.payloadNotText kind) ∧ x.isReadable = false := by
  cases x with
  | bytes bs => exact .inl ⟨_, rfl, rfl⟩
  | json v =>
    cases v with
    | str points => exact .inl ⟨_, rfl, rfl⟩
    | _ => exact .inr ⟨_, rfl, rfl⟩

theorem Field.base64_eq (x : Field) : (∃ text, x.base64 = .ok text ∧ x.isReadable = true) ∨
    ∃ kind, x.base64 = .error (.payloadNotBytes kind) ∧ x.isReadable = false := by
  cases x with
  | bytes bs => exact .inl ⟨_, rfl, rfl⟩
  | json v =>
    cases v with
    | str points => exact .inl ⟨_, rfl, rfl⟩
    | _ => exact .inr ⟨_, rfl, rfl⟩

/-- Another way is tried after the fault of a secret, unless its shape or its depth is to blame. -/
theorem Secret.snapshot_fallsBack {room : Json.Room} {s : Secret} {storeId : String} {f : Fault}
    (h : s.snapshot room storeId = .error f) :
    Extension.fallsBack f = false ↔ s.Misshapen ∨ s.TooDeep room := by
  rw [snapshot] at h
  split at h
  · next hs =>
    obtain ⟨p, hp, hr⟩ | ⟨kind, hp, hr⟩ := s.string.payload_eq
    · rw [hp] at h
      rw [Snapshot.fallsBack_of_payload h]
      simp [Misshapen, TooDeep, hs, hr, hp]
    · rw [hp] at h
      cases h
      simp [Extension.fallsBack, Fault.isValueFault, Misshapen, hs, hr]
  · next hs =>
    split at h
    · next hb =>
      obtain ⟨text, ht, -⟩ | ⟨kind, ht, hr⟩ := s.binary.base64_eq
      · rw [ht] at h
        cases h
      · rw [ht] at h
        cases h
        simp [Extension.fallsBack, Fault.isValueFault, Misshapen, hs, hb, hr]
    · cases h

namespace Text

theorem digit_range {c : Char} (h : c.isDigit = true) : 48 ≤ c.toNat ∧ c.toNat < 58 := by
  simp only [Char.isDigit, Bool.and_eq_true, decide_eq_true_eq, UInt32.le_iff_toNat_le,
    ge_iff_le] at h
  exact ⟨h.1, Nat.lt_succ_of_le h.2⟩

theorem digit?_of_isDigit {c : Char} (h : c.isDigit = true) : digit? c = some (c.toNat - 48) := by
  have hc := digit_range h
  simp [digit?, digitZeros, hc]

theorem moreDigits_of_isDigit {cs : List Char} (h : ∀ c ∈ cs, c.isDigit = true) :
    moreDigits cs = some (cs.map fun c => c.toNat - 48) := by
  induction cs with
  | nil => rfl
  | cons c cs ih =>
    have hc := h c List.mem_cons_self
    have hu : c ≠ '_' := by rintro rfl; cases hc
    unfold moreDigits
    split
    · next he => cases he
    · next he => cases he; exact absurd rfl hu
    · next he =>
      cases he
      rw [digit?_of_isDigit hc, ih fun d hd => h d (List.mem_cons_of_mem c hd)]
      rfl

theorem trimBy_of_forall {p : Char → Bool} {cs : List Char} (h : ∀ c ∈ cs, p c = false) :
    trimBy p cs = cs := by
  have hd : ∀ ds : List Char, (∀ c ∈ ds, p c = false) → ds.dropWhile p = ds := by
    intro ds hds
    cases ds with
    | nil => rfl
    | cons c ds => exact List.dropWhile_cons_of_neg (by simp [hds c List.mem_cons_self])
  rw [trimBy, hd cs h, hd cs.reverse (by simpa using h), List.reverse_reverse]

theorem alpha_range {c : Char} (h : c.isAlpha = true) :
    65 ≤ c.toNat ∧ c.toNat < 91 ∨ 97 ≤ c.toNat ∧ c.toNat < 123 := by
  obtain h | h := Bool.or_eq_true_iff.1 h
  · have hc : 'A'.val ≤ c.val ∧ c.val ≤ 'Z'.val := of_decide_eq_true h
    have hle : c.toNat ≤ 90 := UInt32.le_iff_toNat_le.1 hc.2
    exact .inl ⟨UInt32.le_iff_toNat_le.1 hc.1, Nat.lt_succ_of_le hle⟩
  · obtain ⟨ha, hz⟩ := Bool.and_eq_true_iff.1 h
    have hle : c.toNat ≤ 122 := UInt32.le_iff_toNat_le.1 (of_decide_eq_true hz)
    exact .inr ⟨UInt32.le_iff_toNat_le.1 (of_decide_eq_true ha), Nat.lt_succ_of_le hle⟩

theorem isMargin_of_isAlphanum {c : Char} (h : c.isAlphanum = true) : isMargin c = false := by
  have hc : 48 ≤ c.toNat ∧ c.toNat < 123 := by
    obtain ha | hd := Bool.or_eq_true_iff.1 h
    · have hr := alpha_range ha
      omega
    · have hr := digit_range hd
      omega
  simp [isMargin, isBlank, Ranges.holds, blankRanges]
  omega

/-- Where there are neither blanks nor signs, an integer is a natural number. -/
theorem readInteger_of_isAlphanum {text : String} (h : ∀ c ∈ text.toList, c.isAlphanum = true) :
    readInteger text = (natural? text.toList).map Int.ofNat := by
  rw [readInteger, trimBy_of_forall fun c hc => isMargin_of_isAlphanum (h c hc)]
  generalize text.toList = cs at h
  unfold signed?
  split
  · exact absurd (h '+' List.mem_cons_self) (by decide)
  · exact absurd (h '-' List.mem_cons_self) (by decide)
  · rfl

theorem digit?_of_isAlpha {c : Char} (h : c.isAlpha = true) : digit? c = none := by
  have hc := alpha_range h
  have hz : ∀ z ∈ digitZeros, z = 0x30 ∨ 0x660 ≤ z := by decide
  rw [digit?, List.find?_eq_none.2, Option.map_none]
  intro z hm
  have hzero := hz z hm
  simp
  omega

theorem readInteger_of_isAlpha {text : String} (h : ∀ c ∈ text.toList, c.isAlpha = true) :
    readInteger text = none := by
  rw [readInteger_of_isAlphanum fun c hc => Bool.or_eq_true_iff.2 (.inl (h c hc))]
  generalize text.toList = cs at h
  cases cs with
  | nil => rfl
  | cons c cs =>
    rw [natural?, digits?, digit?_of_isAlpha (h c List.mem_cons_self)]
    rfl

end Text

namespace Extension

def isControl (c : Char) : Bool := c.toNat < 0x20 || c.toNat = 0x7F

/-- A port that an address can be made with: it is an integer, or empty, no control character
stands in it, and the address has no more than 65536 characters. -/
structure Addressable (x : Extension) : Prop where
  printable : ∀ c ∈ x.port.toList, isControl c = false
  integer : x.port = "" ∨ (Text.readInteger x.port).isSome
  short : x.baseUrl.length ≤ 65536

theorem baseUrl_eq (x : Extension) : x.baseUrl = "http://localhost:" ++ x.port := by
  rw [baseUrl]
  simp only [toString, host]
  rfl

end Extension

/-- What is relied on of the client of HTTP: integers are ports and letters are none, and a token
that is not sent cannot be encoded or is refused by the transport. -/
structure World.HttpLaws (w : World) : Prop where
  integer : ∀ x : Extension, x.Addressable → ∃ a, w.address x.baseUrl = .ok a
  letters : ∀ x : Extension, x.port ≠ "" → (∀ c ∈ x.port.toList, c.isAlpha = true) →
    ∃ message, w.address x.baseUrl = .error (.transport (.invalidAddress message))
  token : ∀ token f, w.tokenFault token = some f → (∃ message, f = .foreign ⟨.encoding, message⟩) ∨
    ∃ label message, f = .transport (.other label message)

section Strict

def strictAddress (url : String) : Except RemoteFault HttpAddress :=
  match Text.dropStart? "http://localhost:" url with
  | none => .error Contents.noConnection
  | some port =>
    if port = "" ∨ (Text.readInteger port).isSome then
      .ok ⟨"localhost", Text.readInteger port, "/secretsmanager/get"⟩
    else .error (.transport (.invalidAddress ("Invalid port: " ++ Text.quoted port)))

theorem strictAddress_baseUrl (x : Extension) : strictAddress x.baseUrl =
    if x.port = "" ∨ (Text.readInteger x.port).isSome then
      .ok ⟨"localhost", Text.readInteger x.port, "/secretsmanager/get"⟩
    else .error (.transport (.invalidAddress ("Invalid port: " ++ Text.quoted x.port))) := by
  rw [strictAddress, Text.dropStart?_eq_some.2 x.baseUrl_eq]

theorem World.HttpLaws.of_strict {w : World} (ha : w.address = strictAddress)
    (ht : w.tokenFault = fun _ => none) : w.HttpLaws where
  integer x hx := by
    rw [ha, strictAddress_baseUrl, if_pos hx.integer]
    exact ⟨_, rfl⟩
  letters x hne hx := by
    have hport : ¬(x.port = "" ∨ (Text.readInteger x.port).isSome) := by
      rw [Text.readInteger_of_isAlpha hx]
      simpa using hne
    rw [ha, strictAddress_baseUrl, if_neg hport]
    exact ⟨_, rfl⟩
  token token f hf := by rw [ht] at hf; cases hf

end Strict

namespace Extension

structure Sent (w : World) (x : Extension) : Prop where
  address : ∃ a, w.address x.baseUrl = .ok a
  token : w.tokenFault x.sessionToken = none

structure Holds (room : Json.Room) (r : HttpReply) (members : List (Text.Points × Json)) :
    Prop where
  least : 200 ≤ r.status
  most : r.status ≤ 299
  object : Payload.json room.reading (.bytes r.body) = .ok (.obj members)

structure Overnested (room : Json.Room) (r : HttpReply) : Prop where
  least : 200 ≤ r.status
  most : r.status ≤ 299
  stopped : ∃ work, Payload.json room.reading (.bytes r.body) = .error (.json (.tooDeep work))

theorem fallsBack_json (f : Json.Fault) :
    fallsBack (.json f) = false ↔ ∃ work, f = .tooDeep work := by
  cases f <;> simp [fallsBack, Fault.isValueFault]

section Reply
variable {room : Json.Room} {r : HttpReply} {storeId : String} {f : Fault}

/-- A success that holds no object, and that there is room to read, has nothing to be misread. -/
theorem not_misread {o : Except Cause Json} (hj : Payload.json room.reading (.bytes r.body) = o)
    (hread : ∀ work, o ≠ .error (.json (.tooDeep work)))
    (hobject : ∀ members, o ≠ .ok (.obj members)) :
    ¬(Overnested room r ∨ ∃ members, Holds room r members ∧
      ((Secret.ofMembers members).Misshapen ∨ (Secret.ofMembers members).TooDeep room)) := by
  subst hj
  rintro (h | ⟨members, h, -⟩)
  · obtain ⟨work, hw⟩ := h.stopped
    exact hread work hw
  · exact hobject members h.object

theorem readReply_fallsBack (h : readReply room r storeId = .error f) :
    fallsBack f = false ↔ Overnested room r ∨ ∃ members, Holds room r members ∧
      ((Secret.ofMembers members).Misshapen ∨ (Secret.ofMembers members).TooDeep room) := by
  rw [readReply] at h
  split at h
  · next hs =>
    cases h
    refine ⟨nofun, ?_⟩
    rintro (h | ⟨members, h, -⟩) <;> have hleast := h.least <;> have hmost := h.most <;> omega
  · next hs =>
    have hleast : 200 ≤ r.status := by omega
    have hmost : r.status ≤ 299 := by omega
    split at h
    · next fault hj =>
      cases h
      rw [fallsBack_json]
      constructor
      · rintro ⟨work, rfl⟩
        exact .inl ⟨hleast, hmost, work, hj⟩
      · rintro (h | ⟨members, h, -⟩)
        · obtain ⟨work, hw⟩ := h.stopped
          cases hj.symm.trans hw
          exact ⟨work, rfl⟩
        · cases hj.symm.trans h.object
    · next flaw hj =>
      cases h
      exact ⟨nofun, fun hm => absurd hm (not_misread hj (fun _ => nofun) fun _ => nofun)⟩
    · next fault hj => exact absurd hj (Payload.json_ne_remote _ _ fault)
    · next members hj =>
      rw [Secret.snapshot_fallsBack h]
      refine ⟨fun hm => .inr ⟨members, ⟨hleast, hmost, hj⟩, hm⟩, ?_⟩
      rintro (h | ⟨members', h, hm⟩)
      · obtain ⟨work, hw⟩ := h.stopped
        cases hj.symm.trans hw
      · cases hj.symm.trans h.object
        exact hm
    · next v hne hj =>
      cases h
      refine ⟨nofun, fun hm => absurd hm (not_misread hj (fun _ => nofun) fun members hv => ?_)⟩
      cases hv
      exact hne members rfl

end Reply

/-- A fault that an attempt hands on to no other way: it is neither one of transport, an address
that is invalid apart, nor one of values. -/
structure Unhandled (f : RemoteFault) : Prop where
  transport : ∀ t, f = .transport t → ∃ message, t = .invalidAddress message
  value : ∀ g, f = .foreign g → g.kind.isValue = false

theorem fallsBack_remote (f : RemoteFault) : fallsBack (.remote f) = false ↔ Unhandled f := by
  have hfields : Unhandled f ↔ (∀ t, f = .transport t → ∃ message, t = .invalidAddress message) ∧
      ∀ g, f = .foreign g → g.kind.isValue = false := ⟨fun h => ⟨h.1, h.2⟩, fun h => ⟨h.1, h.2⟩⟩
  rw [hfields]
  cases f with
  | transport t => cases t <;> simp [fallsBack]
  | foreign g => simp [fallsBack, Fault.isValueFault]
  | _ => simp [fallsBack, Fault.isValueFault]

/-- The failures of an attempt that nothing else is tried after: unhandled faults of making the
address, of sending the token and of the request, and replies that are nested too deeply or hold a
secret that is, or that is neither text nor bytes. -/
inductive Escapes (w : World) (x : Extension) (storeId : String) : Prop where
  | address (f : RemoteFault) (fault : w.address x.baseUrl = .error f) (unhandled : Unhandled f)
  | token (f : RemoteFault) (address : ∃ a, w.address x.baseUrl = .ok a)
      (fault : w.tokenFault x.sessionToken = some f) (unhandled : Unhandled f)
  | request (sent : x.Sent w) (f : RemoteFault) (fault : w.extension storeId = .error f)
      (unhandled : Unhandled f)
  | nesting (sent : x.Sent w) (r : HttpReply) (reply : w.extension storeId = .ok r)
      (deep : Overnested w.room r)
  | secret (sent : x.Sent w) (r : HttpReply) (reply : w.extension storeId = .ok r)
      (members : List (Text.Points × Json)) (holds : Holds w.room r members)
      (unread : (Secret.ofMembers members).Misshapen ∨
        (Secret.ofMembers members).TooDeep w.room)

section Attempt
variable {w : World} {x : Extension} {storeId : String}

/-- Of the three steps of an attempt, the first that fails decides whether it escapes; after them
the reply does. -/
theorem escapes_iff : Escapes w x storeId ↔
    match w.address x.baseUrl, w.tokenFault x.sessionToken, w.extension storeId with
    | .error f, _, _ | .ok _, some f, _ | .ok _, none, .error f => Unhandled f
    | .ok _, none, .ok r => Overnested w.room r ∨ ∃ members, Holds w.room r members ∧
      ((Secret.ofMembers members).Misshapen ∨ (Secret.ofMembers members).TooDeep w.room) := by
  constructor
  · intro he
    cases he with
    | address f fault unhandled =>
      simp only [fault]
      exact unhandled
    | token f address fault unhandled =>
      obtain ⟨a, ha⟩ := address
      simp only [ha, fault]
      exact unhandled
    | request sent f fault unhandled =>
      obtain ⟨⟨a, ha⟩, ht⟩ := sent
      simp only [ha, ht, fault]
      exact unhandled
    | nesting sent r reply deep =>
      obtain ⟨⟨a, ha⟩, ht⟩ := sent
      simp only [ha, ht, reply]
      exact .inl deep
    | secret sent r reply members holds unread =>
      obtain ⟨⟨a, ha⟩, ht⟩ := sent
      simp only [ha, ht, reply]
      exact .inr ⟨members, holds, unread⟩
  · intro h
    split at h
    · next f ha => exact .address f ha h
    · next a f ha ht => exact .token f ⟨a, ha⟩ ht h
    · next a f ha ht hr => exact .request ⟨⟨a, ha⟩, ht⟩ f hr h
    · next a r ha ht hr =>
      obtain hd | ⟨members, hm, hu⟩ := h
      · exact .nesting ⟨⟨a, ha⟩, ht⟩ r hr hd
      · exact .secret ⟨⟨a, ha⟩, ht⟩ r hr members hm hu

theorem attempt_of_sent (hs : x.Sent w) : (x.attempt w storeId).value =
    match w.extension storeId with
    | .error f => .error (.remote f)
    | .ok reply => readReply w.room reply storeId := by
  obtain ⟨a, ha⟩ := hs.address
  rw [attempt, ha, hs.token]
  cases hr : w.extension storeId <;> simp

theorem attempt_fallsBack {f : Fault} (h : (x.attempt w storeId).value = .error f) :
    fallsBack f = false ↔ Escapes w x storeId := by
  rw [escapes_iff]
  cases ha : w.address x.baseUrl with
  | error fault =>
    rw [attempt, ha] at h
    cases h
    exact fallsBack_remote fault
  | ok a =>
    cases ht : w.tokenFault x.sessionToken with
    | some fault =>
      rw [attempt, ha, ht] at h
      cases h
      exact fallsBack_remote fault
    | none =>
      rw [attempt_of_sent ⟨⟨a, ha⟩, ht⟩] at h
      cases hr : w.extension storeId with
      | error fault =>
        rw [hr] at h
        cases h
        exact fallsBack_remote fault
      | ok reply =>
        rw [hr] at h
        exact readReply_fallsBack h

end Attempt

end Extension

end LiveConfig
