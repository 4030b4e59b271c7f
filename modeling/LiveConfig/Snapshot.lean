import LiveConfig.Bytes.Encoding
import LiveConfig.Fault.Basic
import LiveConfig.Json.Parser
import LiveConfig.Json.Printer
set_option autoImplicit false

/-! Snapshots: the settings of one store as texts under keys, read from a JSON object. -/
namespace LiveConfig
open Text (CodePoint Points)

abbrev Snapshot := Table Points Points

/-- What a store hands over: text, or bytes whose encoding is to be found out. -/
inductive Payload where
  | text (points : Points)
  | bytes (bs : List UInt8)
  deriving DecidableEq, Repr

def Payload.json (levels : Nat) (p : Payload) : Except Cause Json :=
  match p with
  | .text points => (Json.ofText levels points).mapError .json
  | .bytes bs =>
    match Bytes.decodePayload bs with
    | .ok points => (Json.ofCodePoints levels points).mapError .json
    | .error flaw => .error (.encoding flaw)

/-- Only faults of the text are faults of the store; a number that is too long is passed on, and so
is nesting that goes too deep. -/
def Cause.asFault (storeId : String) : Cause → Fault
  | .json (.tooManyDigits count) => .json (.tooManyDigits count)
  | .json (.tooDeep work) => .json (.tooDeep work)
  | .json f => .fetch ⟨.decode, storeId, "invalid JSON: " ++ f.message, some (.json f)⟩
  | .encoding f => .fetch ⟨.decode, storeId, "invalid JSON: " ++ f.message, some (.encoding f)⟩
  | .remote f => .remote f

namespace Snapshot

/-- Strings are taken as they are, other values as their JSON text. -/
def ofMembers (members : List (Points × Json)) : Snapshot :=
  .ofList (members.map fun m => (m.1, m.2.plainText))

/-- An object makes a snapshot unless one of its values is too deep to be written. -/
def ofJson (levels : Nat) (storeId : String) : Json → Except Fault Snapshot
  | .obj members =>
    if ∀ m ∈ members, m.2.depth ≤ levels then .ok (ofMembers members)
    else .error (.json (.tooDeep .writing))
  | v => .error (.fetch ⟨.decode, storeId, "expected a JSON object, got " ++ v.kindName, none⟩)

def ofPayload (room : Json.Room) (storeId : String) (p : Payload) : Except Fault Snapshot :=
  match p.json room.reading with
  | .ok v => ofJson room.writing storeId v
  | .error cause => .error (cause.asFault storeId)

end Snapshot

end LiveConfig
