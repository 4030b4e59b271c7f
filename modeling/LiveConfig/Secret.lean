import LiveConfig.Bytes.Base64
import LiveConfig.Snapshot
set_option autoImplicit false

/-!
Secrets as a secret store answers with them: a text that holds a JSON object, or bytes, which
are shown in Base64 under a key of their own.
-/
namespace LiveConfig

/-- A field of an answer. Answers over HTTP hold JSON alone, other clients also give bytes. -/
inductive Field where
  | json (value : Json)
  | bytes (bs : List UInt8)
  deriving Repr

namespace Field

def isPresent : Field → Bool
  | .json v => v.isPresent
  | .bytes bs => !bs.isEmpty

/-- The payload of a text field. -/
def payload : Field → Except Fault Payload
  | .json (.str points) => .ok (.text points)
  | .json v => .error (.payloadNotText v.kindName)
  | .bytes bs => .ok (.bytes bs)

/-- Text is in Base64 already. -/
def base64 : Field → Except Fault Text.Points
  | .json (.str points) => .ok points
  | .json v => .error (.payloadNotBytes v.kindName)
  | .bytes bs => .ok ((Bytes.Base64.encode bs).map .scalar)

end Field

/-- The two fields that carry a secret. -/
structure Secret where
  string : Field
  binary : Field
  deriving Repr

namespace Secret

def stringKey : String := "SecretString"

/-- The key of a binary secret, in answers and in snapshots. -/
def binaryKey : String := "SecretBinary"

def ofMembers (members : List (List Text.CodePoint × Json)) : Secret where
  string := .json ((Json.member? members stringKey).getD .null)
  binary := .json ((Json.member? members binaryKey).getD .null)

/-- The text field is preferred; with neither field the snapshot is empty. -/
def snapshot (room : Json.Room) (s : Secret) (storeId : String) : Except Fault Snapshot :=
  if s.string.isPresent then s.string.payload >>= Snapshot.ofPayload room storeId
  else if s.binary.isPresent then
    s.binary.base64.map fun text => Table.empty.insert (Text.codePoints binaryKey) text
  else .ok .empty

end Secret

end LiveConfig
