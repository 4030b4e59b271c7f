import LiveConfig.Snapshot
set_option autoImplicit false

/-! Schemas: what reads a snapshot into another form or refuses it. -/
namespace LiveConfig

inductive FieldValue where
  | text (points : Text.Points)
  | integer (z : Int)
  deriving DecidableEq, Repr

/-- What a schema may make of a snapshot: names, another snapshot, or the fields of a record. -/
inductive Parsed where
  | names (names : List Text.Points)
  | snapshot (s : Snapshot)
  | fields (values : List (String × FieldValue))
  deriving DecidableEq, Repr

abbrev Schema := Snapshot → Except Fault Parsed

end LiveConfig
