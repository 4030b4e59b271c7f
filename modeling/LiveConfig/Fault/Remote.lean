import LiveConfig.Text.Quoted
set_option autoImplicit false

/-! Faults that remote services and their clients report, and their texts. -/
namespace LiveConfig

/-- A refusal by a cloud service, with the text that its client shows for it. -/
structure ServiceFault where
  code : Option String
  message : Option String
  text : String
  deriving DecidableEq, Repr

/-- A fault of the cloud client itself: no answer of the service was seen. The label is the name
that the client gives to others than those of credentials. -/
inductive ClientFault where
  | noCredentials (text : String)
  | partialCredentials (text : String)
  | other (label text : String)
  deriving DecidableEq, Repr

def ClientFault.text : ClientFault → String
  | .noCredentials text | .partialCredentials text | .other _ text => text

/-- A fault of the cache client; the label is the name that the client gives to others. -/
inductive CacheFault where
  | authentication (message : String)
  | cluster (message : String)
  | other (label message : String)
  deriving DecidableEq, Repr

def CacheFault.text : CacheFault → String
  | .authentication message | .cluster message | .other _ message => message

inductive TransportFault where
  | invalidAddress (message : String)
  | badStatus (message : String)
  | other (label message : String)
  deriving DecidableEq, Repr

def TransportFault.text : TransportFault → String
  | .invalidAddress message | .badStatus message | .other _ message => message

/-- Kinds of faults that no service declares. -/
inductive ForeignKind where
  | state
  | value
  | encoding
  | type
  | key
  | attribute
  | system
  deriving DecidableEq, Repr

/-- A text that cannot be encoded is a value that cannot be used. -/
def ForeignKind.isValue : ForeignKind → Bool
  | .value | .encoding => true
  | _ => false

structure ForeignFault where
  kind : ForeignKind
  message : String
  deriving DecidableEq, Repr

/-- A missing key is shown in quotes. -/
def ForeignFault.text (f : ForeignFault) : String :=
  match f.kind with
  | .key => Text.quoted f.message
  | _ => f.message

inductive RemoteFault where
  | service (fault : ServiceFault)
  | client (fault : ClientFault)
  | cache (fault : CacheFault)
  | transport (fault : TransportFault)
  | foreign (fault : ForeignFault)
  deriving DecidableEq, Repr

def RemoteFault.text : RemoteFault → String
  | .service f => f.text
  | .client f => f.text
  | .cache f => f.text
  | .transport f => f.text
  | .foreign f => f.text

end LiveConfig
