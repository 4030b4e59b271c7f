import LiveConfig.Container
import LiveConfig.Loop
import LiveConfig.Settings
set_option autoImplicit false

/-!
The layer through which requests pass. The first that gets so far reads the settings, builds the
service and puts it into its container; all later ones pass straight on.
-/
namespace LiveConfig

/-- What the layer has once it is wired: the settings, and the service in its loop, with its number
among the services that the layer has built. -/
structure Wired where
  settings : Settings
  number : Nat
  loop : Loop

structure Layer where
  wired : Option Wired
  /-- How many services have been built, those among them that no container took. -/
  built : Nat

/-- What a request has done when what follows it is called: the layer and the container after it, or
the fault that it has failed with before. -/
structure Entered where
  layer : Layer
  container : Container
  outcome : Except Fault Unit

/-- What became of a request: the layer and the container after it, whether the request got
through to what follows, and its outcome. -/
structure Handled (α : Type) where
  layer : Layer
  container : Container
  passed : Bool
  outcome : Except Fault α

namespace Layer

def serviceToken : String := "ConfigService"

def fresh : Layer := ⟨none, 0⟩

def isWired (l : Layer) : Bool := l.wired.isSome

/-- Reads the settings, builds the service and registers it. The service has its number, but neither
it nor the settings are kept unless all of it succeeds. -/
def wire (l : Layer) (s : Surroundings) (w : World) (clock : Float) (c : Container) :
    Journaled Entered := do
  let settings ← Settings.ofEnvironment s.environment
  match ← Service.build s settings with
  | .error f => pure ⟨l, c, .error f⟩
  | .ok service =>
    match ← c.register serviceToken (.service l.built) with
    | .error f => pure ⟨{ l with built := l.built + 1 }, c, .error f⟩
    | .ok c => do
      Journaled.say (.layerReady settings.platform.token service.nameList settings.interval)
      pure ⟨⟨some ⟨settings, l.built, .start service w clock⟩, l.built + 1⟩, c, .ok ()⟩

/-- The stretch of a request up to where what follows it is called. Nothing comes in between: of
requests side by side, one finds the layer wired or wires it. -/
def enter (l : Layer) (s : Surroundings) (w : World) (clock : Float) (c : Container) :
    Journaled Entered :=
  match l.wired with
  | some _ => pure ⟨l, c, .ok ()⟩
  | none => l.wire s w clock c

/-- Handles a request that is followed by something with the given outcome. -/
def handle {α : Type} (l : Layer) (s : Surroundings) (w : World) (clock : Float) (c : Container)
    (next : Except Fault α) : Journaled (Handled α) := do
  let entered ← l.enter s w clock c
  match entered.outcome with
  | .error f => pure ⟨entered.layer, entered.container, false, .error f⟩
  | .ok () => pure ⟨entered.layer, entered.container, true, next⟩

/-- Moves the loop of a wired layer on. -/
def onLoop (l : Layer) (f : Loop → Loop) : Layer :=
  { l with wired := l.wired.map fun w => { w with loop := f w.loop } }

/-- The service that an item of a container is, if it is the one that the layer was wired with. -/
def service? (l : Layer) : Item → Option Wired
  | .service number => l.wired.filter (·.number = number)
  | .plain _ | .closable _ => none

end Layer

end LiveConfig
