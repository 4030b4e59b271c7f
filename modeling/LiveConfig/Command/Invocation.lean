import LiveConfig.Command.Line
import LiveConfig.Text.Integer
set_option autoImplicit false

/-! The commands of the program and how a line asks for one. -/
namespace LiveConfig.Command

inductive Action where
  | platform
  | resolve (type : String) (name : Option String)
  | showAll (name : Option String) (reveal : Bool)
  | serve (host : String) (port : Int)
  deriving DecidableEq, Repr

structure Invocation where
  logLevel : Option String
  action : Action
  deriving DecidableEq, Repr

/-- What a line comes to: a command, a request for help, a mistake, or nothing at all. -/
inductive Request where
  | run (i : Invocation)
  | help
  | mistaken
  | nothing
  deriving DecidableEq, Repr

def helpFlag : Flag := ⟨["-h", "--help"], false⟩

def levels : List String := ["debug", "info", "warning", "error"]

def mainGrammar : Grammar := ⟨[helpFlag, ⟨["--log-level"], true⟩], [.rest]⟩
def platformGrammar : Grammar := ⟨[helpFlag], []⟩
def resolveGrammar : Grammar := ⟨[helpFlag], [.one, .optional]⟩
def showGrammar : Grammar := ⟨[helpFlag, ⟨["--namespace", "-n"], true⟩, ⟨["--reveal"], false⟩], []⟩
def serveGrammar : Grammar := ⟨[helpFlag, ⟨["--host"], true⟩, ⟨["--port", "-p"], true⟩], []⟩

inductive Halt where
  | help
  | mistake
  deriving DecidableEq, Repr

/-- Acts on events in order. The first flag of every grammar asks for help. -/
def follow {σ : Type} (act : σ → Event → Option σ) : σ → List Event → Except Halt σ
  | s, [] => .ok s
  | _, .flag 0 _ :: _ => .error .help
  | s, e :: rest =>
    match act s e with
    | some s => follow act s rest
    | none => .error .mistake

/-- Acts on a line of which nothing may be left over or lacking. -/
def interpret {σ : Type} (g : Grammar) (act : σ → Event → Option σ) (s : σ) (line : List String) :
    Except Halt σ :=
  let reading := g.read line
  match follow act s reading.events with
  | .error h => .error h
  | .ok s =>
    match reading.ending with
    | .complete [] false => .ok s
    | _ => .error .mistake

def platformCommand (line : List String) : Except Halt Action :=
  (interpret platformGrammar (fun s _ => some s) () line).map fun _ => .platform

def resolveCommand (line : List String) : Except Halt Action :=
  (interpret resolveGrammar
    (fun (s : String × Option String) e =>
      match e with
      | .positional 0 values => some (values.headD "", s.2)
      | .positional _ values => some (s.1, values.head?)
      | _ => some s)
    ("", none) line).map fun s => .resolve s.1 s.2

def showCommand (line : List String) : Except Halt Action :=
  (interpret showGrammar
    (fun (s : Option String × Bool) e =>
      match e with
      | .flag 1 value => some (value, s.2)
      | .flag _ _ => some (s.1, true)
      | _ => some s)
    (none, false) line).map fun s => .showAll s.1 s.2

/-- The port has to be an integer. -/
def serveCommand (line : List String) : Except Halt Action :=
  (interpret serveGrammar
    (fun (s : String × Int) e =>
      match e with
      | .flag 1 value => some (value.getD "", s.2)
      | .flag _ value => (Text.readInteger (value.getD "")).map (s.1, ·)
      | _ => some s)
    ("127.0.0.1", 18800) line).map fun s => .serve s.1 s.2

def commandOf : List String → Except Halt Action
  | "platform" :: line => platformCommand line
  | "resolve" :: line => resolveCommand line
  | "show" :: line => showCommand line
  | "serve" :: line => serveCommand line
  | _ => .error .mistake

structure General where
  logLevel : Option String
  command : Option (Except Halt Action)

/-- Acts on the general flags. The level has to be one of the known ones, and a command that
cannot be acted on ends the line. -/
def General.act (s : General) : Event → Option General
  | .flag _ value => if value.getD "" ∈ levels then some { s with logLevel := value } else none
  | .positional _ values => some { s with command := some (commandOf values) }

/-- Reads a line. The words of a command are read when they are met. -/
def Request.ofLine (line : List String) : Request :=
  let reading := mainGrammar.read line
  match follow General.act ⟨none, none⟩ reading.events with
  | .error .help => .help
  | .error .mistake => .mistaken
  | .ok ⟨_, some (.error .help)⟩ => .help
  | .ok ⟨_, some (.error .mistake)⟩ => .mistaken
  | .ok ⟨level, command⟩ =>
    match reading.ending, command with
    | .complete [] _, some (.ok c) => .run ⟨level, c⟩
    | .complete [] _, none => .nothing
    | _, _ => .mistaken

end LiveConfig.Command
