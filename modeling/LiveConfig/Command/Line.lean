import LiveConfig.Text.Affix
import LiveConfig.Text.Digit
set_option autoImplicit false

/-!
Command lines: flags and positionals in any order. Long flags may be abbreviated as long as it is
clear what is meant, a value may be joined to its flag, and after a double dash nothing is a flag.
What is read is a list of events; it is for the caller to act on them in order, so that a request
for help comes before a fault behind it.
-/
namespace LiveConfig.Command

/-- How many words a positional takes. The last kind takes all that follows, flags too. -/
inductive Arity where
  | one
  | optional
  | rest
  deriving DecidableEq, Repr

structure Flag where
  names : List String
  valued : Bool
  deriving DecidableEq, Repr

structure Grammar where
  flags : List Flag
  positionals : List Arity
  deriving DecidableEq, Repr

/-- What is written behind a flag in the same word, and whether an equals sign joins it. -/
structure Joined where
  equals : Bool
  value : List Char
  deriving DecidableEq, Repr

/-- What a word of the line is. A flag is known by its place in the grammar. -/
inductive Role where
  | word
  | separator
  | flag (index : Nat) (long : Bool) (joined : Option Joined)
  | unknown
  deriving DecidableEq, Repr

structure Word where
  text : String
  role : Role
  deriving DecidableEq, Repr

def Role.isFlag : Role → Bool
  | .flag _ _ _ | .unknown => true
  | _ => false

inductive Event where
  | flag (index : Nat) (value : Option String)
  | positional (index : Nat) (values : List String)
  deriving DecidableEq, Repr

/-- How reading ends: it breaks off, or words are left over and positionals without a word. -/
inductive Ending where
  | broken
  | complete (extras : List String) (lacking : Bool)
  deriving DecidableEq, Repr

structure Reading where
  events : List Event
  ending : Ending
  deriving DecidableEq, Repr

namespace Grammar

def names (g : Grammar) : List (List Char × Nat) :=
  (g.flags.zipIdx).flatMap fun f => f.1.names.map fun n => (n.toList, f.2)

def named? (g : Grammar) (name : List Char) : Option Nat := g.names.lookup name

def isLong : List Char → Bool
  | '-' :: '-' :: _ => true
  | _ => false

/-- What stands before and after the first equals sign. -/
def splitValue? (cs : List Char) : Option (List Char × List Char) :=
  match cs.dropWhile (· ≠ '=') with
  | _ :: value => some (cs.takeWhile (· ≠ '='), value)
  | [] => none

def candidates (g : Grammar) (cs : List Char) : List Role :=
  match cs with
  | '-' :: '-' :: _ =>
    let (start, value) :=
      match splitValue? cs with
      | some (start, value) => (start, some (Joined.mk true value))
      | none => (cs, none)
    g.names.filterMap fun n => if start.isPrefixOf n.1 then some (.flag n.2 true value) else none
  | '-' :: c :: value =>
    g.names.filterMap fun n =>
      if n.1 = ['-', c] then some (.flag n.2 false (some ⟨false, value⟩))
      else if cs.isPrefixOf n.1 then some (.flag n.2 (isLong n.1) none)
      else none
  | _ => []

def isDigits (cs : List Char) : Bool := !cs.isEmpty && cs.all fun c => (Text.digit? c).isSome

/-- Digits with at most one point among them, after a minus sign. A line feed may end them. -/
def isNegativeNumber : List Char → Bool
  | '-' :: body =>
    let body := (Text.beforeEnd? ['\n'] body).getD body
    isDigits body ||
      (match body.dropWhile (· ≠ '.') with
      | _ :: fraction =>
        isDigits fraction && (body.takeWhile (· ≠ '.')).all fun c => (Text.digit? c).isSome
      | [] => false)
  | _ => false

/-- What a word before any separator is; none when it may abbreviate several flags. -/
def classify (g : Grammar) (text : String) : Option Role :=
  match text.toList with
  | [] | ['-'] => some .word
  | '-' :: tail =>
    let cs := '-' :: tail
    match g.named? cs with
    | some i => some (.flag i (isLong cs) none)
    | none =>
      match (splitValue? cs).bind fun s => (g.named? s.1).map (·, isLong s.1, s.2) with
      | some (i, long, value) => some (.flag i long (some ⟨true, value⟩))
      | none =>
        match g.candidates cs with
        | [role] => some role
        | _ :: _ :: _ => none
        | [] => if isNegativeNumber cs || cs.contains ' ' then some .word else some .unknown
  | _ => some .word

def classifyAll (g : Grammar) : List String → Option (List Word)
  | [] => some []
  | text :: rest =>
    if text = "--" then some (⟨text, .separator⟩ :: rest.map (⟨·, .word⟩))
    else
      match g.classify text, g.classifyAll rest with
      | some role, some words => some (⟨text, role⟩ :: words)
      | _, _ => none

end Grammar

def skipSeparators (ws : List Word) : List Word := ws.dropWhile fun w => w.role = .separator

/-- What is left after a positional took its words, if it can take them. -/
def Arity.take? (a : Arity) (ws : List Word) : Option (List Word) :=
  match a, skipSeparators ws with
  | .one, ⟨_, .word⟩ :: more => some (skipSeparators more)
  | .optional, ⟨_, .word⟩ :: more => some (skipSeparators more)
  | .optional, more => some more
  | .rest, ⟨_, .word⟩ :: _ => some []
  | _, _ => none

/-- The words of a positional. Of a limited one the first separator is no word. -/
def Arity.values (a : Arity) (texts : List String) : List String :=
  match a with
  | .rest => texts
  | _ => texts.erase "--"

/-- Positionals that are still to be read, with their places. -/
abbrev Pending := List (Nat × Arity)

def takePositionals : Pending → List Word → List Event × Pending × List Word
  | [], ws => ([], [], ws)
  | (i, a) :: pending, ws =>
    match a.take? ws with
    | none => ([], (i, a) :: pending, ws)
    | some rest =>
      let taken := (ws.take (ws.length - rest.length)).map Word.text
      let (events, pending, rest) := takePositionals pending rest
      (.positional i (a.values taken) :: events, pending, rest)

/-- What reading a flag takes: the events, what is left over of its word, and the words behind. -/
structure Taken where
  events : List Event
  extras : List String
  rest : List Word
  deriving DecidableEq, Repr

def Grammar.needsValue (g : Grammar) (i : Nat) : Bool := (g.flags[i]?.map Flag.valued).getD false

/-- A flag without anything joined to it: if it needs a value, the next word is it. -/
def plainFlag (g : Grammar) (i : Nat) (following : List Word) : Option Taken :=
  if g.needsValue i then
    match following with
    | ⟨text, .word⟩ :: rest => some ⟨[.flag i (some text)], [], rest⟩
    | _ => none
  else some ⟨[.flag i none], [], following⟩

/-- A flag with something joined to it: its value, or after a short flag without value further
short flags. Letters that are no flag are left over. -/
def joinedFlag (g : Grammar) (following : List Word) (i : Nat) (long equals : Bool) :
    List Char → Option Taken
  | [] => if g.needsValue i then some ⟨[.flag i (some "")], [], following⟩ else none
  | c :: cs =>
    if g.needsValue i then some ⟨[.flag i (some (String.ofList (c :: cs)))], [], following⟩
    else if long || equals || c = '-' then none
    else
      match g.named? ['-', c] with
      | none => some ⟨[.flag i none], [String.ofList ('-' :: c :: cs)], following⟩
      | some j =>
        let read :=
          match cs with
          | [] => plainFlag g j following
          | '=' :: ds => joinedFlag g following j false true ds
          | d :: ds => joinedFlag g following j false false (d :: ds)
        read.map fun t => { t with events := .flag i none :: t.events }

/-- Reads the words of a line from some place on. Each turn takes a word at least. -/
def readWords (g : Grammar) : Nat → Pending → List Word → List String → Reading
  | 0, _, _, _ => ⟨[], .broken⟩
  | fuel + 1, pending, ws, extras =>
    let before := ws.takeWhile fun w => !w.role.isFlag
    match ws.dropWhile fun w => !w.role.isFlag with
    | [] =>
      let (events, pending, rest) := takePositionals pending ws
      ⟨events, .complete (extras ++ rest.map Word.text) (pending.any fun p => p.2 = .one)⟩
    | ⟨text, role⟩ :: following =>
      let (events, pending, rest) :=
        if before.isEmpty then ([], pending, ws) else takePositionals pending ws
      if rest.length < ws.length then
        let more := readWords g fuel pending rest extras
        ⟨events ++ more.events, more.ending⟩
      else
        let extras := extras ++ before.map Word.text
        match role with
        | .flag i long joined =>
          let read :=
            match joined with
            | none => plainFlag g i following
            | some j => joinedFlag g following i long j.equals j.value
          match read with
          | none => ⟨events, .broken⟩
          | some taken =>
            let more := readWords g fuel pending taken.rest (extras ++ taken.extras)
            ⟨events ++ taken.events ++ more.events, more.ending⟩
        | _ =>
          let more := readWords g fuel pending following (extras ++ [text])
          ⟨events ++ more.events, more.ending⟩

def Grammar.read (g : Grammar) (line : List String) : Reading :=
  match g.classifyAll line with
  | none => ⟨[], .broken⟩
  | some ws =>
    readWords g (ws.length + 1) ((g.positionals.zipIdx).map fun p => (p.2, p.1)) ws []

end LiveConfig.Command
