import LiveConfig.Command.Run
set_option autoImplicit false

/-!
The program: reads its environment and its command line and prints what the command prints. It
has no connection to any store.
-/
namespace LiveConfig

/-- Variables as the system hands them over: name and value joined by an equals sign, each ended
by a zero character. -/
def Environment.ofBlock (block : String) : Environment :=
  .ofList ((block.toList.splitOn '\x00').filterMap fun cs =>
    (Command.Grammar.splitValue? cs).map fun e => (String.ofList e.1, String.ofList e.2))

end LiveConfig

open LiveConfig

def main (arguments : List String) : IO UInt32 := do
  let env := Environment.ofBlock (← IO.FS.readFile "/proc/self/environ")
  let done := Command.run .utf8 env World.offline arguments
  for notice in done.entries.filterMap Entry.notice? do
    if notice.level = .warning ∨ notice.level = .error then
      IO.eprintln s!"{notice.level.token} - {notice.text}"
  match done.value with
  | .ok result =>
    IO.print (String.ofList ((result.out.getD []).filterMap Text.CodePoint.char?))
    IO.eprint (result.err.getD "")
    match result.failure with
    | none => return (result.exit.getD 0).toUInt32
    | some fault =>
      IO.eprintln fault.text
      return 1
  | .error fault =>
    IO.eprintln fault.text
    return 1
