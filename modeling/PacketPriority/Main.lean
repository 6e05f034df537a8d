import PacketPriority.CommandLine.Run

/-!
The program.

`main` reads what the run needs from the machine, and writes what the run answers.
-/

namespace PacketPriority.CommandLine

/-- Why reading failed. -/
def readError : IO.Error → ReadError
  | .noFileOrDirectory .. => .notFound
  | .inappropriateType .. => .isDirectory
  | e => .other e.toString

/-- What stands under a path. -/
def fetch (path : String) : IO Document := do
  try
    let bytes ← IO.FS.readBinFile path
    match String.fromUTF8? bytes with
    | some content => return .text bytes.size content
    | none => return .unreadable bytes.size .notText
  catch e =>
    match readError e with
    | .isDirectory => return .unreadable 0 .isDirectory
    | error => return .missing error

/-- The variables that settings take, as they are set. -/
def fetchVariables : IO Settings.Variables := do
  let mut found : List (String × String) := []
  for name in Settings.variableNames do
    if let some value ← IO.getEnv name then found := (name, value) :: found
  let values := found
  return fun name => values.lookup name

/-- What an invocation sees of the machine: the settings file and the rule file. -/
def fetchHost (i : Invocation) : IO Host := do
  let env ← fetchVariables
  let settings ← fetch i.configPath
  let host : Host := ⟨fun _ => settings, env⟩
  match rulesPath? host i with
  | none => return host
  | some path =>
    let rules ← fetch path
    return { host with document := fun p => if p = i.configPath then settings else rules }

/-- Tells of a command line that leads to no action. -/
def tell (m : Misuse) : IO Unit :=
  match m with
  | .helpAsked => IO.print program.synopsis
  | .versionAsked => IO.println (program.name ++ " 0.1.0")
  | m => do
    IO.eprintln ("error: " ++ m.message)
    IO.eprint program.synopsis

end PacketPriority.CommandLine

open PacketPriority.CommandLine in
def main (args : List String) : IO UInt32 := do
  match Invocation.ofArguments args with
  | .error m =>
    tell m
    return m.exitCode.toUInt32
  | .ok i =>
    let answer := run (← fetchHost i) i
    IO.print (answer.output i.format)
    if let some e := answer.failure then IO.eprintln ("error: " ++ e.message)
    return answer.exitCode.toUInt32
