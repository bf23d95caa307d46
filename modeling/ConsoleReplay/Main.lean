import ConsoleReplay.Command.Run

/-!
# The program

It looks up what its command line needs, carries the command out and prints what
comes of it.
-/

namespace ConsoleReplay.Program

/-- The name of the program, which its directory of settings bears too. -/
def name : String := "ttyreplay"

/-- The path of the user's own settings. -/
def userSettings : IO (Option String) := do
  let directory ← match ← IO.getEnv "XDG_CONFIG_HOME" with
    | some path => if path.startsWith "/" then pure (some path) else pure none
    | none => pure none
  let home := (← IO.getEnv "HOME").map (· ++ "/.config")
  return (directory.or home).map (· ++ "/" ++ name ++ "/config.toml")

/-- What is found under a path. -/
def entry (path : String) : IO Entry := do
  try
    if ← (← IO.FS.realPath path).isDir then return .directory
    return .file (← IO.FS.readBinFile path).toList
  catch _ => return .absent

/-- All of the standard input. -/
def input : IO (List UInt8) := do
  return (← (← IO.getStdin).readBinToEnd).toList

/-- What a fault tells the user: the whole task that failed, and what it came down
to. -/
def report (fault : Fault) : String :=
  "\n    ".intercalate (("Error: " ++ fault.headline) :: fault.contexts.tail)

/-- Carry out a command and give its exit code. -/
def run (args : List String) : IO UInt32 := do
  let some invocation := Invocation.ofArguments? args
    | IO.eprintln s!"usage: {name} [--config PATH] replay|summary|screen [FILE] ..."
      return 2
  let user ← userSettings
  let entries ← (invocation.paths ++ user.toList).mapM fun path => do
    return (path, ← entry path)
  let bytes ← if invocation.readsInput then input else pure []
  let surroundings : Surroundings :=
    ⟨fun path => (entries.lookup path).getD .absent, user, bytes⟩
  match invocation.run surroundings with
  | .printed text =>
    IO.print text
    return 0
  | .failed fault =>
    IO.eprintln (report fault)
    return 1
  | .misused => return 2
  | .stopped =>
    IO.eprintln s!"{name}: a tab was past the last stop"
    return 101

end ConsoleReplay.Program

/-- The program. -/
def main (args : List String) : IO UInt32 := ConsoleReplay.Program.run args
