import LogDigest.Command

/-!
# The program

Reads logs on standard input and writes their digest to standard output, line by line.  Reports
and metrics go to standard error.
-/

namespace LogDigest.Program

def content? (path : String) : IO (Option String) := do
  try
    return some (← IO.FS.readFile path)
  catch _ =>
    return none

def contents (paths : List String) : IO (List (String × String)) :=
  paths.filterMapM fun path => do
    return (← content? path).map fun text => (path, text)

/-- The file that adds to the environment, in this directory or the nearest one above it. -/
def variablesFile? : IO (Option String) := do
  let depth := ((← IO.currentDir).toString.toList.filter (· == '/')).length
  let paths := (List.range (depth + 1)).map fun steps =>
    String.join (List.replicate steps "../") ++ Settings.variablesPath
  return ((← contents paths).map (·.2)).head?

def environment : IO Environment := do
  let block ← IO.FS.readBinFile "/proc/self/environ"
  return Environment.ofBlock ((String.fromUTF8? block).getD "")

def files (environment : Environment) : IO Settings.Files := do
  let source ← variablesFile?
  let own (path : String) : Option String :=
    if path = Settings.variablesPath then source else none
  let names := [Settings.generalName, Settings.modeName (Settings.completed own environment)]
  let found ← contents (names.flatMap fun name => name :: (Settings.Files.pathOf? name).toList)
  return fun path => own path <|> found.lookup path

def emit (session : Stream.Session) : IO Stream.Session := do
  let (bytes, rest) := session.drained
  let stdout ← IO.getStdout
  stdout.write ⟨bytes⟩
  stdout.flush
  return rest

/-- Sends standard input through a session. -/
partial def pump (command : Command) (session : Stream.Session) : IO Stream.Session := do
  let chunk ← (← IO.getStdin).read 65536
  if chunk.isEmpty then emit (session.close command.setup)
  else
    let arrival := Stream.Arrival.bytes chunk.toList
    pump command (← emit (session.step command.setup Stream.defaultCapacity arrival))

def fail (error : CommandError) : IO UInt32 := do
  IO.eprintln error.text
  return 1

def run : IO UInt32 := do
  let environment ← environment
  match Command.prepare (← files environment) environment with
  | .error error => fail error
  | .ok command =>
    let session ← pump command command.session
    match Command.error? session with
    | some error => fail error
    | none =>
      (command.metrics session.tally).forM IO.eprintln
      return 0

end LogDigest.Program

def main : IO UInt32 :=
  LogDigest.Program.run
