import LogDigest.Settings
import LogDigest.Settings.Layer
import LogDigest.Stream.Session

/-!
# The command

A run of the command takes its settings from a directory and an environment, selects the active
profile, and sends standard input through a session.  It ends with the session, or with a report
of what kept it from starting.  A failure has a code that stays the same when its text
changes.
-/

namespace LogDigest

/-! ## Failures -/

inductive Failure where
  | settings (error : SettingsError)
  | stream (fault : Stream.Fault)
  | profile (error : ProfileError)

namespace Failure

def message : Failure → String
  | .settings error => "Configuration error: " ++ error.message
  | .stream fault => "I/O error: " ++ fault.message
  | .profile error => "Profile error: " ++ error.message

def code : Failure → String
  | .settings _ => "CONFIG_ERROR"
  | .stream _ => "IO_ERROR"
  | .profile (.notFound _) => "PROFILE_NOT_FOUND"
  | .profile _ => "PROFILE_ERROR"

end Failure

/-! ## Reports -/

inductive CommandError where
  | settings (error : SettingsError)
  | profiles (error : ProfileError)
  | unknownProfile (id : String) (error : ProfileError)
  | stream (fault : Stream.Fault)

namespace CommandError

def headline : CommandError → String
  | .settings _ => "Failed to load configuration"
  | .profiles error => error.message
  | .unknownProfile id _ => "Unknown active profile '" ++ id ++ "'"
  | .stream fault => (Failure.stream fault).message

def cause? : CommandError → Option String
  | .settings error => some error.message
  | .profiles _ => none
  | .unknownProfile _ error => some error.message
  | .stream _ => none

def indented (text : String) : List Char :=
  (text.toList.splitOn '\n').flatMap fun line => "\n    ".toList ++ line

def text (error : CommandError) : String :=
  "Error: " ++ error.headline ++
    match error.cause? with
    | some cause => "\n\nCaused by:" ++ String.ofList (indented cause)
    | none => ""

/-- The lines of a report.  A carriage return may stand before the end of a line. -/
def report (error : CommandError) : List String :=
  (error.text.toList.splitOn '\n').map fun line =>
    String.ofList (if line.getLast? = some '\r' then line.dropLast else line)

end CommandError

structure Command where
  setup : Stream.Setup
  reportMetrics : Bool

namespace Command

def prepare (files : Settings.Files) (environment : Environment) :
    Except CommandError Command := do
  let settings ← (Settings.load files environment).mapError .settings
  let registry ← settings.registry.mapError .profiles
  let profile ← (registry.get settings.activeProfile).mapError
    (.unknownProfile settings.activeProfile)
  return {
    setup := ⟨Digester.ofPlan profile.plan settings.view, settings.options⟩
    reportMetrics := settings.output.reportMetrics }

def session (_ : Command) : Stream.Session :=
  Stream.Session.start .waiting none

def metrics (command : Command) (tally : Tally) : List String :=
  if command.reportMetrics then tally.report (0 < tally.renders) else []

def error? (session : Stream.Session) : Option CommandError :=
  match session.ending with
  | some (.fault fault) => some (.stream fault)
  | _ => none

structure Outcome where
  exitCode : Nat := 0
  output : List UInt8 := []
  report : List String := []
  metrics : List String := []

def Outcome.ofError (error : CommandError) (output : List UInt8) : Outcome :=
  { exitCode := 1, output, report := error.report }

def run (files : Settings.Files) (environment : Environment) (input : List UInt8) : Outcome :=
  match prepare files environment with
  | .error error => .ofError error []
  | .ok command =>
    let session := Stream.run command.setup .waiting none false [.bytes input]
    let output := session.sink.taken.toList
    match error? session with
    | some error => .ofError error output
    | none => { output, metrics := command.metrics session.tally }

end Command

end LogDigest
