import DisclosureRelay.CommandLine.Program

/-!
# The command line

Runs the program on its arguments, environment, settings file and standard input. No peer can be
reached from here, so every request ends without an answer; a line on standard input confirms that
the app is done.
-/

namespace DisclosureRelay.CommandLine

/-- The bytes of a file, or the reason why there are none. -/
def readSettings (path : String) : IO Settings.FileRead := do
  try
    return .ok (← IO.FS.readBinFile path)
  catch
    | .noFileOrDirectory _ code _ =>
      return .error ("No such file or directory (os error " ++ toString code ++ ")")
    | .permissionDenied _ code _ =>
      return .error ("Permission denied (os error " ++ toString code ++ ")")
    | other => return .error (toString other)

/-- What the user does: a line confirms, and the end of the input closes the channel. -/
def readUser : IO User := do
  let line ← (← IO.getStdin).getLine
  return if line.isEmpty then .close else .confirm

/-- Waits for the return: the page is written where one is asked for, and otherwise the form cannot
be posted, so that the fallback ends the run. -/
def carryOut (arguments : Arguments) (settings : Settings) (assertion : Assertion) :
    IO (Option Failure) := do
  IO.sleep (UInt32.ofNat settings.submitDelayMs)
  match arguments.formOutput with
  | some path =>
    IO.FS.writeFile path (Return.Form.ofAssertion assertion).page
    return none
  | none =>
    IO.sleep (UInt32.ofNat (settings.fallbackTimeoutMs - settings.submitDelayMs))
    return some .returnTimeout

/-- Says what a run complains about and gives its exit code. -/
def finish (ending : Ending) : IO UInt32 := do
  match ending.complaint with
  | some text => (← IO.getStderr).putStrLn text
  | none => pure ()
  return UInt32.ofNat (ending.exitCode.getD 0)

/-- Runs the program with arguments that were read. -/
def perform (arguments : Arguments) : IO UInt32 := do
  let file ← readSettings (arguments.config.getD "")
  match prepare arguments file .unreachable with
  | .error run => finish run.ending
  | .ok prepared =>
    let user ← if prepared.waits then readUser else pure .close
    match (prepared.conclude user).ending with
    | .returning assertion =>
      let failure ← carryOut arguments prepared.login.settings assertion
      finish (.finished prepared.login.view.screen prepared.login.lifecycle.phase false failure)
    | ending => finish ending

end DisclosureRelay.CommandLine

open DisclosureRelay.CommandLine in
/-- The program. -/
def main (arguments : List String) : IO UInt32 := do
  let environment ← Name.all.mapM fun option => do
    return (option.environmentName, ← IO.getEnv option.environmentName)
  match Arguments.parse arguments fun name => (environment.lookup name).join with
  | .error stop => finish (.stopped stop)
  | .ok parsed => perform parsed
