import DisclosureRelay.CommandLine.Program
import DisclosureRelay.Lifecycle.History

/-!
# How a run ended

Views of the effects of a run: what the lifecycle did, and what was reported. `Outcome` lists the ways
in which a run ends, `Foreign` what can happen to its login from outside, and `Prepared.finish` is how
a run ends once its only call did.
-/

namespace DisclosureRelay.CommandLine

/-- What the lifecycle did. -/
def lifecycleEffects (effects : List Login.Effect) : List Lifecycle.Effect :=
  effects.filterMap fun
    | .lifecycle effect => some effect
    | _ => none

/-- The bodies of the reports that were posted. -/
def posts (effects : List Login.Effect) : List String :=
  effects.filterMap fun
    | .report (.post _ body) => some body
    | _ => none

namespace Arguments

/-- The settings cannot be loaded, or the server or an endpoint for assertions is not given. -/
def Unusable (arguments : Arguments) (file : Settings.FileRead) : Prop :=
  (∃ message, arguments.settings file = .error message) ∨ arguments.server = "" ∨
    arguments.assertUrl = "" ∨ arguments.errorAssertUrl = ""

/-- Session data is given that cannot be used, and the page was not marked as failed. -/
def BadSession (arguments : Arguments) : Prop :=
  arguments.hasError = false ∧ ∃ raw failure, arguments.sessionData = some raw ∧
    Session.Data.parse raw = .error failure

end Arguments

/-- The ways in which a run ends. -/
inductive Outcome (arguments : Arguments) (file : Settings.FileRead) (run : Run) : Prop where
  /-- There is nothing to begin with, and nothing is done or asked for. -/
  | refused {message} :
    arguments.Unusable file → run.ending = .refused message → run.ending.exitCode = some 1 →
    run.effects = [] → run.requests = [] →
    Outcome arguments file run
  /-- One return is scheduled; all that was reported is session data that cannot be used. -/
  | returning {assertion} :
    ¬arguments.Unusable file → run.ending = .returning assertion →
    Lifecycle.armedReturns (lifecycleEffects run.effects) = [assertion] →
    (arguments.BadSession → ∃ body, posts run.effects = [body]) →
    (¬arguments.BadSession → posts run.effects = []) →
    Outcome arguments file run
  /-- The user was not returned, which the page says and one report. -/
  | failed {settings phase reported failure body} :
    arguments.settings file = .ok settings → ¬arguments.Unusable file →
    run.ending = .finished (.error .loginUnsuccessful .errorReturningFailed
      (some (.errorPersists, settings.supportContact))) phase reported (some failure) →
    run.ending.exitCode = some 1 → phase = .erroring ∨ phase = .aborting →
    Lifecycle.armedReturns (lifecycleEffects run.effects) = [] → posts run.effects = [body] →
    Outcome arguments file run

namespace Prepared

/-- The run once the call of its login ended. -/
def finish (p : Prepared) : Run :=
  match p.login.lifecycle.stage? theCall with
  | some (.ended (.returning assertion)) => p.run (.returning assertion)
  | some (.ended (.failed failure)) => p.wrapUp (some failure)
  | _ => p.wrapUp none

end Prepared

end DisclosureRelay.CommandLine
