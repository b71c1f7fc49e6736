import DisclosureRelay.CommandLine.History
import DisclosureRelay.Proofs.Lifecycle.Hooks
import DisclosureRelay.Proofs.Lifecycle.OnlyCall
import DisclosureRelay.Proofs.Login.Page

/-!
# How a run ends

A run that gets as far as its login makes one call of it, and `Underway` says where it stands while
that call is under way: the lifecycle went through a row of events about that call, the page shows what
the lifecycle told it, and a report was made if the session data could not be used. Whatever happens
keeps this (`Underway.apply`), and each turn of the program brings the call nearer to its end
(`Underway.advance`), so that a run ends in one of the ways of `Outcome` (`ending_of_run`).
-/

namespace DisclosureRelay.CommandLine

open Lifecycle (reached done)

@[simp] lemma lifecycleEffects_append (effects more : List Login.Effect) :
    lifecycleEffects (effects ++ more) = lifecycleEffects effects ++ lifecycleEffects more :=
  List.filterMap_append

@[simp] lemma posts_append (effects more : List Login.Effect) :
    posts (effects ++ more) = posts effects ++ posts more :=
  List.filterMap_append

/-- What the lifecycle does is all of its own, and no report. -/
lemma views_lifecycle (effects : List Lifecycle.Effect) :
    lifecycleEffects (effects.map .lifecycle) = effects ∧ posts (effects.map .lifecycle) = [] := by
  constructor
  · rw [lifecycleEffects, List.filterMap_map]
    exact List.filterMap_some
  · simp [posts, List.filterMap_map]

/-- The reporter takes nothing in of what the lifecycle does. -/
lemma foldl_absorb_reporter (effects : List Lifecycle.Effect) (login : Login) :
    (effects.foldl Login.absorb login).reporter = login.reporter := by
  induction effects generalizing login with
  | nil => rfl
  | cons effect effects ih =>
    rw [List.foldl_cons, ih]
    cases effect <;> rfl

namespace Prepared

/-- Where a run stands while the call of its login is under way. -/
structure Underway (config : Session.Config) (settings : Settings) (hasError : Bool)
    (reports : List String) (row : List Lifecycle.Event) (p : Prepared) : Prop where
  lifecycle : p.login.lifecycle = reached config row
  effects : lifecycleEffects p.effects = done config row
  view : p.login.view =
    (Lifecycle.hooks (done config row)).foldl View.call (.initial hasError settings.supportContact)
  reported : p.login.reporter.reported = decide (reports ≠ [])
  unused : p.login.reporter.calls 1 = none
  posts : posts p.effects = reports

namespace Underway

variable {config : Session.Config} {settings : Settings} {hasError : Bool} {reports : List String}
  {row : List Lifecycle.Event} {p : Prepared}

/-- An event of the lifecycle goes on with its row. -/
lemma apply (underway : Underway config settings hasError reports row p) (event : Lifecycle.Event) :
    Underway config settings hasError reports (row ++ [event]) (p.apply (.lifecycle event)) := by
  have goes : p.login.lifecycle.step event = (reached config row).step event := by
    rw [underway.lifecycle]
  have does : (p.apply (.lifecycle event)).effects =
      p.effects ++ (p.login.lifecycle.step event).2.map .lifecycle := rfl
  obtain ⟨own, none⟩ := views_lifecycle (p.login.lifecycle.step event).2
  refine ⟨?_, ?_, ?_, ?_, ?_, ?_⟩
  · rw [Lifecycle.reached_concat, ← goes]
    exact p.login.lifecycle_step event
  · rw [does, lifecycleEffects_append, underway.effects, own, Lifecycle.done_concat, goes]
  · rw [Lifecycle.done_concat, ← goes, Lifecycle.hooks_append, List.foldl_append, ← underway.view]
    exact Login.foldl_absorb_view ..
  · rw [← underway.reported]
    exact congrArg Reporter.reported (foldl_absorb_reporter ..)
  · rw [← underway.unused]
    exact congrArg (Reporter.calls · 1) (foldl_absorb_reporter ..)
  · rw [does, posts_append, underway.posts, none, List.append_nil]

/-- A request of the widget changes nothing of it. -/
lemma asks (underway : Underway config settings hasError reports row p)
    (request : Except Http.Fault Http.Request) :
    Underway config settings hasError reports row (p.apply (.asks theCall request)) := by
  unfold Prepared.apply Login.step
  dsimp only
  split
  · refine ⟨underway.lifecycle, ?_, underway.view, underway.reported, underway.unused, ?_⟩
    · rw [lifecycleEffects_append, underway.effects]
      exact List.append_nil _
    · rw [posts_append, underway.posts]
      exact List.append_nil _
  · simpa using underway

/-- Neither does a request that is sent, whatever becomes of it. -/
lemma ask (underway : Underway config settings hasError reports row p)
    (request : Except Http.Fault Http.Request) :
    Underway config settings hasError reports row (p.ask request).2 :=
  ⟨underway.lifecycle, underway.effects, underway.view, underway.reported, underway.unused,
    underway.posts⟩

end Underway

/-- A report under a number that is not in use is dropped if one was made before. -/
lemma report_dropped (p : Prepared) {id : ReportId} (failure : Failure) (source : String)
    (fresh : p.login.reporter.calls id = none) (latch : p.login.reporter.reported = true) :
    p.report id failure source =
      { p with
        login := { p.login with reporter := p.login.reporter.moveTo id (.ended (.ok false)) }
        effects := p.effects ++ [.report (.finish id (.ok false))] } := by
  simp [report, apply, Login.step, Reporter.step, Reporter.finish, Reporter.moveTo, fresh, latch]

/-- The first report is posted, and raises the latch. -/
lemma report_posted (p : Prepared) {id : ReportId} (failure : Failure) (source : String)
    (fresh : p.login.reporter.calls id = none) (latch : p.login.reporter.reported = false) :
    ∃ reporter result network requests, reporter.reported = true ∧
      (∀ other, other ≠ id → reporter.calls other = p.login.reporter.calls other) ∧
      p.report id failure source =
        { login := { p.login with reporter }
          network
          effects := p.effects ++ [.report (.post id (Report.ofFailure failure source).json.print),
            .report (.finish id result)]
          requests
          loaded := p.loaded } := by
  let body := (Report.ofFailure failure source).json.print
  let asked := p.network.ask p.login.limitMs (p.login.reporter.request body)
  let result := Reporter.conclude p.login.reporter.url asked.reply
  refine ⟨({ p.login.reporter with reported := true }.moveTo id .posting).moveTo id (.ended result),
    result, asked.network, p.requests ++ asked.seen, rfl, fun other ne => ?_, ?_⟩
  · simp [Reporter.moveTo, ne]
  · simp [report, apply, Login.step, Reporter.step, Reporter.finish, Reporter.moveTo, fresh, latch, ask,
      body, asked, result, Login.limitMs, Reporter.request]

/-- A report is nothing to the lifecycle, and is posted unless one was made before. -/
lemma views_report (p : Prepared) {id : ReportId} (failure : Failure) (source : String)
    (fresh : p.login.reporter.calls id = none) :
    lifecycleEffects (p.report id failure source).effects = lifecycleEffects p.effects ∧
      posts (p.report id failure source).effects = posts p.effects ++
        if p.login.reporter.reported then []
        else [(Report.ofFailure failure source).json.print] := by
  cases latch : p.login.reporter.reported with
  | true =>
    rw [p.report_dropped failure source fresh latch, lifecycleEffects_append, posts_append]
    exact ⟨List.append_nil _, rfl⟩
  | false =>
    obtain ⟨reporter, result, network, requests, -, -, posted⟩ :=
      p.report_posted failure source fresh latch
    rw [posted, lifecycleEffects_append, posts_append]
    exact ⟨List.append_nil _, rfl⟩

/-- What a widget is given says where the result will be found. -/
lemma resultUrl_of_handover {config : Session.Config} {handover : Widget.Handover}
    (given : config.handover = .ok handover) : ∃ url, config.resultUrl = .ok url := by
  unfold Session.Config.handover at given
  split at given
  · cases given
  · split at given
    · cases given
    · exact ⟨_, ‹_›⟩

/-- The widget ends once the user acted, after it asked for the result if the user confirmed. -/
lemma exists_endWidget (p : Prepared) (user : User) {url : String}
    (found : p.login.lifecycle.config.resultUrl = .ok url) :
    ∃ outcome q, p.endWidget user = q.apply (.lifecycle (.widgetEnded theCall outcome)) ∧
      (q = p ∨ ∃ request, q = ((p.apply (.asks theCall request)).ask request).2) := by
  unfold endWidget
  rw [found]
  cases user with
  | confirm => exact ⟨_, _, rfl, .inr ⟨_, rfl⟩⟩
  | interrupt | close => exact ⟨_, _, rfl, .inl rfl⟩

namespace Underway

variable {config : Session.Config} {settings : Settings} {hasError : Bool} {reports : List String}
  {row : List Lifecycle.Event} {p : Prepared}

lemma endWidget (underway : Underway config settings hasError reports row p) (user : User)
    {url : String} (found : config.resultUrl = .ok url) :
    ∃ outcome, Underway config settings hasError reports (row ++ [.widgetEnded theCall outcome])
      (p.endWidget user) := by
  have same : p.login.lifecycle.config = config := by
    rw [underway.lifecycle, Lifecycle.reached_config]
  obtain ⟨outcome, q, ends, rfl | ⟨request, rfl⟩⟩ := p.exists_endWidget user (same ▸ found)
  · exact ⟨outcome, ends ▸ underway.apply _⟩
  · exact ⟨outcome, ends ▸ ((underway.asks request).ask request).apply _⟩

/-- An exchange of the call is replied to. -/
lemma finishExchange (underway : Underway config settings hasError reports row p)
    (exchange : Exchange) :
    ∃ reply, Underway config settings hasError reports (row ++ [.replied theCall reply])
      (p.finishExchange exchange) :=
  ⟨_, (underway.ask _).apply _⟩

/-- A turn of the program brings the call nearer to its end. -/
lemma advance (underway : Underway config settings hasError reports row p) {stage : Lifecycle.Stage}
    (at' : p.login.lifecycle.stage? theCall = some stage)
    (ready : ∀ widget, stage = .atWidget widget →
      p.login.lifecycle.calls theCall = some ⟨.open, .atWidget widget⟩ ∧
        p.login.lifecycle.phase.isTerminal = false)
    (user : User) :
    ∃ more next, (∀ event ∈ more, event.caller = theCall) ∧
      Underway config settings hasError reports (row ++ more) (p.advance user) ∧
      (p.advance user).login.lifecycle.stage? theCall = some next ∧ next.left ≤ stage.left - 1 := by
  have went {event : Lifecycle.Event} {q : Prepared} {next : Lifecycle.Stage}
      (goes : Underway config settings hasError reports (row ++ [event]) q)
      (own : event.caller = theCall)
      (reaches : (p.login.lifecycle.step event).1.stage? theCall = some next)
      (nearer : next.left ≤ stage.left - 1) :
      ∃ more next, (∀ event ∈ more, event.caller = theCall) ∧
        Underway config settings hasError reports (row ++ more) q ∧
        q.login.lifecycle.stage? theCall = some next ∧ next.left ≤ stage.left - 1 := by
    refine ⟨[event], next, by simpa using own, goes, ?_, nearer⟩
    rw [goes.lifecycle, Lifecycle.reached_concat, ← underway.lifecycle, reaches]
  unfold Prepared.advance
  rw [at']
  cases stage with
  | atWidget widget =>
    obtain ⟨made, nonterminal⟩ := ready widget rfl
    have waits := at'
    rw [underway.lifecycle] at waits
    obtain ⟨handover, given, -⟩ := Lifecycle.startWidget_mem_done waits
    obtain ⟨url, found⟩ := resultUrl_of_handover given
    cases user with
    | interrupt =>
      obtain ⟨next, reaches, nearer⟩ := Lifecycle.State.step_interrupt_left made nonterminal
      exact went (underway.apply _) rfl reaches nearer
    | confirm | close =>
      obtain ⟨outcome, goes⟩ := underway.endWidget _ found
      obtain ⟨next, reaches, nearer⟩ := Lifecycle.State.step_widgetEnded_left at' outcome
      exact went goes rfl reaches nearer
  | atExchange exchange =>
    obtain ⟨reply, goes⟩ := underway.finishExchange exchange
    obtain ⟨next, reaches, nearer⟩ :=
      Lifecycle.State.step_replied_left at' (.inl ⟨exchange, rfl⟩) reply
    exact went goes rfl reaches (Nat.le_sub_one_of_lt nearer)
  | interrupted =>
    obtain ⟨reply, goes⟩ := underway.finishExchange .abort
    obtain ⟨next, reaches, nearer⟩ := Lifecycle.State.step_replied_left at' (.inr rfl) reply
    exact went goes rfl reaches (Nat.le_sub_one_of_lt nearer)
  | ended ending => exact ⟨[], _, nofun, by simpa using underway, at', Nat.le_refl _⟩

/-- What the page shows once the call failed. -/
lemma screen (underway : Underway config settings hasError reports row p) {failure : Failure}
    (failed : (theCall, .failed failure) ∈ Lifecycle.decidedCalls (done config row)) :
    p.login.view.screen = .error .loginUnsuccessful .errorReturningFailed
      (some (.errorPersists, settings.supportContact)) := by
  have told : .onReturningFailed ∈ Lifecycle.hooks (done config row) := by
    rw [Lifecycle.hooks_reached]
    refine List.mem_append_right _ (List.mem_map.2 ⟨(theCall, failure), ?_, rfl⟩)
    exact Lifecycle.mem_failedCalls.2 failed
  rw [underway.view, View.foldl_call]
  simp [View.screen, View.initial, told]

/-- Once the only call ended, so does the run: with a return or with a failure that is reported. -/
lemma outcome (underway : Underway config settings hasError reports row p)
    (own : ∀ event ∈ row, event.caller = theCall) {ending : Lifecycle.Ending}
    (ended : p.login.lifecycle.stage? theCall = some (.ended ending)) {arguments : Arguments}
    {file : Settings.FileRead} (loaded : arguments.settings file = .ok settings)
    (usable : ¬arguments.Unusable file) (bad : arguments.BadSession → ∃ body, reports = [body])
    (good : ¬arguments.BadSession → reports = []) : Outcome arguments file p.finish := by
  have standing := Lifecycle.standing_reached config row
  have only other (ne : other ≠ theCall) : (reached config row).stage? other = none :=
    Lifecycle.stage?_reached fun event mem same => ne (same.symm.trans (own event mem))
  have ended' := ended
  rw [underway.lifecycle] at ended'
  unfold finish
  rw [ended]
  obtain ⟨assertion, rfl, armed⟩ | ⟨failure, rfl, armed, failed, phase⟩ := standing.of_only only ended'
  · refine .returning usable rfl ?_ ?_ ?_
    · show Lifecycle.armedReturns (lifecycleEffects p.effects) = _
      rw [underway.effects, armed]
    · intro unread
      obtain ⟨body, one⟩ := bad unread
      exact ⟨body, underway.posts.trans one⟩
    · exact fun read => underway.posts.trans (good read)
  · rw [← underway.effects] at armed
    rw [← underway.lifecycle] at phase
    have reported := underway.reported
    have shown : (p.wrapUp (some failure)).ending = .finished (.error .loginUnsuccessful
        .errorReturningFailed (some (.errorPersists, settings.supportContact)))
        p.login.lifecycle.phase p.login.reporter.reported (some failure) := by
      show Ending.finished p.login.view.screen _ _ _ = _
      rw [underway.screen failed]
    have does : (p.wrapUp (some failure)).effects = (p.report 1 failure "relay").effects := rfl
    obtain ⟨nothing, posted⟩ := p.views_report failure "relay" underway.unused
    rw [underway.posts, underway.reported] at posted
    obtain ⟨body, one⟩ : ∃ body, CommandLine.posts (p.report 1 failure "relay").effects = [body] := by
      by_cases unread : arguments.BadSession
      · obtain ⟨body, rfl⟩ := bad unread
        exact ⟨body, by simpa using posted⟩
      · obtain rfl := good unread
        exact ⟨_, by simpa using posted⟩
    refine .failed loaded usable shown (by rw [shown]; rfl) phase ?_ (does ▸ one)
    rw [does, nothing, armed]

end Underway

end Prepared

namespace Prepared

/-- At first the call waits for its widget, which an interrupt may stop, or for the reply to an error. -/
lemma opening (config : Session.Config) (hasError : Bool) :
    let s := reached config [.call theCall (if hasError then .handleError else .run 0)]
    ∃ stage, s.stage? theCall = some stage ∧ stage.left ≤ 3 ∧
      ∀ widget, stage = .atWidget widget →
        s.calls theCall = some ⟨.open, .atWidget widget⟩ ∧ s.phase.isTerminal = false := by
  cases hasError with
  | true =>
    have flagged : Lifecycle.Flagged (reached config [.call theCall .handleError]) theCall
        (done config [.call theCall .handleError]) :=
      Lifecycle.flagged_reached config nofun
    obtain waits | ⟨ending, ended⟩ := flagged.stage
    · exact ⟨_, waits, by decide, nofun⟩
    · exact ⟨_, ended, Nat.zero_le 3, nofun⟩
  | false =>
    obtain ⟨made, nonterminal⟩ | made := Lifecycle.calls_of_run config theCall 0
    · refine ⟨.atWidget 0, by simp [Lifecycle.State.stage?, made], Nat.le_refl 3, ?_⟩
      rintro _ ⟨⟩
      exact ⟨made, nonterminal⟩
    · exact ⟨.atExchange .error, by simp [Lifecycle.State.stage?, made], by decide, nofun⟩

end Prepared

end DisclosureRelay.CommandLine
