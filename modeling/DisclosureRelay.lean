import DisclosureRelay.Json.Grammar
import DisclosureRelay.Main
import DisclosureRelay.Scenario.Play
import DisclosureRelay.Proofs.Lifecycle.Inversion
import DisclosureRelay.Proofs.Lifecycle.Standing
import DisclosureRelay.Proofs.Lifecycle.Exchanges
import DisclosureRelay.Proofs.Lifecycle.Phases
import DisclosureRelay.Login.History
import DisclosureRelay.Return.History
import DisclosureRelay.Proofs.Return.Inversion
import DisclosureRelay.Proofs.Login.Lifecycle
import DisclosureRelay.Proofs.Login.Endings
import DisclosureRelay.Proofs.Lifecycle.Alike
import DisclosureRelay.Proofs.Lifecycle.Interrupt
import DisclosureRelay.Proofs.Login.Alike
import DisclosureRelay.Proofs.Login.Interrupt
import DisclosureRelay.Proofs.Return.Course
import DisclosureRelay.Proofs.Return.Cancel
import DisclosureRelay.Proofs.Return.Timers
import DisclosureRelay.Proofs.Return.Late
import DisclosureRelay.Proofs.Lifecycle.Waiting
import DisclosureRelay.Proofs.Assertion.Answer
import DisclosureRelay.Proofs.Return.Forms
import DisclosureRelay.Proofs.Login.Returns
import DisclosureRelay.Proofs.Lifecycle.Hooks
import DisclosureRelay.Proofs.Login.Page
import DisclosureRelay.Proofs.Login.Settled
import DisclosureRelay.Proofs.Lifecycle.Outcome
import DisclosureRelay.Proofs.Login.Outcome
import DisclosureRelay.Proofs.Lifecycle.OnlyCall
import DisclosureRelay.CommandLine.History
import DisclosureRelay.Proofs.CommandLine.Ending
import DisclosureRelay.Proofs.Assertion.Verdict
import DisclosureRelay.Proofs.Report.Latch
import DisclosureRelay.Proofs.Lifecycle.Widgets
import DisclosureRelay.Proofs.Session.Address
import DisclosureRelay.Proofs.Text.Html
import DisclosureRelay.Proofs.Return.Page
import DisclosureRelay.Proofs.Text.FormUrlencoded
import DisclosureRelay.Proofs.Return.Body
import DisclosureRelay.Proofs.Session.Data
import DisclosureRelay.Proofs.Session.Relocation
import DisclosureRelay.Proofs.Widget.Inversion
import DisclosureRelay.Proofs.Widget.Abort
import DisclosureRelay.Proofs.Settings.Members
import DisclosureRelay.Proofs.Settings.Load
import DisclosureRelay.Proofs.Settings.Safe
import DisclosureRelay.Proofs.Assertion.Body
