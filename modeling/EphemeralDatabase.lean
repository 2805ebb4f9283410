import EphemeralDatabase.Cluster.Simulator
import EphemeralDatabase.CommandLine.Commands
import EphemeralDatabase.Fixture.Session
import EphemeralDatabase.Main
import EphemeralDatabase.Proofs.Lifecycle.Coherence
import EphemeralDatabase.Proofs.Lifecycle.History
import EphemeralDatabase.Proofs.Machine.Trace
import EphemeralDatabase.Proofs.Provision.Course
import EphemeralDatabase.Proofs.Lifecycle.Agreement
import EphemeralDatabase.Proofs.Lifecycle.Exclusion
import EphemeralDatabase.Proofs.Provision.Calls
import EphemeralDatabase.Proofs.Provision.Ending
import EphemeralDatabase.Proofs.Lifecycle.Progress
import EphemeralDatabase.Proofs.Teardown.Course
import EphemeralDatabase.Proofs.Lifecycle.Reference
import EphemeralDatabase.Proofs.Lifecycle.Leftover
import EphemeralDatabase.Proofs.Lifecycle.Credentials
import EphemeralDatabase.Proofs.Lifecycle.Retry
import EphemeralDatabase.Proofs.Ensure.Race
import EphemeralDatabase.Proofs.Lifecycle.Cycle
import EphemeralDatabase.Proofs.Server.World
import EphemeralDatabase.Proofs.Settings.Reading
import EphemeralDatabase.Proofs.Server.Scene
import EphemeralDatabase.Proofs.Server.Simulator
import EphemeralDatabase.Proofs.Provision.Display
import EphemeralDatabase.Proofs.Lifecycle.First
import EphemeralDatabase.Proofs.Settings.Path
import EphemeralDatabase.Proofs.Settings.Rereading
import EphemeralDatabase.Proofs.Settings.Resolution
import EphemeralDatabase.Proofs.Settings.Precedence
import EphemeralDatabase.Proofs.Console.Markup
import EphemeralDatabase.Proofs.CommandLine.Printing
import EphemeralDatabase.Proofs.CommandLine.Refusal
import EphemeralDatabase.Proofs.Provision.Standing
import EphemeralDatabase.Proofs.Settings.Names
import EphemeralDatabase.Proofs.CommandLine.Status
import EphemeralDatabase.Proofs.Machine.Run
import EphemeralDatabase.Proofs.Poll.Reference
import EphemeralDatabase.Proofs.Poll.Timing
import EphemeralDatabase.Proofs.Poll.Bound
import EphemeralDatabase.Proofs.Provision.Bound
import EphemeralDatabase.Proofs.Settings.Password
import EphemeralDatabase.Proofs.Secrecy.Mask
import EphemeralDatabase.Proofs.Secrecy.Twins
import EphemeralDatabase.Proofs.Secrecy.Fixture
import EphemeralDatabase.Proofs.Secrecy.Transcript
import EphemeralDatabase.Proofs.Text.Numeral
import EphemeralDatabase.Proofs.Text.Percent
import EphemeralDatabase.Proofs.Handle.Keywords
import EphemeralDatabase.Proofs.Handle.Url
import EphemeralDatabase.Proofs.Decimal.Double
import EphemeralDatabase.Proofs.Poll.Limit
import EphemeralDatabase.Proofs.Console.Pictograph
import EphemeralDatabase.Proofs.Console.Verbatim
import EphemeralDatabase.Proofs.CommandLine.Line
import EphemeralDatabase.Proofs.CommandLine.Fidelity
import EphemeralDatabase.Proofs.Handle.Locator
import EphemeralDatabase.Proofs.Adapter.Classification
import EphemeralDatabase.Proofs.Adapter.Endpoint
import EphemeralDatabase.Proofs.CommandLine.Deletion
import EphemeralDatabase.Proofs.Resource.Sameness
import EphemeralDatabase.Proofs.Resource.Decoding
import EphemeralDatabase.Proofs.Resource.Variables
import EphemeralDatabase.Proofs.Settings.Idempotence
import EphemeralDatabase.Proofs.Settings.Label
import EphemeralDatabase.Proofs.Settings.Json
import EphemeralDatabase.Proofs.Settings.Reach
