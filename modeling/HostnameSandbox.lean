import HostnameSandbox.Main
import HostnameSandbox.Proofs.CommandLine.Malformed
import HostnameSandbox.Proofs.CommandLine.Verbatim
import HostnameSandbox.Proofs.Family.Orphans
import HostnameSandbox.Proofs.Family.Succession
import HostnameSandbox.Proofs.Namespaces.Agreement
import HostnameSandbox.Proofs.Namespaces.Direct
import HostnameSandbox.Proofs.Namespaces.Order
import HostnameSandbox.Proofs.Namespaces.Outings
import HostnameSandbox.Proofs.Relaying.Relays
import HostnameSandbox.Proofs.CommandLine.Verbosity
import HostnameSandbox.Proofs.Logging.Answers
import HostnameSandbox.Proofs.Logging.Loading
import HostnameSandbox.Proofs.Logging.Spawning
import HostnameSandbox.Proofs.Logging.Steps
import HostnameSandbox.Proofs.Launching.Execution
import HostnameSandbox.Proofs.Supervision.Vigil
import HostnameSandbox.Proofs.Launching.Isolation
import HostnameSandbox.Proofs.Family.Diagnostics
import HostnameSandbox.Proofs.Logging.Discretion
import HostnameSandbox.Proofs.Logging.Indifference
import HostnameSandbox.Proofs.Process.Completion
import HostnameSandbox.Proofs.Supervision.Account
import HostnameSandbox.Proofs.Supervision.Courses
import HostnameSandbox.Proofs.Namespaces.Identity
import HostnameSandbox.Proofs.Launching.Missing
import HostnameSandbox.Proofs.Streams.Passage
import HostnameSandbox.Proofs.Text.Joining
import HostnameSandbox.Proofs.Launching.Configuration
