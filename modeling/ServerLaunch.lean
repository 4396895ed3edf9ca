import ServerLaunch.Text.Blank
import ServerLaunch.Text.Lines
import ServerLaunch.Text.Digit
import ServerLaunch.Text.Lowercase
import ServerLaunch.Text.Quoted
import ServerLaunch.Text.Utf8
import ServerLaunch.Number.Binary64
import ServerLaunch.Number.Layout
import ServerLaunch.Number.Numeral
import ServerLaunch.Json.Flaw
import ServerLaunch.Json.Lexeme
import ServerLaunch.Json.Reader
import ServerLaunch.Fault
import ServerLaunch.Files.Disk
import ServerLaunch.Files.Canonical
import ServerLaunch.Files.Edit
import ServerLaunch.Files.Search
import ServerLaunch.Action
import ServerLaunch.Machine
import ServerLaunch.Server
import ServerLaunch.Settings
import ServerLaunch.Slash
import ServerLaunch.Version
import ServerLaunch.Workspace
import ServerLaunch.Descriptor
import ServerLaunch.Extension
import ServerLaunch.Package.Canned
import ServerLaunch.Proofs.Watching
import ServerLaunch.Proofs.Dialogue
import ServerLaunch.Proofs.Launching
import ServerLaunch.Proofs.Sessions
import ServerLaunch.Proofs.Trust
import ServerLaunch.Proofs.Reporting
import ServerLaunch.Proofs.Resolution
import ServerLaunch.Proofs.Independence
import ServerLaunch.Proofs.Convergence
import ServerLaunch.Proofs.Paths
import ServerLaunch.Proofs.Walking
import ServerLaunch.Proofs.Directories
import ServerLaunch.Proofs.Links
import ServerLaunch.Proofs.Straight
import ServerLaunch.Proofs.Resolving
import ServerLaunch.Proofs.SelfLocation
import ServerLaunch.Proofs.Rooted
import ServerLaunch.Proofs.Validation
import ServerLaunch.Proofs.Variables
import ServerLaunch.Proofs.Querying
import ServerLaunch.Proofs.Installing
import ServerLaunch.Proofs.Stages
import ServerLaunch.Proofs.Complaints
import ServerLaunch.Proofs.Rechecking
import ServerLaunch.Proofs.Timeouts
import ServerLaunch.Proofs.Traffic
import ServerLaunch.Proofs.Belonging
import ServerLaunch.Proofs.Agreement
import ServerLaunch.Proofs.Normalizing
import ServerLaunch.Proofs.Switches
import ServerLaunch.Proofs.LineBreaks
import ServerLaunch.Proofs.Documents
import ServerLaunch.Proofs.Probing
import ServerLaunch.Proofs.Manifests
import ServerLaunch.Proofs.Seating
