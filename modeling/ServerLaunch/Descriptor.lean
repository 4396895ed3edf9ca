import ServerLaunch.Located

/-!
# Launch descriptors

How the host starts a server. A server that runs on its own is started with the flag
for its standard streams. Any other one is started through the bridge: the Node
program runs the bridge script of the extension, which runs the server's script.

## Main definitions

* `Descriptor`: a command with its arguments and environment.
* `Descriptor.direct`, `Descriptor.bridged`: the two shapes.
* `Located.descriptor`: the descriptor of a server, given what a bridge needs.
* `Machine.extensionDir`: the directory of the extension.
-/
namespace ServerLaunch

/-- How the host starts a process. No environment means the host's own. -/
structure Descriptor where
  command : String
  arguments : List String := []
  environment : List (String × String) := []
deriving DecidableEq, Repr

namespace Descriptor

/-- The command and its arguments in one list. -/
def argv (d : Descriptor) : List String := d.command :: d.arguments

/-- A server that runs on its own. -/
def direct (server : Path) : Descriptor :=
  { command := server.text
    arguments := [Server.streamFlag] }

/-- The bridge script in the directory of the extension. -/
def bridgeScript (directory : Path) : Path := directory.joinText Server.bridgeScript

/-- A server's script, run through the bridge. -/
def bridged (node : String) (directory server : Path) : Descriptor :=
  { command := node
    arguments := [(bridgeScript directory).text, server.text] }

end Descriptor

/-- A bridge cannot be built from one part. -/
def incompleteBridge : Fault :=
  .value "node_path and extension_dir are required for bridged servers"

/-- The descriptor of a located server. Only a bridge needs the Node program and the
directory of the extension, and it needs both. -/
def Located.descriptor (located : Located) (node? directory? : Option String) :
    Except Fault Descriptor :=
  if located.direct then .ok (.direct located.path)
  else
    match node?, directory? with
    | some node, some directory => .ok (.bridged node (.ofText directory) located.path)
    | _, _ => .error incompleteBridge

/-! ## The directory of the extension -/

/-- Why the extension cannot tell where it is. -/
inductive SelfLocationFlaw where
  | noExecutable
  | unresolved (executable : String) (fault : Fault)
deriving DecidableEq, Repr

namespace SelfLocationFlaw

/-- The report of a flaw. -/
def report : SelfLocationFlaw → String
  | noExecutable => "could not determine the current executable path"
  | unresolved executable fault =>
    "could not resolve the current executable path " ++ Text.quote executable ++ ": "
      ++ fault.message

/-- The fault that a flaw stands for. -/
def cause? : SelfLocationFlaw → Option Fault
  | noExecutable => none
  | unresolved _ fault => some fault

/-- The launch error for a flaw. -/
def toFailure (flaw : SelfLocationFlaw) : Failure := .launch (.selfLocation flaw.report flaw.cause?)

end SelfLocationFlaw

/-- A failure to resolve the running program. Only what the system reports is a matter of
the extension's place; other faults are passed on. -/
def unresolvedExecutable (executable : String) (fault : Fault) : Failure :=
  if fault.isSystem then (SelfLocationFlaw.unresolved executable fault).toFailure
  else .fault fault

/-- The directory of the extension: the one that is set, or the one that the running
program lies in. -/
def Machine.extensionDir (m : Machine) (set? : Option String) : Except Failure Path :=
  match set?.filter (· != "") with
  | some directory => (m.disk.canonical m.depths.links false directory).mapError .fault
  | none =>
    if m.executable = "" then .error SelfLocationFlaw.noExecutable.toFailure
    else
      match m.disk.canonical m.depths.links true m.executable with
      | .ok path => .ok path.parent
      | .error fault => .error (unresolvedExecutable m.executable fault)

end ServerLaunch
