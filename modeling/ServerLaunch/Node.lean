import ServerLaunch.Workspace

/-!
# The Node program

Finding the program that runs the bridge script: the one that is set if it is a file,
else the one that the host finds, else the one on the search path of the process.

## Main definitions

* `Machine.node`: the path of the program.
-/
namespace ServerLaunch

/-- The name of the program. -/
def nodeName : String := "node"

/-- The error when there is no such program. -/
def nodeNotFound : LaunchError :=
  .notFound "node not found. Please install Node.js to run intelephense"

/-- The path of the program. One that is set but leads to no file is passed over. -/
def Machine.node (m : Machine) (workspace : Workspace) (set? : Option String) :
    Except Failure String :=
  match set?.filter fun path => path != "" && m.disk.holdsFile path with
  | some path => .ok path
  | none =>
    match (workspace.find? m nodeName).or (m.program? nodeName) with
    | some path => .ok path
    | none => .error (.launch nodeNotFound)

end ServerLaunch
