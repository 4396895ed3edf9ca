import ServerLaunch.Files.Canonical
import ServerLaunch.Machine
import ServerLaunch.Server

/-!
# Workspaces

The project that a server is launched for. The host owns it; the launcher needs only
its root and a way to search the programs that the host offers.

## Main definitions

* `Workspace`: a root and a search for programs.
* `Workspace.host`: a workspace whose host answers from a table.
* `Workspace.Local`: a directory of the machine as a workspace.
-/
namespace ServerLaunch

/-- A workspace: the path of its root, and the programs that its host finds by name. -/
structure Workspace where
  root : String
  program? : Machine → String → Option String

namespace Workspace

/-- A program that the host finds; an empty path is none. -/
def find? (workspace : Workspace) (m : Machine) (name : String) : Option String :=
  (workspace.program? m name).filter (· != "")

/-- The path of the root. -/
def rootPath (workspace : Workspace) : Path := .ofText workspace.root

/-- The entry script of the server that is installed in the workspace. -/
def entryScript (workspace : Workspace) : Path :=
  workspace.rootPath.joinText Server.entryScript

/-- The program of the server that the workspace provides. -/
def localProgram (workspace : Workspace) : Path :=
  workspace.rootPath.joinText Server.localProgram

/-- A workspace whose host answers from a table of programs. -/
def host (root : String) (programs : List (String × String)) : Workspace :=
  { root
    program? := fun _ name => programs.lookup name }

/-- A directory of the machine, with the search path to use in place of the process's. -/
structure Local where
  root : Path
  searchPath? : Option String
deriving DecidableEq, Repr

namespace Local

/-- The directory that a text leads to, as far as it exists. -/
def ofText (m : Machine) (root : String) (searchPath? : Option String) : Except Fault Local :=
  (m.disk.canonical m.depths.links false root).map fun path => ⟨path, searchPath?⟩

/-- The directory as a workspace. -/
def toWorkspace (directory : Local) : Workspace :=
  { root := directory.root.text
    program? := fun m name => m.disk.search (directory.searchPath?.getD m.searchPath) name }

/-- The workspace in one line. -/
def describe (directory : Local) : String :=
  "LocalWorkspace(root=" ++ Text.quote directory.root.text ++ ")"

end Local

end Workspace

end ServerLaunch
