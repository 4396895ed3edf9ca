import ServerLaunch.Workspace

/-!
# Locating the server

Finding a server that can be used as it is, without network and without changing
anything. A program that the host finds comes first. Only if the caller asks for it,
what the workspace itself provides is looked at: the program, then the entry script.

## Main definitions

* `Located`: a server that was found, and whether it runs on its own.
* `Workspace.locate`: the first match.
-/
namespace ServerLaunch

/-- A server that was found. One that is not direct has to be run through the bridge. -/
structure Located where
  path : Path
  direct : Bool
deriving DecidableEq, Repr

namespace Workspace

/-- The server among the files of the workspace: its program, direct if it may be run, or
else its entry script. -/
def locateLocal (workspace : Workspace) (m : Machine) : Except Fault (Option Located) := do
  if ← m.disk.isFile workspace.localProgram then
    return some ⟨workspace.localProgram, m.disk.holdsProgram workspace.localProgram.text⟩
  if ← m.disk.isFile workspace.entryScript then
    return some ⟨workspace.entryScript, false⟩
  return none

/-- A server that can be used as it is. -/
def locate (workspace : Workspace) (m : Machine) (server : String) (searchLocal : Bool) :
    Except Fault (Option Located) :=
  match workspace.find? m server with
  | some path => .ok (some ⟨.ofText path, true⟩)
  | none => if searchLocal then workspace.locateLocal m else .ok none

end Workspace

end ServerLaunch
